import EmailMarkup.Proofs.Word

/-! The one argument of a command on a path. It is taken as the path unless it starts with a hyphen; then it is a call
for help, or a switch that is not known, or a path again if it looks like a negative number or holds a space. -/
namespace EmailMarkup.Cli

def CallsHelp (argument : String) : Prop :=
  "-h".toList <+: argument.toList ∨
    "--".toList <+: argument.toList ∧ argument.toList.takeWhile (· != '=') <+: "--help".toList

instance (argument) : Decidable (CallsHelp argument) := by unfold CallsHelp; infer_instance

def NamesPath (argument : String) : Prop :=
  argument.toList.head? ≠ some '-' ∨ argument = "-" ∨
    (looksNegative argument.toList ∨ ' ' ∈ argument.toList) ∧ ¬ CallsHelp argument

instance (argument) : Decidable (NamesPath argument) := by unfold NamesPath; infer_instance

def onPath : Grammar := ⟨[.help], .required⟩

theorem namedHelp (name : String) :
    onPath.named? name = if name = "-h" ∨ name = "--help" then some .help else none := by
  by_cases short : name = "-h"
  · simp [onPath, Grammar.named?, Switch.help, short]
  · by_cases long : name = "--help"
    · simp [onPath, Grammar.named?, Switch.help, long]
    · simp [onPath, Grammar.named?, Switch.help, short, long]

theorem namedOnly {name : String} {known : Switch} (named : onPath.named? name = some known) : known = .help := by
  rw [namedHelp] at named
  split at named
  · exact (Option.some.inj named).symm
  · contradiction

theorem pathShaped : onPath.Shaped := by decide

theorem callsPath (argument : String) : onPath.Calls argument ↔ CallsHelp argument := by
  have short : Invokes argument "-h" ↔ "-h".toList <+: argument.toList := iff_of_eq (if_neg (by decide))
  have long : Invokes argument "--help" ↔ "--".toList <+: argument.toList ∧
      argument.toList.takeWhile (· != '=') <+: "--help".toList := iff_of_eq (if_pos (by decide))
  rw [CallsHelp, ← short, ← long]
  simp [Grammar.Calls, onPath, Switch.help]

theorem namesWord {argument : String} : NamesPath argument ↔ onPath.Word argument := by
  rw [NamesPath, Grammar.Word, callsPath]

section Switches

variable {argument : String} {c : Char} {rest : List Char}

theorem callsHelpLong (long : argument.toList = '-' :: '-' :: rest) :
    CallsHelp argument ↔ (splitValue argument.toList).1.isPrefixOf "--help".toList = true := by
  have short : ¬ ['-', 'h'] <+: '-' :: '-' :: rest := by simp [List.cons_prefix_cons]
  have hyphens : ['-', '-'] <+: '-' :: '-' :: rest := ⟨rest, rfl⟩
  rw [List.isPrefixOf_iff_prefix, splitValue, CallsHelp, long]
  exact (or_iff_right short).trans (and_iff_right hyphens)

theorem callsHelpShort (short : argument.toList = '-' :: c :: rest) (other : c ≠ '-') :
    CallsHelp argument ↔ c = 'h' := by
  have long : ¬ ['-', '-'] <+: '-' :: c :: rest := by simp [List.cons_prefix_cons, Ne.symm other]
  have letter : ['-', 'h'] <+: '-' :: c :: rest ↔ c = 'h' := by simp [List.cons_prefix_cons, eq_comm]
  rw [CallsHelp, short]
  exact (or_iff_left fun both => long both.1).trans letter

theorem candidatesCall (switch : argument.toList = '-' :: c :: rest) (calls : CallsHelp argument) :
    ∃ value, onPath.candidates argument.toList = [(.help, value)] := by
  by_cases second : c = '-'
  · subst second
    rw [callsHelpLong switch] at calls
    have stem : (splitValue argument.toList).1 = '-' :: '-' :: rest.takeWhile (· != '=') := by simp [switch, splitValue]
    have short : (splitValue argument.toList).1.isPrefixOf "-h".toList = false := by rw [stem]; rfl
    have listed : onPath.candidates argument.toList =
        ([(Switch.help, "-h"), (.help, "--help")].filter fun entry =>
          (splitValue argument.toList).1.isPrefixOf entry.2.toList).map fun entry =>
            (entry.1, (splitValue argument.toList).2) := by
      rw [switch]
      rfl
    exact ⟨_, by rw [listed]; simp only [List.filter_cons, short, calls]; rfl⟩
  · rw [callsHelpShort switch second] at calls
    subst calls
    have listed : onPath.candidates argument.toList =
        ([(Switch.help, "-h"), (.help, "--help")].filter fun entry =>
          entry.2.toList == ['-', 'h'] || argument.toList.isPrefixOf entry.2.toList).map fun entry =>
            (entry.1, if entry.2.toList = ['-', 'h'] then some (String.ofList rest) else none) := by
      rw [switch]
      simp [Grammar.candidates, onPath, Switch.help]
    have long : ("--help".toList == ['-', 'h'] || argument.toList.isPrefixOf "--help".toList) = false := by
      rw [switch]
      simp [List.isPrefixOf]
    exact ⟨_, by rw [listed]; simp only [List.filter_cons, long]; rfl⟩

def HelpToken (token : Token) : Prop := (∃ value, token = .switch .help value) ∨ ∃ run, token = .letters run

theorem tokenOfHelp (s : List Char) (value : Option String) : HelpToken (Grammar.tokenOf s .help value) := by
  unfold Grammar.tokenOf
  split
  · split
    · exact .inl ⟨_, rfl⟩
    · exact .inr ⟨_, rfl⟩
  · exact .inl ⟨_, rfl⟩

theorem classifyCall (switch : argument.toList = '-' :: c :: rest) (calls : CallsHelp argument) :
    ∃ token, onPath.classify argument = .ok token ∧ HelpToken token := by
  obtain ⟨value, only⟩ := candidatesCall switch calls
  have awaited : ¬ (argument.toList.head? ≠ some '-' ∨ argument.toList.length = 1) := by simp [switch]
  rw [Grammar.classify]
  dsimp only
  rw [if_neg awaited]
  split
  · rename_i known named
    exact ⟨_, rfl, .inl ⟨none, by rw [namedOnly named]⟩⟩
  · rename_i known value _ named _
    exact ⟨_, rfl, namedOnly named ▸ tokenOfHelp _ _⟩
  · rw [only]
    exact ⟨_, rfl, tokenOfHelp _ _⟩

end Switches

theorem classifyOther {path : String} (other : ¬ NamesPath path) :
    ∃ token, onPath.classify path = .ok token ∧ (HelpToken token ∨ token = .unknown) := by
  obtain plain | ⟨c, rest, switch⟩ := Grammar.argumentShape path
  · exact absurd (plain.imp_right .inl) other
  · by_cases calls : CallsHelp path
    · obtain ⟨token, seen, help⟩ := classifyCall switch calls
      exact ⟨token, seen, .inl help⟩
    · refine ⟨.unknown, ?_, .inr rfl⟩
      rw [Grammar.classifyCalm pathShaped switch fun called => calls ((callsPath path).mp called),
        if_neg fun word => other (.inr (.inr ⟨word, calls⟩))]

theorem tokensSingle (path : String) (bare : path ≠ "--") :
    onPath.tokens [path] = (onPath.classify path).map ([·]) := by
  rw [Grammar.tokens]
  · cases onPath.classify path <;> rfl
  · exact bare

theorem commandRead (path : String) : Command.read ["validate", path] =
    (Arguments.read onPath [path]).map fun arguments => .validate (arguments.operand.getD "") := by
  have unfolded : Command.read ["validate", path] = (Arguments.read onPath [path]).bind fun arguments =>
      .ok (.validate (arguments.operand.getD "")) := rfl
  rw [unfolded]
  cases Arguments.read onPath [path] <;> rfl

theorem argumentsPath {path : String} (named : NamesPath path) :
    Arguments.read onPath [path] = .ok { operand := some path } := by
  have bare : path ≠ "--" := by
    rintro rfl
    exact absurd named (by decide)
  rw [Arguments.read, tokensSingle path bare, Grammar.classifyWord pathShaped (namesWord.mp named)]
  rfl

theorem readPath {path : String} (named : NamesPath path) : Command.read ["validate", path] = .ok (.validate path) := by
  rw [commandRead, argumentsPath named]
  rfl

theorem readOther {path : String} (other : ¬ NamesPath path) :
    ∃ error, Command.read ["validate", path] = .error error := by
  by_cases bare : path = "--"
  · subst bare
    exact ⟨.usage, rfl⟩
  · obtain ⟨token, seen, kind⟩ := classifyOther other
    have read : ∃ error, Arguments.read onPath [path] = .error error := by
      rw [Arguments.read, tokensSingle path bare, seen]
      obtain (⟨value, rfl⟩ | ⟨run, rfl⟩) | rfl := kind
      · cases value <;> exact ⟨_, rfl⟩
      · exact ⟨_, rfl⟩
      · exact ⟨_, rfl⟩
    obtain ⟨error, failed⟩ := read
    exact ⟨error, by rw [commandRead, failed]; rfl⟩

end EmailMarkup.Cli
