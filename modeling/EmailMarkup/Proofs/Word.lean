import EmailMarkup.Cli.Command
import Mathlib.Data.List.Infix

/-! Words among the arguments of a command. An argument is a word unless it starts with a hyphen; then it is one only if it
calls no switch and looks like a negative number or holds a space. -/
namespace EmailMarkup.Cli

/-- An argument that calls a switch by one of its names: a long name, which may be cut short, up to an equals sign, and a
short one with whatever runs together with it. -/
def Invokes (argument name : String) : Prop :=
  if "--".toList <+: name.toList then
    "--".toList <+: argument.toList ∧ argument.toList.takeWhile (· != '=') <+: name.toList
  else name.toList <+: argument.toList

instance (argument name) : Decidable (Invokes argument name) := by unfold Invokes; infer_instance

namespace Grammar

def Calls (grammar : Grammar) (argument : String) : Prop :=
  ∃ known ∈ grammar.switches, ∃ name ∈ known.names, Invokes argument name

instance (grammar argument) : Decidable (Calls grammar argument) := by unfold Calls; infer_instance

def Word (grammar : Grammar) (argument : String) : Prop :=
  argument.toList.head? ≠ some '-' ∨ argument = "-" ∨
    (looksNegative argument.toList ∨ ' ' ∈ argument.toList) ∧ ¬ grammar.Calls argument

instance (grammar argument) : Decidable (Word grammar argument) := by unfold Word; infer_instance

def Shaped (grammar : Grammar) : Prop := ∀ known ∈ grammar.switches, ∀ name ∈ known.names,
  "--".toList <+: name.toList ∨ name.toList.head? = some '-' ∧ name.toList.length = 2

instance (grammar) : Decidable (Shaped grammar) := by unfold Shaped; infer_instance

variable {grammar : Grammar} {argument : String} {c : Char} {rest : List Char}

theorem namedCalm (calm : ¬ grammar.Calls argument) {front : String} (starts : front.toList <+: argument.toList)
    (covers : argument.toList.takeWhile (· != '=') <+: front.toList) : grammar.named? front = none := by
  refine List.find?_eq_none.mpr fun known listed named => calm ⟨known, listed, front, by simpa using named, ?_⟩
  unfold Invokes
  split
  · rename_i long
    exact ⟨long.trans starts, covers⟩
  · exact starts

theorem candidatesCalm (shaped : grammar.Shaped) (switch : argument.toList = '-' :: c :: rest)
    (calm : ¬ grammar.Calls argument) : grammar.candidates argument.toList = [] := by
  have silent : ∀ entry ∈ grammar.switches.flatMap fun known => known.names.map (known, ·),
      ("--".toList <+: entry.2.toList ∨ entry.2.toList.head? = some '-' ∧ entry.2.toList.length = 2) ∧
        ¬ Invokes argument entry.2 := by
    intro entry listed
    obtain ⟨known, member, paired⟩ := List.mem_flatMap.mp listed
    obtain ⟨name, named, rfl⟩ := List.mem_map.mp paired
    exact ⟨shaped known member name named, fun invokes => calm ⟨known, member, name, named, invokes⟩⟩
  unfold Invokes at silent
  by_cases second : c = '-'
  · subst second
    have stem : argument.toList.takeWhile (· != '=') = '-' :: '-' :: rest.takeWhile (· != '=') := by simp [switch]
    have cut : grammar.candidates argument.toList =
        ((grammar.switches.flatMap fun known => known.names.map (known, ·)).filter fun entry =>
          (argument.toList.takeWhile (· != '=')).isPrefixOf entry.2.toList).map fun entry =>
            (entry.1, (splitValue argument.toList).2) := by
      rw [switch]
      rfl
    rw [cut, List.map_eq_nil_iff, List.filter_eq_nil_iff]
    intro entry listed short
    rw [List.isPrefixOf_iff_prefix] at short
    have long : "--".toList <+: entry.2.toList := by
      refine List.IsPrefix.trans ?_ short
      rw [stem]
      exact ⟨_, rfl⟩
    have silent := (silent entry listed).2
    rw [if_pos long] at silent
    exact silent ⟨by rw [switch]; exact ⟨rest, rfl⟩, short⟩
  · have cut : grammar.candidates argument.toList =
        ((grammar.switches.flatMap fun known => known.names.map (known, ·)).filter fun entry =>
          entry.2.toList == ['-', c] || argument.toList.isPrefixOf entry.2.toList).map fun entry =>
            (entry.1, if entry.2.toList = ['-', c] then some (String.ofList rest) else none) := by
      rw [switch]
      simp [candidates]
    rw [cut, List.map_eq_nil_iff, List.filter_eq_nil_iff]
    intro entry listed short
    rw [Bool.or_eq_true, beq_iff_eq, List.isPrefixOf_iff_prefix] at short
    obtain ⟨shape, silent⟩ := silent entry listed
    by_cases long : "--".toList <+: entry.2.toList
    · obtain ⟨behind, name⟩ := long
      have name : '-' :: '-' :: behind = entry.2.toList := name
      rw [← name, switch] at short
      rcases short with same | early
      · exact second (List.cons.inj (List.cons.inj same).2).1.symm
      · exact second (List.cons_prefix_cons.mp (List.cons_prefix_cons.mp early).2).1
    · rw [if_neg long] at silent
      rcases short with same | early
      · exact silent (by rw [same, switch]; exact ⟨rest, rfl⟩)
      · have even : entry.2.toList.length ≤ argument.toList.length := by
          rw [(shape.resolve_left long).2, switch]
          exact Nat.le_add_left _ _
        exact silent (early.eq_of_length_le even ▸ List.prefix_rfl)

theorem classifyPlain (plain : argument.toList.head? ≠ some '-' ∨ argument = "-") :
    grammar.classify argument = .ok (.word argument) := by
  have word : argument.toList.head? ≠ some '-' ∨ argument.toList.length = 1 := by
    rcases plain with first | rfl
    · exact .inl first
    · exact .inr rfl
  exact if_pos word

theorem classifyCalm (shaped : grammar.Shaped) (switch : argument.toList = '-' :: c :: rest)
    (calm : ¬ grammar.Calls argument) : grammar.classify argument =
      if looksNegative argument.toList ∨ ' ' ∈ argument.toList then .ok (.word argument) else .ok .unknown := by
  have starts : argument.toList.takeWhile (· != '=') <+: argument.toList := List.takeWhile_prefix _
  have whole := namedCalm calm List.prefix_rfl starts
  have stem : grammar.named? (String.ofList (splitValue argument.toList).1) = none :=
    namedCalm calm (by rwa [String.toList_ofList]) (by rw [String.toList_ofList]; exact List.prefix_rfl)
  have awaited : ¬ (argument.toList.head? ≠ some '-' ∨ argument.toList.length = 1) := by simp [switch]
  rw [classify]
  dsimp only
  rw [if_neg awaited, whole, stem, candidatesCalm shaped switch calm]

theorem argumentShape (argument : String) : (argument.toList.head? ≠ some '-' ∨ argument = "-") ∨
    ∃ c rest, argument.toList = '-' :: c :: rest := by
  match chars : argument.toList with
  | [] => exact .inl (.inl (by simp))
  | [c] =>
      by_cases hyphen : c = '-'
      · exact .inl (.inr (String.toList_inj.mp (by rw [chars, hyphen]; rfl)))
      · exact .inl (.inl (by simpa using hyphen))
  | first :: c :: rest =>
      by_cases hyphen : first = '-'
      · exact .inr ⟨c, rest, by rw [hyphen]⟩
      · exact .inl (.inl (by simpa using hyphen))

theorem classifyWord (shaped : grammar.Shaped) (word : grammar.Word argument) :
    grammar.classify argument = .ok (.word argument) := by
  obtain plain | ⟨c, rest, switch⟩ := argumentShape argument
  · exact classifyPlain plain
  · obtain first | rfl | ⟨looks, calm⟩ := word
    · exact absurd (by rw [switch]; rfl) first
    · cases (switch : ['-'] = '-' :: c :: rest)
    · rw [classifyCalm shaped switch calm, if_pos looks]

end Grammar
end EmailMarkup.Cli
