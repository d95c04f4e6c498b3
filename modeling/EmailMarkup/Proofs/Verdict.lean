import EmailMarkup.Cli.Run
import EmailMarkup.Proofs.Collect
import EmailMarkup.Proofs.Lint
import EmailMarkup.Proofs.Operand
import EmailMarkup.Proofs.Stored
import Mathlib.Data.List.Forall2

/-! The verdict on files. Each of them is reported once, in the order they are collected in, and the run fails if one of
them has an error or if there is none. Issues are reported too, but do not fail the run. Each piece printed is a
line of the output, unless a path holds a line feed. -/
namespace EmailMarkup.Cli
open Files (World Location ContentError absoluteText pathLimit readBack)

inductive Reported (limit : Int) (name text : String) : List String → Prop where
  | sound (admitted : Gate.faults text = []) (clean : ∀ ids, Lint.issues limit (Email.read text ids).1 = []) :
      Reported limit name text ["OK    " ++ name]
  | doubtful {issues : List Issue} (admitted : Gate.faults text = [])
      (found : ∀ ids, Lint.issues limit (Email.read text ids).1 = issues) (some : issues ≠ []) :
      Reported limit name text (("WARN  " ++ name) :: issues.map fun issue => "  warning: " ++ issue.message)
  | broken {faults : List Fault} {issues : List Issue} (rejected : Gate.faults text = faults) (some : faults ≠ [])
      (found : ∀ ids, Lint.issues limit (Email.read text ids).1 = issues) :
      Reported limit name text (("FAIL  " ++ name) :: (faults.map fun fault => "  error: " ++ fault.message) ++
        issues.map fun issue => "  warning: " ++ issue.message)

theorem verdictReported (limit : Int) (name text : String) (ids : Ids) :
    Reported limit name text ((Verdict.ofSource limit text ids).lines name) := by
  have found (other : Ids) : Lint.issues limit (Email.read text other).1 = Lint.issues limit (Email.read text ids).1 :=
    Lint.issuesShown (by rw [readContents, readContents]) limit
  have lines : (Verdict.ofSource limit text ids).lines name =
      ((Verdict.ofSource limit text ids).word ++ "  " ++ name) ::
        ((Gate.faults text).map fun fault => "  error: " ++ fault.message) ++
          (Lint.issues limit (Email.read text ids).1).map fun issue => "  warning: " ++ issue.message := rfl
  have word : (Verdict.ofSource limit text ids).word = if Gate.faults text ≠ [] then "FAIL" else
      if Lint.issues limit (Email.read text ids).1 = [] then "OK  " else "WARN" := by
    simp [Verdict.word, Verdict.fails, Verdict.ofSource]
  rw [lines, word]
  by_cases admitted : Gate.faults text = []
  · rw [if_neg (not_not.mpr admitted), admitted]
    by_cases clean : Lint.issues limit (Email.read text ids).1 = []
    · rw [if_pos clean, clean]
      exact .sound admitted fun other => (found other).trans clean
    · rw [if_neg clean]
      exact .doubtful admitted found clean
  · rw [if_pos admitted]
    exact .broken rfl admitted found

section Lines

theorem placesFound {α : Type} {test : List Char → Option α} {s : List Char} {found : α}
    (member : found ∈ Markup.places test s) : ∃ rest, test rest = some found := by
  induction s with
  | nil => cases member
  | cons c s ih =>
      rcases List.mem_append.mp member with here | behind
      · exact ⟨_, Option.mem_toList.mp here⟩
      · exact ih behind

theorem namedWord {s name : List Char} (named : Markup.named? s = some name) : ∀ c ∈ name, Text.isWord c = true := by
  unfold Markup.named? at named
  split at named
  · split at named
    · cases named
    · cases named
      exact fun c => Text.wordChars
  · cases named

theorem unknownSingle {name : String} (plain : '\n' ∉ name.toList) :
    '\n' ∉ (Fault.unknownTag name).message.toList := by
  have valid : '\n' ∉ (", ".intercalate (Kind.tags.map (·.1))).toList := by decide +kernel
  unfold Fault.message
  dsimp only
  simp only [String.toList_append, List.mem_append, not_or]
  exact ⟨⟨⟨by decide, plain⟩, by decide⟩, valid⟩

theorem faultSingle {text : String} {fault : Fault} (found : fault ∈ Gate.faults text) :
    '\n' ∉ fault.message.toList := by
  rw [Gate.faultsNamed] at found
  rcases List.mem_append.mp found with counted | unknown
  · split at counted
    · cases counted
    · rw [List.mem_singleton.mp counted]
      decide
  · obtain ⟨name, met, rfl⟩ := List.mem_map.mp unknown
    obtain ⟨word, listed, rfl⟩ := List.mem_map.mp (List.mem_of_mem_filter (List.mem_eraseDups.mp met))
    obtain ⟨rest, named⟩ := placesFound listed
    refine unknownSingle ?_
    rw [String.toList_ofList]
    exact Text.outsideAll (namedWord named) (by decide)

theorem issueSingle (issue : Issue) : '\n' ∉ issue.message.toList := by
  cases issue with
  | empty => decide
  | flaw index flaw =>
      have digits : '\n' ∉ Nat.toDigits 10 (index + 1) := fun inside =>
        absurd (Nat.isDigit_of_mem_toDigits (by decide) (by decide) inside) (by decide)
      cases flaw <;> simp [Issue.message, digits]

theorem Reported.single {limit : Int} {name text : String} {report : List String}
    (reported : Reported limit name text report) (plain : '\n' ∉ name.toList) :
    ∀ line ∈ report, '\n' ∉ line.toList := by
  have warned (issues : List Issue) :
      ∀ line ∈ issues.map fun issue => "  warning: " ++ issue.message, '\n' ∉ line.toList := by
    rintro line listed
    obtain ⟨issue, -, rfl⟩ := List.mem_map.mp listed
    simp [issueSingle]
  cases reported with
  | sound admitted clean => simp [plain]
  | doubtful admitted found some => exact List.forall_mem_cons.mpr ⟨by simp [plain], warned _⟩
  | @broken faults issues rejected some found =>
      refine List.forall_mem_append.mpr ⟨List.forall_mem_cons.mpr ⟨by simp [plain], ?_⟩, warned _⟩
      rintro line listed
      obtain ⟨fault, member, rfl⟩ := List.mem_map.mp listed
      simp [faultSingle (rejected ▸ member)]

theorem reportsSingle {limit : Int} {texts : Location → String} {files : List Location} {reports : List (List String)}
    (reported : List.Forall₂ (fun file report => Reported limit (absoluteText file) (texts file) report) files reports)
    (plain : ∀ file ∈ files, '\n' ∉ (absoluteText file).toList) : ∀ line ∈ reports.flatten, '\n' ∉ line.toList := by
  induction reported with
  | nil => simp
  | cons first rest ih =>
      rw [List.forall_mem_cons] at plain
      rw [List.flatten_cons, List.forall_mem_append]
      exact ⟨first.single plain.1, ih plain.2⟩

theorem outputLines {printed : List String} (single : ∀ piece ∈ printed, '\n' ∉ piece.toList) :
    Text.lines (String.join (printed.map (· ++ "\n"))).toList = printed.map String.toList ++ [[]] := by
  induction printed with
  | nil => rfl
  | cons piece rest ih =>
      rw [List.forall_mem_cons] at single
      have parts : (String.join ((piece :: rest).map (· ++ "\n"))).toList =
          piece.toList ++ '\n' :: (String.join (rest.map (· ++ "\n"))).toList := by
        simp [String.toList_join]
      rw [parts, Text.linesFeed, Text.linesWithout single.1, ih single.2]
      rfl

end Lines

section Judge

variable {world : World} {limit : Int} {ids : Ids} {folders : Nat}

theorem judgeCons {failed : Bool} {file : Location} {rest : List Location} {text : String}
    (read : world.read (absoluteText file) = .ok text) : judge world limit ids failed (file :: rest) =
      let tail := judge world limit ids (failed || !(Gate.faults text).isEmpty) rest
      { tail.after (Email.readRecords text) with
        printed := (Verdict.ofSource limit text ids).lines (absoluteText file) ++ tail.printed } := by
  rw [judge, read]
  rfl

theorem judgesFiles {texts : Location → String} {files : List Location}
    (read : ∀ file ∈ files, world.read (absoluteText file) = .ok (texts file)) (failed : Bool) :
    (judge world limit ids failed files).world = world ∧
    (∃ reports, (judge world limit ids failed files).printed = reports.flatten ∧
      List.Forall₂ (fun file report => Reported limit (absoluteText file) (texts file) report) files reports) ∧
    ∃ code ≤ 1, (judge world limit ids failed files).ending = .exit code ∧
      (code = 1 ↔ failed = true ∨ ∃ file ∈ files, Gate.faults (texts file) ≠ []) := by
  -- The flag stands for the files before.
  induction files generalizing failed with
  | nil =>
      refine ⟨rfl, ⟨[], rfl, .nil⟩, if failed then 1 else 0, by split <;> decide, rfl, ?_⟩
      cases failed <;> simp
  | cons file rest ih =>
      rw [List.forall_mem_cons] at read
      obtain ⟨kept, ⟨reports, printed, reported⟩, code, bound, ending, fails⟩ :=
        ih read.2 (failed || !(Gate.faults (texts file)).isEmpty)
      rw [judgeCons read.1]
      refine ⟨kept, ⟨_ :: reports, ?_, .cons (verdictReported limit _ _ ids) reported⟩, code, bound, ending, ?_⟩
      · rw [List.flatten_cons, ← printed]
      · rw [fails]
        simp [or_assoc]

theorem validateStops {settings : Settings} {path : String} {file : Location} {rest : List Location}
    {error : ContentError} (collected : world.collect path folders = .ok (file :: rest))
    (unread : world.read (absoluteText file) = .error error) :
    validate world settings path ids folders = refuse world error := by
  rw [validate, collected]
  simp only [judge, unread]

theorem refuseLong (path : String) : refuse world (.file ⟨.tooLong, path⟩) =
    { printed := [], world, ending := .failed (.content (.file ⟨.tooLong, path⟩)) } := rfl

/- A walk that breaks off is never for a file that is missing, so the user is not told of one. -/
theorem validateBreaks {settings : Settings} {path : String} {error : Files.FileError}
    (failed : world.collect path folders = .error error) : validate world settings path ids folders =
      { printed := [], world, ending := .failed (.content (.file error)) } := by
  have other := Files.World.collectFault failed
  rw [validate, failed]
  obtain ⟨fault, named⟩ := error
  cases fault <;> first | rfl | contradiction

theorem runsPath {environment : Environment} {settings : Settings}
    (prepared : Settings.prepare environment = .ok settings) {path : String} (named : NamesPath path) :
    run ["validate", path] world environment ids folders = validate world settings path ids folders := by
  rw [run, readPath named, prepared]
  rfl

end Judge

theorem validatesFiles {world : World} (regular : world.Regular) {environment : Environment} {settings : Settings}
    (loaded : Settings.load environment = .ok settings) (path : String) (ids : Ids) (folders : Nat) :
    let outcome := run ["validate", path] world environment ids folders
    (NamesPath path →
      (∀ error, settings.level = .error error → outcome.printed = [] ∧ outcome.ending = .failed (.settings error)) ∧
      (settings.logLevel ∉ ["BASIC_FORMAT", "_STYLES"] →
        (∀ error, world.collect path folders = .error error →
          outcome.printed = [] ∧ outcome.ending = .failed (.content (.file error))) ∧
        ∀ (files : List Location) (texts : Location → String), world.collect path folders = .ok files →
          (∀ file ∈ files, world.top.find? file = some (.file (texts file).toUTF8) ∧
            (absoluteText file).utf8ByteSize ≤ pathLimit) →
          ∃ reports code, List.Forall₂ (fun file report =>
              Reported settings.maxTextLength (absoluteText file) (readBack (texts file)) report) files reports ∧
            outcome.printed = (if files = [] then ["No JSX files found at " ++ path] else reports.flatten) ∧
            (('\n' ∉ path.toList ∧ ∀ file ∈ files, '\n' ∉ (absoluteText file).toList) →
              Text.lines outcome.output.toList = outcome.printed.map String.toList ++ [[]]) ∧
            outcome.ending = .exit code ∧ code ≤ 1 ∧
            (code = 1 ↔ files = [] ∨ ∃ file ∈ files, Gate.faults (readBack (texts file)) ≠ []) ∧
            outcome.world = world)) ∧
    (¬ NamesPath path → outcome.printed = [] ∧ ∃ code, outcome.ending = .exit code ∧ (code = 0 ∨ code = 2)) := by
  intro outcome
  refine ⟨fun named => ⟨fun error refused => ?_, fun levelled => ?_⟩, fun other => ?_⟩
  · have failed : outcome = { printed := [], world, ending := .failed (.settings error) } := by
      simp only [outcome, run, readPath named, Settings.prepareRefused loaded refused]
    rw [failed]
    exact ⟨rfl, rfl⟩
  · have ran : outcome = validate world settings path ids folders :=
      runsPath (Settings.prepareLevelled loaded levelled) named
    rw [ran]
    refine ⟨fun error failed => ?_, fun files texts collected stored => ?_⟩
    · rw [validateBreaks failed]
      exact ⟨rfl, rfl⟩
    have read : ∀ file ∈ files, world.read (absoluteText file) = .ok (readBack (texts file)) := by
      intro file listed
      obtain ⟨held, short⟩ := stored file listed
      exact Files.readStored regular.top held short
    rw [validate, collected]
    cases files with
    | nil =>
        refine ⟨[], 1, .nil, rfl, fun ⟨plain, _⟩ => outputLines ?_, rfl, Nat.le_refl 1, by simp, rfl⟩
        simp [say, plain]
    | cons file rest =>
        obtain ⟨kept, ⟨reports, printed, reported⟩, code, bound, ending, fails⟩ := judgesFiles read false
        refine ⟨reports, code, reported, printed, fun ⟨_, plain⟩ => outputLines ?_, ending, bound,
          fails.trans (by simp), kept⟩
        exact printed ▸ reportsSingle reported plain
  · obtain ⟨error, failed⟩ := readOther other
    simp only [outcome, run, failed]
    cases error with
    | usage => exact ⟨rfl, 2, rfl, .inr rfl⟩
    | help => exact ⟨rfl, 0, rfl, .inl rfl⟩

def mailbox : World where
  top := .folder [("a.jsx", .file "<Heading>Hi</Heading>".toUTF8),
    ("b.jsx", .file "<Button href='mailto:x'>Go</Button>".toUTF8), ("c.jsx", .file "<Text>".toUTF8)]
  working := []

def mailboxText (file : Location) : String :=
  if file = ["a.jsx"] then "<Heading>Hi</Heading>"
  else if file = ["b.jsx"] then "<Button href='mailto:x'>Go</Button>" else "<Text>"

theorem validatesMailbox : mailbox.Regular ∧ mailbox.collect "." = .ok [["a.jsx"], ["b.jsx"], ["c.jsx"]] ∧
    ∃ reports, List.Forall₂ (fun file report => Reported 1000 (absoluteText file) (readBack (mailboxText file)) report)
        [["a.jsx"], ["b.jsx"], ["c.jsx"]] reports ∧
      (run ["validate", "."] mailbox [] Ids.numbered).printed = reports.flatten ∧
      (run ["validate", "."] mailbox [] Ids.numbered).ending = .exit 1 := by
  have regular : mailbox.Regular := by
    refine ⟨.folder (by decide) (by decide) (by decide) ?_, by simp [mailbox]⟩
    refine List.forall_mem_cons.mpr ⟨.file _, List.forall_mem_cons.mpr ⟨.file _, ?_⟩⟩
    exact List.forall_mem_singleton.mpr (.file _)
  have named : mailbox.normalize "." = .ok [] := by rfl
  have walked : Files.templates Files.foldersInside mailbox.top [] =
      some [["a.jsx"], ["b.jsx"], ["c.jsx"]] := by rfl
  have collected : mailbox.collect "." = .ok [["a.jsx"], ["b.jsx"], ["c.jsx"]] :=
    World.collectWalked regular named rfl (by decide) walked (by decide)
  refine ⟨regular, collected, ?_⟩
  have stored : ∀ file ∈ [["a.jsx"], ["b.jsx"], ["c.jsx"]],
      mailbox.top.find? file = some (.file (mailboxText file).toUTF8) ∧
        (absoluteText file).utf8ByteSize ≤ pathLimit := by
    refine List.forall_mem_cons.mpr ⟨⟨rfl, by decide⟩, List.forall_mem_cons.mpr ⟨⟨rfl, by decide⟩, ?_⟩⟩
    exact List.forall_mem_singleton.mpr ⟨rfl, by decide⟩
  obtain ⟨-, judges⟩ :=
    (validatesFiles regular (by rfl : Settings.load [] = .ok {}) "." Ids.numbered Files.foldersInside).1 (by decide)
  obtain ⟨reports, code, reported, printed, -, ending, -, fails, -⟩ := (judges (by decide)).2 _ _ collected stored
  have failing : code = 1 := fails.mpr (.inr ⟨["c.jsx"], by simp, by decide +kernel⟩)
  exact ⟨reports, reported, printed, failing ▸ ending⟩

def hyphenated : World where
  top := .folder [("-x", .folder [("a.jsx", .file "<Hr />".toUTF8)])]
  working := []

def loft : World where
  top := Files.tower 255 [(Files.row 250, .folder [("a.jsx", .file "<Hr />".toUTF8)])] 15
  working := []

def loftFile : Location := Files.floors 255 15 ++ [Files.row 250, "a.jsx"]

theorem loftRegular : loft.Regular := by
  have room : (Files.Node.folder [("a.jsx", .file "<Hr />".toUTF8)]).Regular := .only (by decide) (by decide) (.file _)
  have short : (Files.row 250).utf8ByteSize ≤ Files.nameLimit := by
    rw [Files.rowSize]
    decide
  have ground := Files.Node.Regular.only (Files.rowProper (by decide : 0 < 250)) short room
  exact ⟨Files.towerRegular (by decide) (by decide) ground 15, by simp [loft]⟩

theorem loftCollected : loft.collect "/" = .ok [loftFile] := by
  have floors (height : Nat) (low : height < 15) :
      (absoluteText ([] ++ Files.floors 255 (height + 1))).utf8ByteSize ≤ pathLimit := by
    rw [List.nil_append, Files.absoluteSize (by simp [Files.floors]), ← List.append_nil (Files.floors _ _),
      Files.floorsSize, pathLimit, Files.namesSize]
    omega
  have room : (absoluteText ([] ++ Files.floors 255 15 ++ [Files.row 250])).utf8ByteSize ≤ pathLimit := by
    rw [List.nil_append, Files.absoluteSize (by simp), Files.floorsSize, Files.namesSize, Files.rowSize]
    decide
  have walked : Files.templates Files.foldersInside loft.top [] = some [loftFile] := by
    rw [loft, Files.foldersInside, Files.towerTemplates (by decide) 980 14 (floors 13 (by decide)),
      Files.templatesOnly (floors 14 (by decide)) (Files.rowShown (by decide)), Files.templatesFolder,
      if_neg (Nat.not_lt.mpr room), Files.templatesCons, Files.piecesTemplate (by decide) (by decide +kernel),
      Files.templatesOf, loftFile]
    simp
  have named : loft.normalize "/" = .ok [] := by rfl
  exact World.collectWalked loftRegular named rfl (by decide) walked (List.pairwise_singleton _ _)

def folded : World where
  top := .folder [("a\nb.jsx", .file "<Hr />".toUTF8)]
  working := []

theorem judgesNothing : (hyphenated.Regular ∧ hyphenated.collect "-x" = .ok [["-x", "a.jsx"]] ∧
      hyphenated.top.find? ["-x", "a.jsx"] = some (.file "<Hr />".toUTF8) ∧
      (run ["validate", "-x"] hyphenated [] Ids.numbered).printed = [] ∧
      (run ["validate", "-x"] hyphenated [] Ids.numbered).ending = .exit 2) ∧
    (loft.Regular ∧ loft.collect "/" = .ok [loftFile] ∧
      loft.top.find? loftFile = some (.file "<Hr />".toUTF8) ∧
      (run ["validate", "/"] loft [] Ids.numbered).printed = [] ∧
      (run ["validate", "/"] loft [] Ids.numbered).ending =
        .failed (.content (.file ⟨.tooLong, absoluteText loftFile⟩))) ∧
    (Files.shaft.Regular ∧ (run ["validate", "/"] Files.shaft [] Ids.numbered).printed = [] ∧
      (run ["validate", "/"] Files.shaft [] Ids.numbered).ending = .failed (.content (.file ⟨.tooDeep, ""⟩))) ∧
    ((run ["validate", "."] mailbox [("EMAIL_BUILDER_LOG_LEVEL", "BASIC_FORMAT")] Ids.numbered).printed = [] ∧
      (run ["validate", "."] mailbox [("EMAIL_BUILDER_LOG_LEVEL", "BASIC_FORMAT")] Ids.numbered).ending =
        .failed (.settings (.unknownLevel Settings.recordFormat))) ∧
    folded.collect "." = .ok [["a\nb.jsx"]] ∧
      (Text.lines (run ["validate", "."] folded [] Ids.numbered).output.toList).map String.ofList =
        ["OK    /a", "b.jsx", ""] := by
  have regular : hyphenated.Regular :=
    ⟨.only (by decide) (by decide) (.only (by decide) (by decide) (.file _)), by simp [hyphenated]⟩
  have named : hyphenated.normalize "-x" = .ok ["-x"] := by rfl
  have walked : Files.templates Files.foldersInside (.folder [("a.jsx", .file "<Hr />".toUTF8)]) ["-x"] =
      some [["-x", "a.jsx"]] := by rfl
  have collected := World.collectWalked regular named rfl (by decide) walked (List.pairwise_singleton _ _)
  have held : loft.top.find? loftFile = some (.file "<Hr />".toUTF8) := by
    rw [loft, loftFile, Files.towerFind, Files.findOnly]
    rfl
  have long : pathLimit < (absoluteText loftFile).utf8ByteSize := by
    rw [loftFile, Files.absoluteSize (by simp), Files.floorsSize, Files.namesSize, Files.rowSize]
    decide
  have stopped : loft.nodeAt (absoluteText loftFile) = .error .tooLong :=
    (World.nodeLong loftRegular.top fun name listed => ((loftRegular.top.found held).2 name listed).1).mpr (.inl long)
  have unread : loft.read (absoluteText loftFile) = .error (.file ⟨.tooLong, absoluteText loftFile⟩) := by
    rw [World.read, World.readWith, World.readBytes, stopped]
    rfl
  have ran (world : World) : run ["validate", "/"] world [] Ids.numbered =
      validate world {} "/" Ids.numbered Files.foldersInside := runsPath (by rfl) (by decide)
  have tidy : folded.Regular := ⟨.only (by decide) (by decide) (.file _), by simp [folded]⟩
  have found : Files.templates Files.foldersInside folded.top [] = some [["a\nb.jsx"]] := by rfl
  have lone := World.collectWalked tidy (by rfl : folded.normalize "." = .ok []) rfl (by decide) found
    (List.pairwise_singleton _ _)
  refine ⟨⟨regular, collected, rfl, by rfl, by rfl⟩, ⟨loftRegular, loftCollected, held, ?_⟩,
    ⟨Files.shaftRegular, ?_⟩, ⟨by rfl, by rfl⟩, lone, ?_⟩
  · rw [ran, validateStops loftCollected unread, refuseLong]
    exact ⟨rfl, rfl⟩
  · rw [ran, validateBreaks Files.shaftCollected]
    exact ⟨rfl, rfl⟩
  · decide +kernel

end EmailMarkup.Cli
