import EmailMarkup.Cli.Run
import EmailMarkup.Proofs.Carried
import EmailMarkup.Proofs.Operand

/-! Templates transferred by commands. What is exported into a file as markup and parsed from there is what the source
file shows, images and dividers first. -/
namespace EmailMarkup.Cli
open Files (World Path Folded readBack unmarked AsksFolder pathLimit)
open Markup (Node documentText)

def exporting : Grammar :=
  ⟨[.help, choice "--format" Format.names, ⟨["-o", "--output"], true, fun _ => true⟩], .required⟩

theorem exportShaped : exporting.Shaped := by decide

theorem markNoWord : ¬ exporting.Word "--" := by decide

theorem wordPath {path : String} (word : exporting.Word path) : NamesPath path := by
  rw [namesWord]
  refine word.imp_right (Or.imp_right (And.imp_right fun calm calls => calm ?_))
  obtain ⟨known, listed, name, named, invokes⟩ := calls
  rw [List.mem_singleton.mp listed] at named
  exact ⟨.help, List.mem_cons_self, name, named, invokes⟩

theorem tokensCons (grammar : Grammar) {argument : String} (bare : argument ≠ "--") (rest : List String) :
    grammar.tokens (argument :: rest) =
      (grammar.classify argument).bind fun head => (grammar.tokens rest).bind fun tail => .ok (head :: tail) := by
  rw [Grammar.tokens]
  · rfl
  · exact bare

theorem readParse {path : String} (named : NamesPath path) : Command.read ["parse", path] = .ok (.parse path) := by
  have unfolded : Command.read ["parse", path] = (Arguments.read onPath [path]).bind fun arguments =>
      .ok (.parse (arguments.operand.getD "")) := rfl
  rw [unfolded, argumentsPath named]
  rfl

theorem argumentsExport {source target : String} (first : exporting.Word source) (last : exporting.Word target) :
    Arguments.read exporting [source, "--format", "jsx", "-o", target] =
      .ok { operand := some source, values := [("--output", some target), ("--format", some "jsx")] } := by
  have bare {word : String} (is : exporting.Word word) : word ≠ "--" := fun mark => markNoWord (mark ▸ is)
  have format : exporting.classify "--format" = .ok (.switch (choice "--format" Format.names) none) := rfl
  have named : exporting.classify "jsx" = .ok (.word "jsx") := rfl
  have output : exporting.classify "-o" = .ok (.switch ⟨["-o", "--output"], true, fun _ => true⟩ none) := rfl
  rw [Arguments.read, tokensCons _ (bare first), Grammar.classifyWord exportShaped first, tokensCons _ (by decide),
    format, tokensCons _ (by decide), named, tokensCons _ (by decide), output, tokensCons _ (bare last),
    Grammar.classifyWord exportShaped last]
  rfl

theorem readExport {source target : String} (first : exporting.Word source) (last : exporting.Word target) :
    Command.read ["export", source, "--format", "jsx", "-o", target] =
      .ok (.render source (some .markup) (some target)) := by
  have unfolded : Command.read ["export", source, "--format", "jsx", "-o", target] =
      (Arguments.read exporting [source, "--format", "jsx", "-o", target]).bind fun arguments =>
        .ok (.render (arguments.operand.getD "") arguments.format? (arguments.value? "--output")) := rfl
  rw [unfolded, argumentsExport first last]
  rfl

section Run

variable {environment : Environment} {settings : Settings} (prepared : Settings.prepare environment = .ok settings)
include prepared

theorem runsParse {world : World} {path text : String} (named : NamesPath path) (read : world.read path = .ok text)
    (ids : Ids) :
    (run ["parse", path] world environment ids).printed =
        [(Email.ofContents (contentsOf text.toList) ids).1.toJson.indented 0] ∧
      (run ["parse", path] world environment ids).ending = .exit 0 := by
  rw [run, readParse named, prepared, ← readOfContents]
  simp only [Command.run, parse, withSource, read]
  exact ⟨rfl, rfl⟩

theorem runsExport {world : World} {source target text : String} (first : exporting.Word source)
    (last : exporting.Word target) (read : world.read source = .ok text) (ids : Ids)
    (writable : (world.write target (Email.read text ids).1.write).failure = none) :
    (run ["export", source, "--format", "jsx", "-o", target] world environment ids).printed =
        ["Wrote jsx export to " ++ (Path.ofText target).text] ∧
      (run ["export", source, "--format", "jsx", "-o", target] world environment ids).ending = .exit 0 ∧
      (run ["export", source, "--format", "jsx", "-o", target] world environment ids).world =
        (world.write target (Email.read text ids).1.write).world := by
  have named : target ≠ "" := by
    rintro rfl
    exact World.writtenNamed writable rfl
  have filled : (some target).filter (· != "") = some target := by simp [named]
  have rendered : (Email.read text ids).1.exportAs (formatName (some .markup)) = .ok (Email.read text ids).1.write := rfl
  rw [run, readExport first last, prepared]
  simp only [Command.run, render, withSource, read, rendered, deliver, filled, writable]
  exact ⟨rfl, rfl, rfl⟩

/- The exported markup has nothing that reading would fold or drop, so parsing it shows what was written. -/
theorem exportParsed {world : World} {nodes : List Node} (valid : ∀ node ∈ nodes, node.Valid)
    (tame : ∀ node ∈ nodes, node.Tame) {source target text : String}
    (read : world.read source = .ok (String.ofList (documentText nodes))) (first : exporting.Word source)
    (last : exporting.Word target) (writable : (world.write target text).failure = none)
    (short : target.utf8ByteSize ≤ pathLimit) (plain : ¬ AsksFolder target) (between later : Ids) :
    let moved := run ["export", source, "--format", "jsx", "-o", target] world environment between
    let again := run ["parse", target] moved.world environment later
    moved.ending = .exit 0 ∧
    again.printed = [(Email.ofContents (arranged (contentsOf (documentText nodes))) later).1.toJson.indented 0] ∧
    again.ending = .exit 0 := by
  intro moved again
  have bare := Files.readNoReturn read
  rw [String.toList_ofList] at bare
  generalize same : (Email.read (String.ofList (documentText nodes)) between).1 = email
  have contents : email.contents = contentsOf (documentText nodes) := by
    rw [← same, readContents, String.toList_ofList]
  have done : (world.write target email.write).failure = none := by rw [World.failureAny, writable]
  obtain ⟨-, code, kept⟩ := runsExport prepared first last read between (same ▸ done)
  rw [same] at kept
  have back : moved.world.read target = .ok email.write := by
    have given := (World.writtenRead done).2.2
    rw [if_neg (Nat.not_lt.mpr short), if_neg plain, writtenBack (contents ▸ documentNoReturn valid bare)] at given
    rwa [← kept] at given
  have parsed := runsParse prepared (wordPath last) back later
  have shown : contentsOf email.write.toList = arranged (contentsOf (documentText nodes)) := by
    rw [← contents, ← readContents _ later]
    exact writeReadContents (contents ▸ documentRestorable valid tame) later
  rw [shown] at parsed
  exact ⟨code, parsed⟩

end Run

theorem carriesTemplates (world : World) :
    (∀ path text, (world.write path text).failure = none →
      let there := (Path.ofText path).location world.working
      let after := (world.write path text).world
      after.top.find? there = some (.file text.toUTF8) ∧ after.read (Path.ofText path).text = .ok (readBack text) ∧
      after.read path = (if pathLimit < path.utf8ByteSize then .error (.file ⟨.tooLong, path⟩)
        else if AsksFolder path then .error (.file ⟨.notFolder, path⟩) else .ok (readBack text)) ∧
      ∀ other bytes, other ≠ there →
        (after.top.find? other = some (.file bytes) ↔ world.top.find? other = some (.file bytes))) ∧
    (∀ text, Folded (unmarked text.toList) (readBack text).toList ∧
      (readBack text = text ↔ '\r' ∉ text.toList ∧ text.toList.head? ≠ some '\ufeff')) ∧
    ∀ environment settings nodes source target text ids between later,
      Settings.load environment = .ok settings → settings.logLevel ∉ ["BASIC_FORMAT", "_STYLES"] →
      (∀ node ∈ nodes, node.Valid) → (∀ node ∈ nodes, node.Tame) →
      world.read source = .ok (String.ofList (documentText nodes)) → exporting.Word source → exporting.Word target →
      (world.write target text).failure = none → target.utf8ByteSize ≤ pathLimit → ¬ AsksFolder target →
      let contents := contentsOf (documentText nodes)
      let shown := run ["parse", source] world environment ids
      let moved := run ["export", source, "--format", "jsx", "-o", target] world environment between
      let again := run ["parse", target] moved.world environment later
      shown.printed = [(Email.ofContents contents ids).1.toJson.indented 0] ∧ shown.ending = .exit 0 ∧
      moved.ending = .exit 0 ∧
      again.printed = [(Email.ofContents (arranged contents) later).1.toJson.indented 0] ∧ again.ending = .exit 0 := by
  refine ⟨fun path text done => ?_, fun text => ⟨?_, Files.readBackSame text⟩, ?_⟩
  · obtain ⟨stored, kept, given⟩ := World.writtenRead done
    exact ⟨stored, kept, given, fun other bytes apart => World.writtenElsewhere apart bytes⟩
  · rw [readBack, String.toList_ofList]
    exact Files.foldFolded _
  · intro environment settings nodes source target text ids between later loaded levelled valid tame read first last
      writable short plain
    have prepared := Settings.prepareLevelled loaded levelled
    obtain ⟨moved, code, parsed⟩ := exportParsed prepared valid tame read first last writable short plain between later
    obtain ⟨shown, sound⟩ := runsParse prepared (wordPath first) read ids
    rw [String.toList_ofList] at shown
    exact ⟨shown, sound, moved, code, parsed⟩

def drawer : World where
  top := .folder [("a.jsx", .file "\ufeffDraft\r\n<Heading as='h1'/>\r<Hr></Hr>".toUTF8)]
  working := []

def drawerNodes : List Node :=
  [.filler "Draft\n".toList, .single ⟨"Heading".toList, [⟨[' '], "as".toList, .single, "h1".toList⟩], []⟩,
    .filler "\n".toList, .pair ⟨"Hr".toList, [], []⟩ []]

theorem drawerRead : drawer.read "a.jsx" = .ok (String.ofList (documentText drawerNodes)) := by
  have opened : drawer.nodeAt "a.jsx" =
      .ok (.file "\ufeffDraft\r\n<Heading as='h1'/>\r<Hr></Hr>".toUTF8) := rfl
  rw [Files.readOpened opened]
  exact congrArg _ (by decide)

theorem carriesDrawer : drawer.read "a.jsx" = .ok (String.ofList (documentText drawerNodes)) ∧
    (drawer.write "./out//b" "\ufeffa\rb").world.read "./out//b" = .ok "a\nb" ∧
    let moved := run ["export", "a.jsx", "--format", "jsx", "-o", "out/b.jsx"] drawer [] Ids.numbered
    (run ["parse", "a.jsx"] drawer [] Ids.numbered).printed =
      [(Email.toJson [⟨.str "id1", .heading { level := "h1" }⟩, ⟨.str "id2", .divider {}⟩]).indented 0] ∧
    moved.ending = .exit 0 ∧
    (run ["parse", "out/b.jsx"] moved.world [] Ids.numbered).printed =
      [(Email.toJson [⟨.str "id1", .divider {}⟩, ⟨.str "id2", .heading { level := "h1" }⟩]).indented 0] := by
  obtain ⟨stores, -, transfers⟩ := carriesTemplates drawer
  have valid : ∀ node ∈ drawerNodes, node.Valid := by decide
  have tame : ∀ node ∈ drawerNodes, node.Tame := by decide
  have shown : contentsOf (documentText drawerNodes) = [.heading { level := "h1" }, .divider {}] := by
    decide +kernel
  have writable : (drawer.write "out/b.jsx" "").failure = none := by rfl
  obtain ⟨-, -, given, -⟩ := stores "./out//b" "\ufeffa\rb" (by rfl)
  obtain ⟨source, -, code, target, -⟩ := transfers [] {} drawerNodes "a.jsx" "out/b.jsx" "" Ids.numbered Ids.numbered
    Ids.numbered rfl (by decide) valid tame drawerRead (by decide) (by decide) writable (by decide) (by decide)
  rw [shown] at source target
  exact ⟨drawerRead, given.trans (by rw [if_neg (by decide), if_neg (by decide)]; decide), source, code, target⟩

def distant (slashes : Nat) : String := String.ofList (List.replicate slashes '/' ++ ['b'])

theorem distantSize (slashes : Nat) : (distant slashes).utf8ByteSize = slashes + 1 := by
  have slash : (String.singleton '/').utf8ByteSize = 1 := rfl
  induction slashes with
  | zero => rfl
  | succ slashes ih =>
      rw [distant, List.replicate_succ, List.cons_append, String.ofList_cons, String.utf8ByteSize_append, slash,
        ← distant, ih, Nat.add_comm]

theorem distantKept (slashes : Nat) : Path.ofText (distant (slashes + 3)) = ⟨"/", ["b"]⟩ := by
  have chars : (distant (slashes + 3)).toList =
      List.replicate (slashes + 3) '/' ++ ['/'].intercalate (["b"].map String.toList) := String.toList_ofList
  have names : (Path.ofText (distant (slashes + 3))).names = ["b"] := by
    rw [← World.namesSteps, Files.stepsJoined (by decide) (fun c slash => List.eq_of_mem_replicate slash) chars]
    rfl
  have root : (Path.ofText (distant (slashes + 3))).root = "/" := by
    rw [Path.ofText, chars]
    rfl
  exact congrArg₂ Files.Path.mk root names

theorem writesUnread :
    ((drawer.write "b/" "x").failure = none ∧
      (drawer.write "b/" "x").world.read "b/" = .error (.file ⟨.notFolder, "b/"⟩)) ∧
    ((drawer.write (distant 4095) "x").failure = none ∧
      (drawer.write (distant 4095) "x").world.read (distant 4095) = .error (.file ⟨.tooLong, distant 4095⟩)) ∧
    ((drawer.write "-b" "x").failure = none ∧
      (run ["export", "a.jsx", "--format", "jsx", "-o", "-b"] drawer [] Ids.numbered).ending = .exit 2) ∧
    (run ["parse", "a.jsx"] drawer [("PORT", "b")] Ids.numbered).printed = [] ∧
    (run ["parse", "a.jsx"] drawer [("EMAIL_BUILDER_LOG_LEVEL", "BASIC_FORMAT")] Ids.numbered).printed = [] := by
  have long : pathLimit < (distant 4095).utf8ByteSize := by
    rw [distantSize]
    decide
  have written : (drawer.write (distant 4095) "x").failure = none := by
    rw [World.write, distantKept 4092]
    rfl
  have given := (World.writtenRead written).2.2
  rw [if_pos long] at given
  exact ⟨⟨by rfl, by rfl⟩, ⟨written, given⟩, ⟨by rfl, by rfl⟩, by rfl, by rfl⟩

end EmailMarkup.Cli
