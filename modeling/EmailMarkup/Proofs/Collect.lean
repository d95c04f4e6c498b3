import EmailMarkup.Proofs.Casing
import EmailMarkup.Proofs.Location
import Mathlib.Data.List.Lex
import Mathlib.Data.List.Nodup

/-! The template files below a folder. The walk comes to just the template files behind no hidden name in folders that
can be opened, each once, and they are given in the strict order of their locations. It breaks off where it would come to
a folder as many levels down as there are. -/
namespace EmailMarkup.Files

def TemplateName (name : String) : Prop :=
  ∃ stem ending, name.toList = stem ++ ending ∧ String.ofList (ending.map Char.toLower) ∈ [".jsx", ".tsx"]

theorem templateNamed (name : String) : isTemplate name = true ↔ TemplateName name := by
  have settled : ∀ ending ∈ extensions, ∀ a ∈ ending.toList, Text.Settled a := by decide
  rw [isTemplate, List.any_eq_true]
  constructor
  · rintro ⟨ending, listed, ends⟩
    rw [List.isSuffixOf_iff_suffix, Text.lower, Text.lowerFromAlone, Text.lowerEnds (settled ending listed)] at ends
    obtain ⟨stem, tail, whole, letters⟩ := ends
    exact ⟨stem, tail, whole, by rwa [letters, String.ofList_toList]⟩
  · rintro ⟨stem, tail, whole, listed⟩
    refine ⟨_, listed, ?_⟩
    rw [List.isSuffixOf_iff_suffix, Text.lower, Text.lowerFromAlone, Text.lowerEnds (settled _ listed)]
    exact ⟨stem, tail, whole, String.toList_ofList.symm⟩

/-- A template file below a location, with the folders between them. No name on the way is hidden, and the folder that
the file is in can be opened. -/
structure Below (top : Node) (here between : Location) (name : String) : Prop where
  file : ∃ bytes, top.find? (here ++ between ++ [name]) = some (.file bytes)
  template : TemplateName name
  shown : ∀ part ∈ between ++ [name], part.toList.head? ≠ some '.'
  opened : (absoluteText (here ++ between)).utf8ByteSize ≤ pathLimit

/-- A folder below a location that the walk comes to. No name on the way is hidden, and the folder it is in can be
opened. -/
structure Met (top : Node) (here between : Location) : Prop where
  folder : ∃ entries, top.find? (here ++ between) = some (.folder entries)
  shown : ∀ part ∈ between, part.toList.head? ≠ some '.'
  opened : between ≠ [] → (absoluteText (here ++ between.dropLast)).utf8ByteSize ≤ pathLimit

def pieces (levels : Nat) (here : Location) (entry : String × Node) : Option (List Location) :=
  if isHidden entry.1 then some []
  else if !entry.2.isFolder && isTemplate entry.1 then some [here ++ [entry.1]]
  else templates levels entry.2 (here ++ [entry.1])

theorem templatesCons (levels : Nat) (entry : String × Node) (rest : List (String × Node)) (here : Location) :
    templatesOf levels (entry :: rest) here = (pieces levels here entry).bind fun first =>
      (templatesOf levels rest here).bind fun others => some (first ++ others) := by
  rw [templatesOf, pieces]
  split_ifs <;> rfl

theorem templatesNone {levels : Nat} {entries : List (String × Node)} {here : Location} :
    templatesOf levels entries here = none ↔ ∃ entry ∈ entries, pieces levels here entry = none := by
  induction entries with
  | nil => simp [templatesOf]
  | cons entry rest ih =>
      rw [templatesCons]
      cases first : pieces levels here entry with
      | none => simp [first]
      | some list =>
          rw [List.exists_mem_cons_iff, ← ih, first]
          cases templatesOf levels rest here <;> simp

theorem templatesSome {levels : Nat} {entries : List (String × Node)} {here : Location} {files : List Location}
    (walked : templatesOf levels entries here = some files) :
    (∀ entry ∈ entries, ∃ list, pieces levels here entry = some list) ∧
      files = entries.flatMap fun entry => (pieces levels here entry).getD [] := by
  induction entries generalizing files with
  | nil =>
      cases walked
      exact ⟨by simp, rfl⟩
  | cons entry rest ih =>
      rw [templatesCons] at walked
      obtain ⟨first, head, walked⟩ := Option.bind_eq_some_iff.mp walked
      obtain ⟨others, tail, same⟩ := Option.bind_eq_some_iff.mp walked
      cases same
      obtain ⟨each, all⟩ := ih tail
      exact ⟨List.forall_mem_cons.mpr ⟨⟨first, head⟩, each⟩, by rw [List.flatMap_cons, head, ← all]; rfl⟩

theorem templatesFolder {levels : Nat} {entries : List (String × Node)} {here : Location} :
    templates (levels + 1) (.folder entries) here =
      if pathLimit < (absoluteText here).utf8ByteSize then some [] else templatesOf levels entries here := by
  rw [templates]

theorem templatesWalked {levels : Nat} {entries : List (String × Node)} {here : Location} {files : List Location}
    (walked : templates levels (.folder entries) here = some files) :
    pathLimit < (absoluteText here).utf8ByteSize ∧ files = [] ∨
    (absoluteText here).utf8ByteSize ≤ pathLimit ∧ ∃ left, levels = left + 1 ∧
      (∀ entry ∈ entries, ∃ list, pieces left here entry = some list) ∧
      files = entries.flatMap fun entry => (pieces left here entry).getD [] := by
  cases levels with
  | zero =>
      rw [templates] at walked
      contradiction
  | succ left =>
      rw [templatesFolder] at walked
      split at walked
      · cases walked
        exact .inl ⟨‹_›, rfl⟩
      · exact .inr ⟨Nat.not_lt.mp ‹_›, left, rfl, templatesSome walked⟩

theorem templatesOnly {levels : Nat} {here : Location} {name : String} {inner : List (String × Node)}
    (opened : (absoluteText here).utf8ByteSize ≤ pathLimit) (shown : name.toList.head? ≠ some '.') :
    templates (levels + 1) (.folder [(name, .folder inner)]) here =
      templates levels (.folder inner) (here ++ [name]) := by
  have visible : ¬ isHidden name = true := by simpa [isHidden] using shown
  have piece : pieces levels here (name, .folder inner) = templates levels (.folder inner) (here ++ [name]) := by
    rw [pieces, if_neg visible]
    rfl
  rw [templatesFolder, if_neg (Nat.not_lt.mpr opened), templatesCons, piece]
  cases templates levels (.folder inner) (here ++ [name]) <;> simp [templatesOf]

theorem piecesTemplate {levels : Nat} {here : Location} {name : String} {bytes : ByteArray}
    (shown : isHidden name = false) (template : isTemplate name = true) :
    pieces levels here (name, .file bytes) = some [here ++ [name]] := by
  simp [pieces, Node.isFolder, shown, template]

theorem templatesFile (levels : Nat) (bytes : ByteArray) (here : Location) :
    templates levels (.file bytes) here = some [] := by
  cases levels <;> rw [templates]

theorem memPieces {levels : Nat} {here : Location} {name : String} {node : Node} {list : List Location}
    (gathered : pieces levels here (name, node) = some list) {file : Location} :
    file ∈ list ↔ name.toList.head? ≠ some '.' ∧ ((∃ bytes, node = .file bytes) ∧
      TemplateName name ∧ file = here ++ [name] ∨
        ∃ inner, templates levels node (here ++ [name]) = some inner ∧ file ∈ inner) := by
  unfold pieces at gathered
  by_cases hidden : name.toList.head? = some '.'
  · simp [isHidden, hidden] at gathered
    simp [hidden, gathered]
  · cases node with
    | folder entries =>
        simp [isHidden, hidden, Node.isFolder] at gathered
        simp [hidden, gathered]
    | file bytes =>
        rw [← templateNamed]
        by_cases template : isTemplate name <;>
          simp [isHidden, hidden, Node.isFolder, template, templatesFile] at gathered <;>
          simp [hidden, template, templatesFile, ← gathered]

theorem piecesNone {levels : Nat} {here : Location} {name : String} {node : Node} :
    pieces levels here (name, node) = none ↔
      name.toList.head? ≠ some '.' ∧ templates levels node (here ++ [name]) = none := by
  unfold pieces
  by_cases hidden : name.toList.head? = some '.'
  · simp [isHidden, hidden]
  · cases node with
    | folder entries => simp [isHidden, hidden, Node.isFolder]
    | file bytes => by_cases template : isTemplate name <;> simp [isHidden, hidden, Node.isFolder, template, templatesFile]

section Regular

variable {top : Node}

theorem findEntry {here : Location} {entries : List (String × Node)} (folder : top.find? here = some (.folder entries))
    (name : String) (rest : Location) :
    top.find? (here ++ name :: rest) = (entries.lookup name).bind (Node.find? · rest) := by
  rw [Node.findAppend, folder]
  rfl

theorem findMember {here : Location} {entries : List (String × Node)} (distinct : (entries.map Prod.fst).Nodup)
    (folder : top.find? here = some (.folder entries)) {entry : String × Node} (member : entry ∈ entries) :
    top.find? (here ++ [entry.1]) = some entry.2 := by
  rw [findEntry folder, (Node.lookupEntry distinct).mpr member]
  rfl

theorem Below.inner {here between : Location} {first name : String} (below : Below top here (first :: between) name) :
    Below top (here ++ [first]) between name where
  file := by simpa using below.file
  template := below.template
  shown := fun part listed => below.shown part (List.mem_cons_of_mem first listed)
  opened := by simpa using below.opened

theorem Below.outer {here between : Location} {first name : String} (below : Below top (here ++ [first]) between name)
    (shown : first.toList.head? ≠ some '.') : Below top here (first :: between) name where
  file := by simpa using below.file
  template := below.template
  shown := List.forall_mem_cons.mpr ⟨shown, below.shown⟩
  opened := by simpa using below.opened

theorem memTemplates {node : Node} (regular : node.Regular) {here : Location} (found : top.find? here = some node)
    {levels : Nat} {files : List Location} (walked : templates levels node here = some files) {file : Location} :
    file ∈ files ↔ ∃ between name, file = here ++ between ++ [name] ∧ Below top here between name := by
  -- A file is gathered at the one entry of a folder that its location goes through.
  induction regular generalizing here levels files with
  | file bytes =>
      rw [templatesFile] at walked
      cases walked
      refine iff_of_false List.not_mem_nil ?_
      rintro ⟨between, name, -, below⟩
      obtain ⟨other, there⟩ := below.file
      rw [List.append_assoc, Node.findAppend, found] at there
      cases between <;> contradiction
  | @folder entries proper short distinct regular ih =>
      have next {entry : String × Node} (member : entry ∈ entries) := findMember distinct found member
      obtain ⟨long, rfl⟩ | ⟨opened, levels, rfl, each, rfl⟩ := templatesWalked walked
      · refine iff_of_false List.not_mem_nil ?_
        rintro ⟨between, name, rfl, below⟩
        exact Nat.not_le.mpr long ((absoluteGrows here between).trans below.opened)
      rw [List.mem_flatMap]
      constructor
      · rintro ⟨⟨name, node⟩, member, gathered⟩
        obtain ⟨list, piece⟩ := each _ member
        rw [piece] at gathered
        obtain ⟨shown, ⟨⟨bytes, leaf⟩, template, rfl⟩ | ⟨inner, deeper, inside⟩⟩ := (memPieces piece).mp gathered
        · exact ⟨[], name, by simp, ⟨⟨bytes, by simpa [leaf] using next member⟩, template, by simpa using shown,
            by simpa using opened⟩⟩
        · obtain ⟨between, last, rfl, below⟩ := (ih _ member (next member) deeper).mp inside
          exact ⟨name :: between, last, by simp, below.outer shown⟩
      · rintro ⟨between, name, rfl, below⟩
        obtain ⟨bytes, there⟩ := below.file
        rw [List.append_assoc] at there
        cases between with
        | nil =>
            rw [List.nil_append, findEntry found] at there
            obtain ⟨node, held, leaf⟩ := Option.bind_eq_some_iff.mp there
            cases leaf
            have member := (Node.lookupEntry distinct).mp held
            obtain ⟨list, piece⟩ := each _ member
            refine ⟨_, member, ?_⟩
            rw [piece]
            exact (memPieces piece).mpr ⟨below.shown name (by simp), .inl ⟨⟨bytes, rfl⟩, below.template, by simp⟩⟩
        | cons first between =>
            rw [List.cons_append, findEntry found] at there
            obtain ⟨node, held, further⟩ := Option.bind_eq_some_iff.mp there
            have member := (Node.lookupEntry distinct).mp held
            obtain ⟨list, piece⟩ := each _ member
            have visible := below.shown first (by simp)
            obtain ⟨inner, deeper⟩ : ∃ inner, templates levels node (here ++ [first]) = some inner := by
              refine Option.ne_none_iff_exists'.mp fun none => ?_
              rw [piecesNone.mpr ⟨visible, none⟩] at piece
              contradiction
            refine ⟨(first, node), member, ?_⟩
            rw [piece]
            refine (memPieces piece).mpr ⟨visible, .inr ⟨inner, deeper, ?_⟩⟩
            exact (ih _ member (next member) deeper).mpr ⟨between, name, by simp, below.inner⟩

theorem Met.inner {here between : Location} {first : String} (met : Met top here (first :: between)) :
    Met top (here ++ [first]) between where
  folder := by simpa using met.folder
  shown := fun part listed => met.shown part (List.mem_cons_of_mem first listed)
  opened := fun filled => by simpa [List.dropLast_cons_of_ne_nil filled] using met.opened (List.cons_ne_nil _ _)

theorem Met.outer {here between : Location} {first : String} (met : Met top (here ++ [first]) between)
    (opened : (absoluteText here).utf8ByteSize ≤ pathLimit) (shown : first.toList.head? ≠ some '.') :
    Met top here (first :: between) where
  folder := by simpa using met.folder
  shown := List.forall_mem_cons.mpr ⟨shown, met.shown⟩
  opened := by
    intro _
    cases between with
    | nil => simpa using opened
    | cons second between => simpa using met.opened (List.cons_ne_nil _ _)

/- The walk breaks off at just the folders that are as many levels down as there are. -/
theorem templatesDeep {node : Node} (regular : node.Regular) {here : Location} (found : top.find? here = some node)
    {levels : Nat} : templates levels node here = none ↔ ∃ between, between.length = levels ∧ Met top here between := by
  induction regular generalizing here levels with
  | file bytes =>
      refine iff_of_false (by simp [templatesFile]) ?_
      rintro ⟨between, -, met⟩
      obtain ⟨entries, there⟩ := met.folder
      rw [Node.findAppend, found] at there
      cases between <;> cases there
  | @folder entries proper short distinct regular ih =>
      have next {entry : String × Node} (member : entry ∈ entries) := findMember distinct found member
      cases levels with
      | zero =>
          refine iff_of_true (by rw [templates]) ⟨[], rfl, ⟨entries, by simpa using found⟩, by simp, by simp⟩
      | succ levels =>
          rw [templatesFolder]
          split
          · rename_i long
            refine iff_of_false nofun ?_
            rintro ⟨between, many, met⟩
            have filled : between ≠ [] := by
              rintro rfl
              contradiction
            exact Nat.not_le.mpr long ((absoluteGrows here _).trans (met.opened filled))
          · rename_i opened
            rw [templatesNone]
            constructor
            · rintro ⟨⟨name, node⟩, member, none⟩
              obtain ⟨shown, deep⟩ := piecesNone.mp none
              obtain ⟨between, many, met⟩ := (ih _ member (next member)).mp deep
              exact ⟨name :: between, congrArg (· + 1) many, met.outer (Nat.not_lt.mp opened) shown⟩
            · rintro ⟨between, many, met⟩
              obtain ⟨first, between, rfl⟩ := List.exists_cons_of_length_eq_add_one many
              obtain ⟨inner, there⟩ := met.folder
              rw [findEntry found] at there
              obtain ⟨node, held, -⟩ := Option.bind_eq_some_iff.mp there
              have member := (Node.lookupEntry distinct).mp held
              refine ⟨(first, node), member, piecesNone.mpr ⟨met.shown first List.mem_cons_self, ?_⟩⟩
              exact (ih _ member (next member)).mpr ⟨between, Nat.succ.inj many, met.inner⟩

theorem pieceStart {node : Node} (regular : node.Regular) {here file : Location} {name : String} {levels : Nat}
    (found : top.find? (here ++ [name]) = some node) {list : List Location}
    (piece : pieces levels here (name, node) = some list) (gathered : file ∈ list) :
    ∃ rest, file = here ++ name :: rest := by
  obtain ⟨-, ⟨-, -, rfl⟩ | ⟨inner, deeper, inside⟩⟩ := (memPieces piece).mp gathered
  · exact ⟨[], rfl⟩
  · obtain ⟨between, last, rfl, -⟩ := (memTemplates regular found deeper).mp inside
    exact ⟨between ++ [last], by simp⟩

theorem templatesNodup {node : Node} (regular : node.Regular) {here : Location} (found : top.find? here = some node)
    {levels : Nat} {files : List Location} (walked : templates levels node here = some files) : files.Nodup := by
  induction regular generalizing here levels files with
  | file bytes =>
      rw [templatesFile] at walked
      cases walked
      exact List.nodup_nil
  | @folder entries proper short distinct regular ih =>
      have next {entry : String × Node} (member : entry ∈ entries) := findMember distinct found member
      obtain ⟨-, rfl⟩ | ⟨-, levels, rfl, each, rfl⟩ := templatesWalked walked
      · exact List.nodup_nil
      have once : ∀ entry ∈ entries, ((pieces levels here entry).getD []).Nodup := by
        intro entry member
        unfold pieces
        split
        · exact List.nodup_nil
        · split
          · exact List.nodup_singleton _
          · cases deeper : templates levels entry.2 (here ++ [entry.1]) with
            | none => exact List.nodup_nil
            | some inner => exact ih _ member (next member) deeper
      have apart : entries.Pairwise fun one other =>
          List.Disjoint ((pieces levels here one).getD []) ((pieces levels here other).getD []) := by
        refine (List.pairwise_map.mp distinct).imp_of_mem fun {one other} first second names => ?_
        obtain ⟨list, piece⟩ := each _ first
        obtain ⟨more, last⟩ := each _ second
        rw [piece, last]
        intro file here there
        obtain ⟨rest, rfl⟩ := pieceStart (regular _ first) (next first) piece here
        obtain ⟨tail, same⟩ := pieceStart (regular _ second) (next second) last there
        exact names (List.cons.inj (List.append_cancel_left same)).1
      exact List.nodup_flatMap.mpr ⟨once, apart⟩

end Regular

def NameBefore (m n : String) : Prop := List.Lex (fun c d => c.toNat < d.toNat) m.toList n.toList

def Precedes (a b : Location) : Prop := List.Lex NameBefore a b

theorem nameBeforeIff (m n : String) : nameBefore m n = true ↔ NameBefore m n := by
  rw [nameBefore, List.lex_eq_true_iff_lex, NameBefore]
  simp only [decide_eq_true_eq]

theorem beforeIff (a b : Location) : before a b = true ↔ ¬ Precedes b a := by
  rw [before, Bool.not_eq_true', ← Bool.not_eq_true, List.lex_eq_true_iff_lex, Precedes]
  simp only [nameBeforeIff]

instance codeTrichotomous : Std.Trichotomous fun c d : Char => c.toNat < d.toNat where
  trichotomous _ _ below above := Char.toNat_inj.mp (Nat.le_antisymm (Nat.not_lt.mp above) (Nat.not_lt.mp below))

instance nameTrichotomous : Std.Trichotomous NameBefore where
  trichotomous _ _ below above :=
    String.toList_inj.mp ((List.Lex.trichotomous fun c d : Char => c.toNat < d.toNat).trichotomous _ _ below above)

theorem precedesTotal {a b : Location} (no : ¬ Precedes a b) : a = b ∨ Precedes b a := by
  by_contra neither
  rw [not_or] at neither
  exact neither.1 ((List.Lex.trichotomous NameBefore).trichotomous a b no neither.2)

theorem precedesTrans {a b c : Location} (first : Precedes a b) (second : Precedes b c) : Precedes a c :=
  List.lex_trans (List.lex_trans Nat.lt_trans) first second

theorem precedesAsymm {a b : Location} (forward : Precedes a b) : ¬ Precedes b a := by
  have names {m n : String} (before : NameBefore m n) : ¬ NameBefore n m := List.lex_asymm Nat.lt_asymm before
  exact List.lex_asymm names forward

theorem sortedPrecedes {files : List Location} (once : files.Nodup) : (files.mergeSort before).Pairwise Precedes := by
  have chain (a b c : Location) (ab : before a b) (bc : before b c) : before a c := by
    rw [beforeIff] at *
    intro back
    obtain rfl | forward := precedesTotal ab
    · exact bc back
    · exact bc (precedesTrans back forward)
  have total (a b : Location) : (before a b || before b a) = true := by
    rw [Bool.or_eq_true, beforeIff, beforeIff]
    exact not_and_or.mp fun ⟨back, forward⟩ => precedesAsymm forward back
  have sorted := List.pairwise_mergeSort chain total files
  have distinct : (files.mergeSort before).Nodup := (List.mergeSort_perm files before).nodup_iff.mpr once
  refine (sorted.and distinct).imp fun {a b} ⟨ordered, apart⟩ => ?_
  exact (precedesTotal ((beforeIff a b).mp ordered)).resolve_left (Ne.symm apart)

section Collect

variable {top : Node} (regular : top.Regular) {base : Location} {entries : List (String × Node)}
  (folder : top.find? base = some (.folder entries)) {levels : Nat}

include folder in
theorem collectFolder : collect levels top base = (templates levels (.folder entries) base).map (·.mergeSort before) := by
  rw [collect, folder]

include regular folder

theorem collectNone : collect levels top base = none ↔ ∃ between, between.length = levels ∧ Met top base between := by
  rw [collectFolder folder, Option.map_eq_none_iff, templatesDeep (regular.found folder).1 folder]

theorem collectSome {files : List Location} (collected : collect levels top base = some files) :
    files.Pairwise Precedes ∧ ∀ file, file ∈ files ↔
      ∃ between name, file = base ++ between ++ [name] ∧ Below top base between name := by
  rw [collectFolder folder] at collected
  obtain ⟨unsorted, walked, rfl⟩ := Option.map_eq_some_iff.mp collected
  refine ⟨sortedPrecedes (templatesNodup (regular.found folder).1 folder walked), fun file => ?_⟩
  rw [List.mem_mergeSort, memTemplates (regular.found folder).1 folder walked]

end Collect

namespace World

variable {world : World} {levels : Nat}

theorem collectNamed (regular : world.Regular) {path : String} {base : Location}
    (named : world.normalize path = .ok base) :
    (world.Unreachable base → world.collect path levels = .error ⟨.tooLong, absoluteText base⟩) ∧
    (¬ world.Unreachable base →
      (∀ files, Files.collect levels world.top base = some files → world.collect path levels = .ok files) ∧
      (Files.collect levels world.top base = none → world.collect path levels = .error ⟨.tooDeep, ""⟩)) := by
  have long := nodeLong regular.top (normalizeProper regular named)
  rw [← long]
  unfold collect
  rw [named]
  constructor
  · intro stopped
    dsimp only [bind, Except.bind]
    rw [stopped]
    rfl
  · intro free
    dsimp only [bind, Except.bind]
    split
    · rename_i stopped
      exact absurd stopped free
    · refine ⟨fun files walked => ?_, fun deep => ?_⟩
      · rw [walked]
        rfl
      · rw [deep]
        rfl

theorem expandFault {path : Files.Path} {fault : Fault} (failed : world.expand path = .error fault) :
    fault ≠ .notFound := by
  unfold expand at failed
  split at failed
  · split at failed
    · split at failed
      · cases failed
        decide
      · split at failed <;> cases failed
        decide
    · cases failed
  · cases failed

theorem collectFault {path : String} {error : FileError} (failed : world.collect path levels = .error error) :
    error.fault ≠ .notFound := by
  unfold collect at failed
  cases named : world.normalize path with
  | error fault =>
      rw [named] at failed
      cases failed
      unfold normalize at named
      split at named
      · rename_i refused
        cases named
        exact expandFault refused
      · split at named <;> cases named
        nofun
  | ok base =>
      rw [named] at failed
      dsimp only [bind, Except.bind] at failed
      split at failed
      · cases failed
        nofun
      · split at failed <;> cases failed
        nofun

theorem collectWalked (regular : world.Regular) {path : String} {base : Location}
    (named : world.normalize path = .ok base) {entries : List (String × Node)}
    (folder : world.top.find? base = some (.folder entries)) (short : (absoluteText base).utf8ByteSize ≤ pathLimit)
    {files : List Location} (walked : templates levels (.folder entries) base = some files)
    (sorted : files.Pairwise fun a b => before a b) : world.collect path levels = .ok files := by
  refine ((collectNamed regular named).2 (reachable regular.top folder short)).1 files ?_
  rw [collectFolder folder, walked, Option.map_some, List.mergeSort_of_pairwise sorted]

theorem collectsTemplates {world : World} (regular : world.Regular) (path : String) (levels : Nat) :
    (∀ error, world.normalize path = .error error → world.collect path levels = .error error) ∧
    ∀ base, world.normalize path = .ok base →
      (world.Unreachable base → world.collect path levels = .error ⟨.tooLong, absoluteText base⟩) ∧
      (¬ world.Unreachable base →
        (∀ entries, world.top.find? base = some (.folder entries) →
          ((∃ between, between.length = levels ∧ Met world.top base between) →
            world.collect path levels = .error ⟨.tooDeep, ""⟩) ∧
          ((¬ ∃ between, between.length = levels ∧ Met world.top base between) →
            ∃ files, world.collect path levels = .ok files ∧ files.Pairwise Precedes ∧ ∀ file, file ∈ files ↔
              ∃ between name, file = base ++ between ++ [name] ∧ Below world.top base between name)) ∧
        (∀ bytes, world.top.find? base = some (.file bytes) → world.collect path levels = .ok [base]) ∧
        (world.top.find? base = none → world.collect path levels = .ok [])) := by
  refine ⟨fun error failed => ?_, fun base named => ?_⟩
  · rw [collect, failed]
    rfl
  obtain ⟨stops, passes⟩ := @collectNamed world levels regular path base named
  refine ⟨stops, fun free => ?_⟩
  obtain ⟨walks, breaks⟩ := passes free
  refine ⟨fun entries folder => ?_, fun bytes file => walks _ ?_, fun missing => walks _ ?_⟩
  · rw [← collectNone regular.top folder]
    refine ⟨breaks, fun shallow => ?_⟩
    obtain ⟨files, walked⟩ := Option.ne_none_iff_exists'.mp shallow
    exact ⟨files, walks files walked, collectSome regular.top folder walked⟩
  · rw [Files.collect, file]
  · rw [Files.collect, missing]

def shelf : World where
  top := .folder [(".mail", .folder [("b.JSX", .file .empty), (".old", .folder [("c.jsx", .file .empty)]),
    ("a", .folder [("d.tsx", .file .empty)])])]
  working := [".mail"]

theorem shelfRegular : shelf.Regular := by
  have old : (Node.folder [("c.jsx", .file .empty)]).Regular := .only (by decide) (by decide) (.file _)
  have new : (Node.folder [("d.tsx", .file .empty)]).Regular := .only (by decide) (by decide) (.file _)
  refine ⟨.only (by decide) (by decide) (.folder (by decide) (by decide) (by decide) ?_), by decide⟩
  exact List.forall_mem_cons.mpr ⟨.file _, List.forall_mem_cons.mpr ⟨old, List.forall_mem_singleton.mpr new⟩⟩

theorem collectsShelf : shelf.Regular ∧ shelf.normalize "." = .ok [".mail"] ∧ ∃ files, shelf.collect "." = .ok files ∧
    files.Pairwise Precedes ∧ [".mail", "a", "d.tsx"] ∈ files ∧ [".mail", ".old", "c.jsx"] ∉ files := by
  have named : shelf.normalize "." = .ok [".mail"] := by rfl
  have found : shelf.top.find? [".mail"] = some (.folder _) := rfl
  have free := reachable shelfRegular.top found (by decide)
  have shallow : ¬ ∃ between, between.length = foldersInside ∧ Met shelf.top [".mail"] between := by
    rw [← collectNone shelfRegular.top found]
    exact Option.ne_none_iff_exists'.mpr ⟨_, rfl⟩
  obtain ⟨files, collected, sorted, exactly⟩ :=
    ((((collectsTemplates shelfRegular "." foldersInside).2 _ named).2 free).1 _ found).2 shallow
  refine ⟨shelfRegular, named, files, collected, sorted, (exactly _).mpr ?_, fun listed => ?_⟩
  · exact ⟨["a"], "d.tsx", rfl, ⟨.empty, rfl⟩, ⟨['d'], ['.', 't', 's', 'x'], rfl, by decide⟩, by decide, by decide⟩
  · obtain ⟨between, name, same, below⟩ := (exactly _).mp listed
    have names : [".old", "c.jsx"] = between ++ [name] := by simpa using same
    exact below.shown ".old" (names ▸ List.mem_cons_self) rfl

end World

def row (size : Nat) : String := String.ofList (List.replicate size 'a')

theorem rowSize (size : Nat) : (row size).utf8ByteSize = size := by
  have letter : (String.singleton 'a').utf8ByteSize = 1 := rfl
  induction size with
  | zero => rfl
  | succ size ih =>
      rw [row, List.replicate_succ, String.ofList_cons, String.utf8ByteSize_append, letter, ← row, ih, Nat.add_comm]

theorem rowShown {size : Nat} (filled : 0 < size) : (row size).toList.head? ≠ some '.' := by
  rw [row, String.toList_ofList, List.head?_replicate, if_neg (Nat.ne_of_gt filled)]
  decide

theorem rowProper {size : Nat} (filled : 0 < size) : Proper (row size) := by
  have letters : (row size).toList = List.replicate size 'a' := String.toList_ofList
  have apart {name : String} (other : 'a' ∉ name.toList) : row size ≠ name := by
    rintro rfl
    rw [letters] at other
    exact other (List.mem_replicate.mpr ⟨Nat.ne_of_gt filled, rfl⟩)
  exact ⟨apart (by decide), apart (by decide), apart (by decide), by simp [letters], by simp [letters]⟩

def hollow : World := { top := .folder [], working := [] }

def floors (width height : Nat) : Location := List.replicate height (row width)

def tower (width : Nat) (ground : List (String × Node)) : Nat → Node
  | 0 => .folder ground
  | height + 1 => .folder [(row width, tower width ground height)]

section Tower

variable {width : Nat} (filled : 0 < width) {ground : List (String × Node)}

include filled in
theorem towerRegular (short : width ≤ nameLimit) (regular : (Node.folder ground).Regular) (height : Nat) :
    (tower width ground height).Regular := by
  induction height with
  | zero => exact regular
  | succ height ih => exact .only (rowProper filled) ((rowSize width).le.trans short) ih

theorem findOnly (name : String) (node : Node) (rest : Location) :
    (Node.folder [(name, node)]).find? (name :: rest) = node.find? rest := by
  simp [Node.find?, Node.entries]

theorem towerFind (width : Nat) (ground : List (String × Node)) (height : Nat) (rest : Location) :
    (tower width ground height).find? (floors width height ++ rest) = (Node.folder ground).find? rest := by
  induction height with
  | zero => rfl
  | succ height ih =>
      rw [tower, floors, List.replicate_succ, List.cons_append, findOnly, ← floors, ih]

theorem towerFolder (width : Nat) (ground : List (String × Node)) (height : Nat) :
    ∃ entries, tower width ground height = .folder entries := by
  cases height <;> exact ⟨_, rfl⟩

include filled in
theorem towerTemplates (levels height : Nat) {here : Location}
    (opened : (absoluteText (here ++ floors width height)).utf8ByteSize ≤ pathLimit) :
    templates (levels + (height + 1)) (tower width ground (height + 1)) here =
      templates levels (.folder ground) (here ++ floors width (height + 1)) := by
  induction height generalizing here with
  | zero => exact templatesOnly (by simpa [floors] using opened) (rowShown filled)
  | succ height ih =>
      have further (more : Nat) : here ++ floors width (more + 1) = here ++ [row width] ++ floors width more := by
        rw [floors, List.replicate_succ, List.append_assoc]
        rfl
      have start := (absoluteGrows here (floors width (height + 1))).trans opened
      rw [further] at opened ⊢
      obtain ⟨inner, next⟩ := towerFolder width ground (height + 1)
      rw [tower, next, ← Nat.add_assoc, templatesOnly start (rowShown filled), ← next, ih opened]

theorem floorsSize (width height : Nat) (rest : Location) :
    namesSize (floors width height ++ rest) = height * (width + 1) + namesSize rest := by
  induction height with
  | zero => rw [Nat.zero_mul, Nat.zero_add]; rfl
  | succ height ih =>
      rw [floors, List.replicate_succ, List.cons_append, namesSize, ← floors, ih, rowSize, Nat.succ_mul]
      omega

end Tower

def spire : World := { top := tower 255 [("b.jsx", .file .empty)] 16, working := [] }

def shaft : World := { top := tower 1 [("b.jsx", .file .empty)] foldersInside, working := [] }

theorem spireWalked : ∃ files, Files.collect foldersInside spire.top [] = some files := by
  have opened : (absoluteText ([] ++ floors 255 15)).utf8ByteSize ≤ pathLimit := by
    rw [List.nil_append, absoluteSize (by simp [floors]), ← List.append_nil (floors _ _), floorsSize]
    decide
  have long : pathLimit < (absoluteText ([] ++ floors 255 16)).utf8ByteSize := by
    rw [List.nil_append, absoluteSize (by simp [floors]), ← List.append_nil (floors _ _), floorsSize]
    decide
  obtain ⟨entries, folder⟩ := towerFolder 255 [("b.jsx", .file .empty)] 16
  have walked : templates foldersInside (.folder entries) [] = some [] := by
    rw [← folder, foldersInside, towerTemplates (by decide) 979 15 opened, templatesFolder, if_pos long]
  have found : spire.top.find? [] = some (.folder entries) := congrArg some folder
  rw [collectFolder found, walked]
  exact ⟨_, rfl⟩

theorem groundRegular : (Node.folder [("b.jsx", .file .empty)]).Regular := .only (by decide) (by decide) (.file _)

theorem shaftRegular : shaft.Regular := ⟨towerRegular (by decide) (by decide) groundRegular _, by simp [shaft]⟩

theorem shaftCollected : shaft.collect "/" = .error ⟨.tooDeep, ""⟩ := by
  have opened : (absoluteText ([] ++ floors 1 994)).utf8ByteSize ≤ pathLimit := by
    rw [List.nil_append, absoluteSize (fun none => by cases none), ← List.append_nil (floors _ _), floorsSize]
    decide
  obtain ⟨entries, folder⟩ := towerFolder 1 [("b.jsx", .file .empty)] 995
  have walked : templates foldersInside (.folder entries) [] = none := by
    rw [← folder, foldersInside, ← Nat.zero_add 995, towerTemplates (by decide) 0 994 opened, templates]
  have found : shaft.top.find? [] = some (.folder entries) := congrArg some folder
  have free := World.reachable shaftRegular.top found (by decide)
  refine ((World.collectNamed shaftRegular (by rfl : shaft.normalize "/" = .ok [])).2 free).2 ?_
  rw [collectFolder found, walked, Option.map_none]

theorem missesTooLong : (hollow.Regular ∧ hollow.normalize (absoluteText [row 256]) = .ok [row 256] ∧
      hollow.top.find? [row 256] = none ∧
      hollow.collect (absoluteText [row 256]) = .error ⟨.tooLong, absoluteText [row 256]⟩) ∧
    (spire.Regular ∧ spire.normalize "/" = .ok [] ∧ ∃ files, spire.collect "/" = .ok files ∧
      spire.top.find? (floors 255 16 ++ ["b.jsx"]) = some (.file .empty) ∧ TemplateName "b.jsx" ∧
      (∀ part ∈ floors 255 16 ++ ["b.jsx"], part.toList.head? ≠ some '.') ∧ floors 255 16 ++ ["b.jsx"] ∉ files) ∧
    shaft.Regular ∧ shaft.normalize "/" = .ok [] ∧
      shaft.top.find? (floors 1 foldersInside ++ ["b.jsx"]) = some (.file .empty) ∧
      shaft.collect "/" = .error ⟨.tooDeep, ""⟩ := by
  have bare : hollow.Regular := ⟨.folder (by simp) (by simp) (by simp) (by simp), by simp [hollow]⟩
  have named := World.normalizeAbsolute hollow (List.forall_mem_singleton.mpr (rowProper (by decide : 0 < 256)))
  have stopped : hollow.Unreachable [row 256] := .inr ⟨[], row 256, [], [], rfl, rfl, (rowSize 256).ge⟩
  have high : spire.Regular := ⟨towerRegular (by decide) (by decide) groundRegular 16, by simp [spire]⟩
  have root : spire.normalize "/" = .ok [] := by rfl
  have tall : pathLimit < (absoluteText (floors 255 16 ++ [])).utf8ByteSize := by
    rw [absoluteSize (by simp [floors]), floorsSize]
    decide
  have shown : ∀ part ∈ floors 255 16 ++ ["b.jsx"], part.toList.head? ≠ some '.' := by
    intro part listed
    rcases List.mem_append.mp listed with floor | last
    · rw [List.eq_of_mem_replicate floor]
      exact rowShown (by decide)
    · rw [List.mem_singleton.mp last]
      decide
  obtain ⟨files, walked⟩ := spireWalked
  obtain ⟨-, exactly⟩ := collectSome high.top rfl walked
  refine ⟨⟨bare, named, rfl, (World.collectNamed bare named).1 stopped⟩, ⟨high, root, files,
    ((World.collectNamed high root).2 (World.reachable high.top rfl (by decide))).1 _ walked,
    towerFind _ _ 16 ["b.jsx"], ⟨['b'], _, rfl, by decide⟩, shown, fun listed => ?_⟩, shaftRegular, by rfl,
    towerFind _ _ _ _, shaftCollected⟩
  obtain ⟨between, name, same, below⟩ := (exactly _).mp listed
  obtain ⟨rfl, -⟩ := List.append_inj' same rfl
  exact Nat.not_le.mpr tall (by simpa using below.opened)

end EmailMarkup.Files
