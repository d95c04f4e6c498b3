import EmailMarkup.Files.Content
import EmailMarkup.Proofs.Location
import EmailMarkup.Proofs.Reader

/-! Trees after something is written. A node that is put into a folder changes nothing else, folders made on the way
appear where nothing was, and so no file but the one written is changed and each way that was free stays free. -/
namespace EmailMarkup.Files

namespace Node

def bytes? : Node → Option ByteArray
  | .file bytes => some bytes
  | .folder _ => none

def seen (node : Node) (location : Location) : Option (Option ByteArray) := (node.find? location).map bytes?

theorem seenFolder {node : Node} {location : Location} :
    node.seen location = some none ↔ ∃ entries, node.find? location = some (.folder entries) := by
  rw [seen]
  cases node.find? location with
  | none => simp
  | some inner => cases inner <;> simp [bytes?]

theorem seenFile {node : Node} {location : Location} {bytes : ByteArray} :
    node.seen location = some (some bytes) ↔ node.find? location = some (.file bytes) := by
  rw [seen]
  cases node.find? location with
  | none => simp
  | some inner => cases inner <;> simp [bytes?]

theorem seenCons (node : Node) (name : String) (rest : Location) :
    node.seen (name :: rest) = (node.entries.lookup name).bind (seen · rest) := by
  rw [seen, find?, Option.map_bind]
  rfl

theorem seenEntry (entries : List (String × Node)) (name : String) (rest : Location) :
    (Node.folder entries).seen (name :: rest) = (entries.lookup name).bind (seen · rest) := seenCons _ name rest

theorem seenNowhere {node : Node} (bare : node.entries = []) (name : String) (rest : Location) :
    node.seen (name :: rest) = none := by
  rw [seenCons, bare]
  rfl

theorem seenBelow {node : Node} {location : Location} (other : node.seen location ≠ some none) (name : String)
    (rest : Location) : node.seen (location ++ name :: rest) = none := by
  rw [seen, findAppend]
  cases found : node.find? location with
  | none => rfl
  | some inner =>
      cases inner with
      | file bytes => rfl
      | folder entries => exact absurd (seenFolder.mpr ⟨entries, found⟩) other

theorem lookupSetOther (entries : List (String × Node)) {name other : String} (apart : other ≠ name) (node : Node) :
    (setEntry entries name node).lookup other = entries.lookup other := by
  induction entries with
  | nil => simp [setEntry, apart]
  | cons entry rest ih =>
      obtain ⟨first, old⟩ := entry
      unfold setEntry
      split
      · rename_i same
        subst same
        have skipped : (other == first) = false := by simpa using apart
        rw [List.lookup_cons, List.lookup_cons, skipped]
      · rw [List.lookup_cons, List.lookup_cons, ih]

theorem throughFolder {node : Node} {first : String} {rest : Location}
    (folder : node.seen (first :: rest) = some none) :
    ∃ entries inner, node = .folder entries ∧ entries.lookup first = some inner ∧ inner.seen rest = some none := by
  rw [seenCons] at folder
  obtain ⟨inner, held, below⟩ := Option.bind_eq_some_iff.mp folder
  cases node with
  | file bytes => contradiction
  | folder entries => exact ⟨entries, inner, rfl, held, below⟩

section Put

variable {node new : Node} {front : Location} {name : String}

theorem findPut (folder : node.seen front = some none) :
    (node.put (front ++ [name]) new).find? (front ++ [name]) = some new := by
  induction front generalizing node with
  | nil =>
      obtain ⟨entries, same⟩ := seenFolder.mp folder
      cases same
      rw [List.nil_append, put, find?, Node.entries, lookupSetEntry]
      rfl
  | cons first rest ih =>
      obtain ⟨entries, inner, rfl, held, below⟩ := throughFolder folder
      rw [List.cons_append, put, find?, Node.entries, lookupSetEntry, held]
      exact ih below

theorem seenPut (folder : node.seen front = some none) (old : node.seen (front ++ [name]) ≠ some none)
    (bare : new.entries = []) {other : Location} (apart : other ≠ front ++ [name]) :
    (node.put (front ++ [name]) new).seen other = node.seen other := by
  -- The folders above stay what they are, and below the new node nothing is and nothing was.
  induction front generalizing node other with
  | nil =>
      obtain ⟨entries, same⟩ := seenFolder.mp folder
      cases same
      cases other with
      | nil => rfl
      | cons first rest =>
          rw [List.nil_append, put, seenEntry, seenEntry]
          by_cases here : first = name
          · subst here
            cases rest with
            | nil => exact absurd rfl apart
            | cons second further =>
                have before := seenBelow old second further
                rw [List.nil_append, List.singleton_append, seenEntry] at before
                rw [lookupSetEntry, before]
                exact seenNowhere bare second further
          · rw [lookupSetOther entries here]
  | cons first rest ih =>
      obtain ⟨entries, inner, rfl, held, below⟩ := throughFolder folder
      cases other with
      | nil => rfl
      | cons second further =>
          rw [List.cons_append, put, seenEntry, seenEntry]
          by_cases here : second = first
          · subst here
            rw [List.cons_append, seenEntry, held] at old
            rw [lookupSetEntry, held]
            exact ih below old fun same => apart (congrArg (second :: ·) same)
          · rw [lookupSetOther entries here]

end Put

end Node

namespace World

structure Grown (old new : World) : Prop where
  working : new.working = old.working
  seen : ∀ location, new.top.seen location = old.top.seen location ∨
    old.top.seen location = none ∧ new.top.seen location = some none

theorem Grown.refl (world : World) : Grown world world := ⟨rfl, fun _ => .inl rfl⟩

theorem Grown.trans {first second third : World} (front : Grown first second) (back : Grown second third) :
    Grown first third where
  working := back.working.trans front.working
  seen := by
    intro location
    obtain same | ⟨absent, made⟩ := front.seen location <;>
      obtain again | ⟨missing, later⟩ := back.seen location
    · exact .inl (again.trans same)
    · exact .inr ⟨same.symm.trans missing, later⟩
    · exact .inr ⟨absent, again.trans made⟩
    · exact absurd (made.symm.trans missing) (by simp)

theorem Grown.files {old new : World} (grown : Grown old new) (location : Location) (bytes : ByteArray) :
    new.top.seen location = some (some bytes) ↔ old.top.seen location = some (some bytes) := by
  obtain same | ⟨absent, made⟩ := grown.seen location
  · rw [same]
  · simp [absent, made]

/-- What a place that is found says about its path: a way is free to a folder, and the last name is looked up in it. -/
structure Located (world : World) (path : Path) (folder : Location) (last : Option String) : Prop where
  sound : pathFault? path.text = none
  walked : world.walk (world.start path.text) path.names.dropLast = .ok folder
  there : world.top.seen folder = some none
  short : path.name.utf8ByteSize ≤ nameLimit
  last : path.names.getLast?.filter (· != "..") = last

section Steps

variable {world : World} {here there folder : Location} {name : String} {names : List String} {path : Path}

theorem checkFolderOk : world.checkFolder here = .ok () ↔ world.top.seen here = some none := by
  rw [checkFolder, Node.seen]
  cases world.top.find? here with
  | none => simp
  | some node => cases node <;> simp [Node.bytes?]

theorem stepOk : world.step here name = .ok there ↔ world.top.seen here = some none ∧
    name.utf8ByteSize ≤ nameLimit ∧ there = if name = "." then here else descend here name := by
  rw [← checkFolderOk, step, ← Nat.not_lt]
  cases world.checkFolder here with
  | error fault => simp [bind, Except.bind]
  | ok =>
      by_cases long : nameLimit < name.utf8ByteSize
      · simp [bind, Except.bind, long]
      · simp [bind, Except.bind, pure, Except.pure, long, eq_comm]

theorem walkConsOk : world.walk here (name :: names) = .ok there ↔
    ∃ next, world.step here name = .ok next ∧ world.walk next names = .ok there := by
  rw [walkCons]
  cases world.step here name <;> simp [Except.bind]

theorem walkLexical (plain : ∀ name ∈ names, name ≠ ".") (walked : world.walk here names = .ok there) :
    there = names.foldl descend here := by
  induction names generalizing here with
  | nil => cases walked; rfl
  | cons name rest ih =>
      rw [List.forall_mem_cons] at plain
      obtain ⟨next, stepped, further⟩ := walkConsOk.mp walked
      obtain ⟨-, -, same⟩ := stepOk.mp stepped
      rw [if_neg plain.1] at same
      rw [ih plain.2 further, same, List.foldl_cons]

theorem walkKept {new : World}
    (kept : ∀ location, world.top.seen location = some none → new.top.seen location = some none)
    (walked : world.walk here names = .ok there) : new.walk here names = .ok there := by
  induction names generalizing here with
  | nil => exact walked
  | cons name rest ih =>
      obtain ⟨next, stepped, further⟩ := walkConsOk.mp walked
      obtain ⟨folder, short, same⟩ := stepOk.mp stepped
      exact walkConsOk.mpr ⟨next, stepOk.mpr ⟨kept here folder, short, same⟩, ih further⟩

theorem placeOk {last : Option String} (placed : world.place path = .ok (folder, last)) :
    Located world path folder last := by
  have fault : pathFault? path.text = none := by
    cases found : pathFault? path.text with
    | none => rfl
    | some fault =>
        rw [place, found] at placed
        contradiction
  rw [place, fault] at placed
  obtain ⟨between, walked, placed⟩ := bindOk placed
  obtain ⟨_, checked, placed⟩ := bindOk placed
  split at placed
  · contradiction
  · rename_i short
    cases placed
    exact ⟨fault, walked, checkFolderOk.mp checked, Nat.not_lt.mp short, rfl⟩

theorem makeFolderGrown {made : World} (ok : world.makeFolder path = .ok made) : Grown world made := by
  obtain ⟨⟨folder, last⟩, placed, ok⟩ := bindOk ok
  have there := (placeOk placed).there
  cases last with
  | none => contradiction
  | some name =>
      dsimp only at ok
      split at ok
      · contradiction
      · rename_i absent
        cases ok
        have nothing : world.top.seen (folder ++ [name]) = none := by simpa [Node.seen] using absent
        refine ⟨rfl, fun location => ?_⟩
        by_cases here : location = folder ++ [name]
        · subst here
          exact .inr ⟨nothing, Node.seenFolder.mpr ⟨[], Node.findPut there⟩⟩
        · exact .inl (Node.seenPut there (by simp [nothing]) rfl here)

theorem attemptGrown (world : World) (path : Path) : Grown world (world.attempt path).world := by
  unfold attempt
  split
  · rename_i made ok
    exact makeFolderGrown ok
  · split <;> exact .refl world

theorem ensureGrown (fuel : Nat) (world : World) (path : Path) : Grown world (ensureWith fuel world path).world := by
  induction fuel generalizing path with
  | zero => exact .refl world
  | succ fuel ih =>
      rw [ensureWith]
      have alone := attemptGrown world path
      have below := ih path.parent
      refine iteInduction (motive := fun a : Attempt => Grown world a.world) (fun _ => ?_) fun _ => alone
      refine iteInduction (motive := fun a : Attempt => Grown world a.world) (fun _ => .refl world) fun _ => ?_
      exact iteInduction (motive := fun a : Attempt => Grown world a.world) (fun _ => below)
        fun _ => below.trans (attemptGrown _ path)

end Steps

def holding (world : World) (folder : Location) (name : String) (bytes : ByteArray) : World :=
  world.put (folder ++ [name]) (.file bytes)

structure Room (world : World) (path : Path) (between : World) (folder : Location) (name : String) : Prop where
  grown : Grown world between
  placed : Located between path folder (some name)
  free : between.top.seen (folder ++ [name]) ≠ some none

theorem writeOutcome (world : World) (path text : String) :
    Grown world (world.write path text).world ∧ (world.write path text).failure ≠ none ∨
    ∃ between folder name, Room world (Path.ofText path) between folder name ∧
      world.write path text = ⟨between.holding folder name text.toUTF8, none⟩ := by
  have grown := ensureGrown foldersAtOnce world (Path.ofText path).parent
  rw [write]
  split
  · rename_i failed
    exact .inl ⟨grown, Option.isSome_iff_ne_none.mp failed⟩
  · rw [writeBytes]
    split
    · exact .inl ⟨grown, by simp⟩
    · exact .inl ⟨grown, by simp⟩
    · rename_i folder name placed
      split
      · exact .inl ⟨grown, by simp⟩
      · rename_i other
        refine .inr ⟨_, folder, name, ⟨grown, placeOk placed, fun held => ?_⟩, rfl⟩
        obtain ⟨entries, found⟩ := Node.seenFolder.mp held
        exact other entries found

end World
end EmailMarkup.Files
