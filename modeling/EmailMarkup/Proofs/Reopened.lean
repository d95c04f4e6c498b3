import EmailMarkup.Proofs.Placed
import EmailMarkup.Proofs.Route
import EmailMarkup.Proofs.Stored
import Mathlib.Data.List.Induction

/-! Files that are written and opened again. The way to the file that was free for writing is free for reading, under the
path that is kept of the one given, and under the latter too unless it asks for a folder or is too long. -/
namespace EmailMarkup.Files.World

section Node

variable {world : World} {path : String}

theorem nodeOpens (sound : pathFault? path = none) {there : Location} {node : Node}
    (walked : world.walk (world.start path) (steps path) = .ok there) (found : world.top.find? there = some node) :
    world.nodeAt path = .ok node := by
  rw [nodeAt, sound, walked]
  simp only [bind, Except.bind, found]
  rfl

theorem nodeRefused {fault : Fault} (refused : pathFault? path = some fault) : world.nodeAt path = .error fault := by
  rw [nodeAt, refused]
  rfl

theorem nodeStopped {fault : Fault} (sound : pathFault? path = none)
    (stopped : world.walk (world.start path) (steps path) = .error fault) : world.nodeAt path = .error fault := by
  rw [nodeAt, sound, stopped]
  rfl

end Node

section Walk

variable {world : World} {here there : Location} {names : List String}

theorem goesOn {rest : List String} (last : ("." :: rest).getLast? ≠ some ".") : rest.filter (· != ".") ≠ [] := by
  intro none
  rw [List.getLast?_cons] at last
  cases ends : rest.getLast? with
  | none => exact last (by rw [ends]; rfl)
  | some final =>
      have dot := List.filter_eq_nil_iff.mp none final (List.mem_of_getLast? ends)
      exact last (by rw [ends]; simpa using dot)

/- A name of the folder itself changes nothing on a way that goes on, where a folder must stand anyway. -/
theorem walkDotted (walked : world.walk here (names.filter (· != ".")) = .ok there) (last : names.getLast? ≠ some ".") :
    world.walk here names = .ok there := by
  induction names generalizing here with
  | nil => exact walked
  | cons name rest ih =>
      have further : rest.getLast? ≠ some "." := by
        cases rest with
        | nil => simp
        | cons second rest => exact last
      by_cases dot : name = "."
      · subst dot
        rw [List.filter_cons_of_neg (by simp)] at walked
        have folder : world.top.seen here = some none := by
          obtain ⟨next, behind, names⟩ := List.exists_cons_of_ne_nil (goesOn last)
          rw [names] at walked
          obtain ⟨_, stepped, _⟩ := walkConsOk.mp walked
          exact (stepOk.mp stepped).1
        exact walkConsOk.mpr ⟨here, stepOk.mpr ⟨folder, by decide, (if_pos rfl).symm⟩, ih walked further⟩
      · rw [List.filter_cons_of_pos (by simpa using dot)] at walked
        obtain ⟨next, stepped, walked⟩ := walkConsOk.mp walked
        exact walkConsOk.mpr ⟨next, stepped, ih walked further⟩

theorem walkAsking {bytes : ByteArray} (walked : world.walk here (names.filter (· != ".")) = .ok there)
    (file : world.top.seen there = some (some bytes)) (last : names.getLast? = some ".") :
    world.walk here names = .error .notFolder := by
  induction names using List.reverseRecOn with
  | nil => contradiction
  | append_singleton front name ih =>
      rw [List.getLast?_concat, Option.some_inj] at last
      subst last
      rw [List.filter_append, List.filter_cons_of_neg (by simp), List.filter_nil, List.append_nil] at walked
      rw [walkAppend]
      by_cases again : front.getLast? = some "."
      · rw [ih walked again]
        rfl
      · have here : world.checkFolder there = .error .notFolder := by
          rw [checkFolder, Node.seenFile.mp file]
        rw [walkDotted walked again, Except.bind, walkCons, step, here]
        rfl

end Walk

namespace Room

variable {world between : World} {folder : Location} {name : String} {bytes : ByteArray}

theorem last {path : Path} (room : Room world path between folder name) :
    path.names.dropLast ++ [name] = path.names ∧ name ≠ ".." := by
  obtain ⟨final, below⟩ := Option.filter_eq_some_iff.mp room.placed.last
  exact ⟨List.dropLast_append_getLast? name final, by simpa using below⟩

variable {path : String} (room : Room world (Path.ofText path) between folder name)
include room

theorem named : (Path.ofText path).names ≠ [] := by
  rw [← room.last.1]
  exact List.concat_ne_nil _ _

theorem location : (Path.ofText path).location world.working = folder ++ [name] := by
  obtain ⟨names, below⟩ := room.last
  have plain : ∀ name ∈ (Path.ofText path).names.dropLast, name ≠ "." := fun name kept =>
    (namesPlain path name (List.dropLast_subset _ kept)).2.1
  have lexical := walkLexical plain room.placed.walked
  rw [startText room.named, startRoot, room.grown.working] at lexical
  rw [Path.location, ← names, List.foldl_append, ← lexical, List.foldl_cons, List.foldl_nil, descend, if_neg below]

theorem find : (between.holding folder name bytes).top.find? (folder ++ [name]) = some (.file bytes) :=
  Node.findPut room.placed.there

theorem seen {other : Location} (apart : other ≠ folder ++ [name]) :
    (between.holding folder name bytes).top.seen other = between.top.seen other :=
  Node.seenPut room.placed.there room.free rfl apart

theorem kept {other : Location} (there : between.top.seen other = some none) :
    (between.holding folder name bytes).top.seen other = some none := by
  rw [room.seen fun same => room.free (same ▸ there), there]

theorem way (bytes : ByteArray) :
    (between.holding folder name bytes).walk ((between.holding folder name bytes).start path)
      (Path.ofText path).names = .ok (folder ++ [name]) := by
  obtain ⟨names, below⟩ := room.last
  have dot : name ≠ "." := (namesPlain path name (by rw [← names]; simp)).2.1
  have size : name.utf8ByteSize ≤ nameLimit := by
    have short := room.placed.short
    rwa [Path.name, ← names, List.getLast?_concat, Option.getD_some] at short
  have start : (between.holding folder name bytes).start path = between.start (Path.ofText path).text := by
    rw [startText room.named]
    rfl
  have step : (between.holding folder name bytes).step folder name = .ok (folder ++ [name]) :=
    stepOk.mpr ⟨room.kept room.placed.there, size, by rw [if_neg dot, descend, if_neg below]⟩
  rw [start, ← names, walkAppend, walkKept (fun _ => room.kept) room.placed.walked, Except.bind, walkCons, step]
  rfl

theorem opensText (bytes : ByteArray) :
    (between.holding folder name bytes).nodeAt (Path.ofText path).text = .ok (.file bytes) := by
  refine nodeOpens room.placed.sound ?_ room.find
  rw [startText room.named, Path.stepsText room.named]
  exact room.way bytes

theorem opensGiven (bytes : ByteArray) : (between.holding folder name bytes).nodeAt path =
    if pathLimit < path.utf8ByteSize then .error .tooLong
    else if AsksFolder path then .error .notFolder else .ok (.file bytes) := by
  have way := room.way bytes
  rw [← namesSteps] at way
  have fault := Path.faultGiven room.named room.placed.sound
  by_cases long : pathLimit < path.utf8ByteSize
  · rw [if_pos long] at fault ⊢
    exact nodeRefused fault
  · rw [if_neg long] at fault ⊢
    by_cases asks : AsksFolder path
    · rw [if_pos asks]
      exact nodeStopped fault (walkAsking way (Node.seenFile.mpr room.find) ((Path.stepsAsk room.named).mpr asks))
    · rw [if_neg asks]
      exact nodeOpens fault (walkDotted way fun last => asks ((Path.stepsAsk room.named).mp last)) room.find

end Room

theorem readRefused {world : World} {path : String} {fault : Fault} (refused : world.nodeAt path = .error fault) :
    world.read path = .error (.file ⟨fault, path⟩) := by
  rw [read, readWith, readBytes, refused]
  rfl

variable {world : World} {path text : String}

theorem writtenNamed (done : (world.write path text).failure = none) : (Path.ofText path).names ≠ [] := by
  obtain ⟨-, failed⟩ | ⟨between, folder, name, room, -⟩ := writeOutcome world path text
  · exact absurd done failed
  · exact room.named

theorem failureAny (world : World) (path text other : String) :
    (world.write path text).failure = (world.write path other).failure := by
  rw [write, write]
  split
  · rfl
  · rw [writeBytes, writeBytes]
    split
    · rfl
    · rfl
    · split <;> rfl

/- The file is where the path says, and it is read back under the path that is kept and mostly under the one given. -/
theorem writtenRead (done : (world.write path text).failure = none) :
    (world.write path text).world.top.find? ((Path.ofText path).location world.working) = some (.file text.toUTF8) ∧
    (world.write path text).world.read (Path.ofText path).text = .ok (readBack text) ∧
    (world.write path text).world.read path =
      if pathLimit < path.utf8ByteSize then .error (.file ⟨.tooLong, path⟩)
      else if AsksFolder path then .error (.file ⟨.notFolder, path⟩) else .ok (readBack text) := by
  obtain ⟨-, failed⟩ | ⟨between, folder, name, room, written⟩ := writeOutcome world path text
  · exact absurd done failed
  · have opened := room.opensGiven text.toUTF8
    rw [written, room.location]
    refine ⟨room.find, readOpened (room.opensText _), ?_⟩
    split at opened
    · rename_i long
      rw [readRefused opened, if_pos long]
    · rename_i short
      rw [if_neg short]
      split at opened
      · rename_i asks
        rw [readRefused opened, if_pos asks]
      · rename_i plain
        rw [readOpened opened, if_neg plain]

theorem writtenElsewhere {other : Location} (apart : other ≠ (Path.ofText path).location world.working)
    (bytes : ByteArray) : (world.write path text).world.top.find? other = some (.file bytes) ↔
      world.top.find? other = some (.file bytes) := by
  rw [← Node.seenFile, ← Node.seenFile]
  obtain ⟨grown, -⟩ | ⟨between, folder, name, room, written⟩ := writeOutcome world path text
  · exact grown.files other bytes
  · rw [room.location] at apart
    rw [written, room.seen apart]
    exact room.grown.files other bytes

end EmailMarkup.Files.World
