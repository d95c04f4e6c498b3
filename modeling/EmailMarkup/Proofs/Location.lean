import EmailMarkup.Files.Collect
import EmailMarkup.Proofs.Text
import Mathlib.Data.List.Basic

/-! Locations in a tree and the paths that name them. In a tree as file systems hold it, the absolute path of a location
leads to what is there, unless the path or a name in it is too long to be looked up, and every path that can be
normalized names a location. -/
namespace EmailMarkup.Files

structure Proper (name : String) : Prop where
  filled : name ≠ ""
  noFolder : name ≠ "."
  noParent : name ≠ ".."
  slashless : '/' ∉ name.toList
  zeroless : '\x00' ∉ name.toList

instance (name : String) : Decidable (Proper name) :=
  decidable_of_iff (name ≠ "" ∧ name ≠ "." ∧ name ≠ ".." ∧ '/' ∉ name.toList ∧ '\x00' ∉ name.toList)
    ⟨fun ⟨a, b, c, d, e⟩ => ⟨a, b, c, d, e⟩, fun ⟨a, b, c, d, e⟩ => ⟨a, b, c, d, e⟩⟩

inductive Node.Regular : Node → Prop where
  | file (bytes : ByteArray) : Regular (.file bytes)
  | folder {entries : List (String × Node)} (proper : ∀ entry ∈ entries, Proper entry.1)
      (short : ∀ entry ∈ entries, entry.1.utf8ByteSize ≤ nameLimit) (distinct : (entries.map Prod.fst).Nodup)
      (inner : ∀ entry ∈ entries, Regular entry.2) : Regular (.folder entries)

structure World.Regular (world : World) : Prop where
  top : world.top.Regular
  working : ∀ name ∈ world.working, Proper name

/-- A location that the file system refuses to look up: its path is too long, or a name in a folder that is there. -/
def World.Unreachable (world : World) (location : Location) : Prop :=
  pathLimit < (absoluteText location).utf8ByteSize ∨ ∃ ahead name behind entries, location = ahead ++ name :: behind ∧
    world.top.find? ahead = some (.folder entries) ∧ nameLimit < name.utf8ByteSize

namespace Node

theorem findAppend (node : Node) (a b : Location) : node.find? (a ++ b) = (node.find? a).bind (find? · b) := by
  induction a generalizing node with
  | nil => rfl
  | cons name a ih =>
      rw [List.cons_append, find?, find?, Option.bind_assoc]
      exact congrArg _ (funext fun inner => ih inner)

theorem lookupEntry {entries : List (String × Node)} (distinct : (entries.map Prod.fst).Nodup) {name : String}
    {node : Node} : entries.lookup name = some node ↔ (name, node) ∈ entries := by
  constructor
  · intro found
    obtain ⟨before, after, rfl, _⟩ := List.lookup_eq_some_iff.mp found
    simp
  · intro member
    obtain ⟨before, after, rfl⟩ := List.append_of_mem member
    refine List.lookup_eq_some_iff.mpr ⟨before, after, rfl, fun entry earlier => ?_⟩
    rw [List.map_append, List.nodup_append] at distinct
    have apart := distinct.2.2 entry.1 (List.mem_map_of_mem earlier) name (by simp)
    simpa using Ne.symm apart

theorem Regular.only {name : String} {node : Node} (proper : Proper name) (short : name.utf8ByteSize ≤ nameLimit)
    (regular : node.Regular) : (Node.folder [(name, node)]).Regular :=
  .folder (List.forall_mem_singleton.mpr proper) (List.forall_mem_singleton.mpr short) (by simp)
    (List.forall_mem_singleton.mpr regular)

theorem Regular.found {node inner : Node} (regular : node.Regular) {location : Location}
    (found : node.find? location = some inner) :
    inner.Regular ∧ ∀ name ∈ location, Proper name ∧ name.utf8ByteSize ≤ nameLimit := by
  induction location generalizing node with
  | nil =>
      cases found
      exact ⟨regular, by simp⟩
  | cons name rest ih =>
      cases regular with
      | file => contradiction
      | folder proper short distinct regular =>
          obtain ⟨next, held, found⟩ := Option.bind_eq_some_iff.mp found
          have member := (lookupEntry distinct).mp held
          obtain ⟨whole, names⟩ := ih (regular _ member) found
          refine ⟨whole, fun other listed => ?_⟩
          rcases List.mem_cons.mp listed with rfl | later
          · exact ⟨proper _ member, short _ member⟩
          · exact names other later

end Node

section Text

theorem absoluteChars (location : Location) :
    (absoluteText location).toList = '/' :: ['/'].intercalate (location.map String.toList) := by
  rw [absoluteText, String.toList_append, String.toList_intercalate]
  rfl

theorem joinedFilled {pieces : List (List Char)} (free : ∀ piece ∈ pieces, piece ≠ [] ∧ '/' ∉ piece)
    (listed : pieces ≠ []) : ['/'].intercalate pieces ≠ [] := by
  match pieces, listed with
  | [piece], _ => simpa [List.intercalate_singleton] using (free piece List.mem_cons_self).1
  | first :: second :: rest, _ => simp [List.intercalate_cons_cons]

theorem joinedStart {pieces : List (List Char)} (free : ∀ piece ∈ pieces, piece ≠ [] ∧ '/' ∉ piece) :
    (['/'].intercalate pieces).head? ≠ some '/' := by
  match pieces with
  | [] => simp [List.intercalate_nil]
  | [piece] =>
      rw [List.intercalate_singleton]
      exact fun slash => (free piece List.mem_cons_self).2 (List.mem_of_head? slash)
  | piece :: second :: rest =>
      have here := free piece List.mem_cons_self
      rw [List.intercalate_cons_cons, List.append_assoc, List.head?_append_of_ne_nil _ here.1]
      exact fun slash => here.2 (List.mem_of_head? slash)

theorem joinedEnd {pieces : List (List Char)} (free : ∀ piece ∈ pieces, piece ≠ [] ∧ '/' ∉ piece) :
    (['/'].intercalate pieces).getLast? ≠ some '/' := by
  induction pieces with
  | nil => simp [List.intercalate_nil]
  | cons piece rest ih =>
      rw [List.forall_mem_cons] at free
      by_cases last : rest = []
      · subst last
        rw [List.intercalate_singleton]
        exact fun slash => free.1.2 (List.mem_of_getLast? slash)
      · rw [List.intercalate_cons_of_ne_nil last, List.getLast?_append_of_ne_nil _ (joinedFilled free.2 last)]
        exact ih free.2

def namesSize : Location → Nat
  | [] => 0
  | name :: rest => name.utf8ByteSize + 1 + namesSize rest

theorem namesSizeAppend (a b : Location) : namesSize (a ++ b) = namesSize a + namesSize b := by
  induction a with
  | nil => exact (Nat.zero_add _).symm
  | cons name rest ih => rw [List.cons_append, namesSize, ih, namesSize, ← Nat.add_assoc]

theorem absoluteSize {location : Location} (below : location ≠ []) :
    (absoluteText location).utf8ByteSize = namesSize location := by
  have slash : "/".utf8ByteSize = 1 := rfl
  induction location with
  | nil => contradiction
  | cons name rest ih =>
      cases rest with
      | nil => rw [absoluteText, String.intercalate_singleton, String.utf8ByteSize_append, slash, Nat.add_comm]; rfl
      | cons next rest =>
          have further := ih (by simp)
          rw [absoluteText, String.utf8ByteSize_append, slash] at further
          rw [absoluteText, String.intercalate_cons_cons, namesSize, ← further]
          simp only [String.utf8ByteSize_append, slash]
          omega

theorem absoluteGrows (a b : Location) : (absoluteText a).utf8ByteSize ≤ (absoluteText (a ++ b)).utf8ByteSize := by
  cases a with
  | nil =>
      rw [absoluteText, absoluteText, String.utf8ByteSize_append, String.utf8ByteSize_append]
      exact Nat.add_le_add_left (Nat.zero_le _) _
  | cons name rest =>
      rw [absoluteSize (by simp), absoluteSize (by simp), namesSizeAppend]
      exact Nat.le_add_right _ _

section Joined

variable {names : List String} (free : ∀ name ∈ names, name ≠ "" ∧ '/' ∉ name.toList)
include free

theorem freePieces : ∀ piece ∈ names.map String.toList, piece ≠ [] ∧ '/' ∉ piece :=
  List.forall_mem_map.mpr fun name listed => ⟨by simpa using (free name listed).1, (free name listed).2⟩

variable {front : List Char} (slashes : ∀ c ∈ front, c = '/') {path : String}
  (chars : path.toList = front ++ ['/'].intercalate (names.map String.toList))
include slashes chars

theorem slashedJoined : (slashed path).filter (· != "") = names := by
  rw [slashed, chars]
  clear chars
  induction front with
  | nil =>
      by_cases none : names = []
      · subst none
        rfl
      · have apart : ∀ piece ∈ names.map String.toList, '/' ∉ piece :=
          List.forall_mem_map.mpr fun name listed => (free name listed).2
        have back : String.ofList ∘ String.toList = id := funext fun name => String.ofList_toList
        rw [List.nil_append, List.splitOn_intercalate '/' apart (by simpa using none), List.map_map, back, List.map_id,
          List.filter_eq_self]
        exact fun name listed => by simpa using (free name listed).1
  | cons c rest ih =>
      rw [List.forall_mem_cons] at slashes
      obtain ⟨rfl, slashes⟩ := slashes
      have first : List.splitOn '/' ('/' :: (rest ++ ['/'].intercalate (names.map String.toList))) =
          [] :: List.splitOn '/' (rest ++ ['/'].intercalate (names.map String.toList)) :=
        List.splitOn_append_cons_self [] _
      rw [List.cons_append, first, List.map_cons, List.filter_cons_of_neg (by simp)]
      exact ih slashes

theorem stepsJoined : steps path = names := by
  rw [steps, slashedJoined free slashes chars]
  refine if_neg fun ⟨slash, named⟩ => joinedEnd (freePieces free) ?_
  rwa [chars, List.getLast?_append_of_ne_nil _ (joinedFilled (freePieces free) (by simpa using named))] at slash

end Joined

end Text

section Absolute

variable {location : Location} (proper : ∀ name ∈ location, Proper name)
include proper

theorem properFree : ∀ name ∈ location, name ≠ "" ∧ '/' ∉ name.toList :=
  fun name listed => ⟨(proper name listed).filled, (proper name listed).slashless⟩

theorem absoluteZeroless : hasZero (absoluteText location) = false := by
  rw [hasZero, List.contains_eq_mem, decide_eq_false_iff_not, absoluteChars, List.mem_cons]
  rintro (slash | inside)
  · contradiction
  · rcases Text.joinedMember inside with slash | ⟨piece, listed, here⟩
    · exact absurd (List.mem_singleton.mp slash) (by decide)
    · obtain ⟨name, member, rfl⟩ := List.mem_map.mp listed
      exact (proper name member).zeroless here

theorem stepsAbsolute : steps (absoluteText location) = location :=
  stepsJoined (properFree proper) (by simp : ∀ c ∈ ['/'], c = '/') (absoluteChars location)

end Absolute

namespace World

variable {world : World}

theorem stepFolder {here : Location} {entries : List (String × Node)}
    (folder : world.top.find? here = some (.folder entries)) {name : String} (proper : Proper name) :
    world.step here name = if nameLimit < name.utf8ByteSize then .error .tooLong else .ok (here ++ [name]) := by
  have there : world.checkFolder here = .ok () := by rw [checkFolder, folder]
  have next : descend here name = here ++ [name] := if_neg proper.noParent
  rw [step, there, if_neg proper.noFolder, next]
  split <;> rfl

theorem stepElsewhere {here : Location} (other : ∀ entries, world.top.find? here ≠ some (.folder entries))
    (name : String) : ∃ fault, world.step here name = .error fault ∧ fault ≠ .tooLong := by
  rw [step, checkFolder]
  match found : world.top.find? here with
  | none => exact ⟨.notFound, rfl, by decide⟩
  | some (.file _) => exact ⟨.notFolder, rfl, by decide⟩
  | some (.folder entries) => exact absurd found (other entries)

theorem walkAppend (here : Location) (a b : List String) :
    world.walk here (a ++ b) = (world.walk here a).bind (world.walk · b) := List.foldlM_append

theorem walkCons (here : Location) (name : String) (rest : List String) :
    world.walk here (name :: rest) = (world.step here name).bind (world.walk · rest) := List.foldlM_cons

theorem nodeAbsolute {location : Location} (proper : ∀ name ∈ location, Proper name) :
    world.nodeAt (absoluteText location) =
      if pathLimit < (absoluteText location).utf8ByteSize then .error .tooLong
      else (world.walk [] location).bind fun here => match world.top.find? here with
        | some node => .ok node
        | none => .error .notFound := by
  have absolute : isAbsolute (absoluteText location) = true := by
    rw [isAbsolute, absoluteChars]
    rfl
  have filled : absoluteText location ≠ "" := by
    intro none
    have chars := absoluteChars location
    rw [none] at chars
    contradiction
  have fault : pathFault? (absoluteText location) =
      if pathLimit < (absoluteText location).utf8ByteSize then some .tooLong else none := by
    rw [pathFault?, absoluteZeroless proper, if_neg (by decide), if_neg filled]
  rw [nodeAt, fault, stepsAbsolute proper, start, absolute, if_pos rfl]
  by_cases long : pathLimit < (absoluteText location).utf8ByteSize
  · rw [if_pos long, if_pos long]
    rfl
  · rw [if_neg long, if_neg long]
    rfl

section Regular

variable (regular : world.top.Regular)
include regular

theorem walkFound {here names : Location} {node : Node} (found : world.top.find? (here ++ names) = some node) :
    world.walk here names = .ok (here ++ names) := by
  induction names generalizing here with
  | nil => rw [List.append_nil]; rfl
  | cons name rest ih =>
      obtain ⟨proper, short⟩ := (regular.found found).2 name (by simp)
      rw [Node.findAppend] at found
      obtain ⟨inner, there, below⟩ := Option.bind_eq_some_iff.mp found
      cases inner with
      | file bytes => contradiction
      | folder entries =>
          have further : world.top.find? ((here ++ [name]) ++ rest) = some node := by
            rw [List.append_assoc, Node.findAppend, there]
            exact below
          rw [walkCons, stepFolder there proper, if_neg (Nat.not_lt.mpr short), Except.bind, ih further,
            List.append_assoc, List.singleton_append]

theorem walkLong {here names : Location} (proper : ∀ name ∈ names, Proper name) :
    world.walk here names = .error .tooLong ↔ ∃ ahead name behind entries, names = ahead ++ name :: behind ∧
      world.top.find? (here ++ ahead) = some (.folder entries) ∧ nameLimit < name.utf8ByteSize := by
  constructor
  · intro failed
    induction names generalizing here with
    | nil => contradiction
    | cons name rest ih =>
        rw [List.forall_mem_cons] at proper
        rw [walkCons] at failed
        by_cases folder : ∃ entries, world.top.find? here = some (.folder entries)
        · obtain ⟨entries, there⟩ := folder
          rw [stepFolder there proper.1] at failed
          split at failed
          · rename_i long
            exact ⟨[], name, rest, entries, rfl, by rwa [List.append_nil], long⟩
          · obtain ⟨ahead, other, behind, entries, rfl, below, long⟩ := ih proper.2 failed
            refine ⟨name :: ahead, other, behind, entries, rfl, ?_, long⟩
            rwa [List.append_assoc, List.singleton_append] at below
        · obtain ⟨fault, stopped, other⟩ := stepElsewhere (fun entries h => folder ⟨entries, h⟩) name
          rw [stopped] at failed
          exact absurd (Except.error.inj failed) other
  · rintro ⟨ahead, name, behind, entries, rfl, there, long⟩
    rw [walkAppend, walkFound regular there, Except.bind, walkCons, stepFolder there (proper name (by simp)),
      if_pos long]
    rfl

theorem reachable {location : Location} {node : Node} (found : world.top.find? location = some node)
    (short : (absoluteText location).utf8ByteSize ≤ pathLimit) : ¬ world.Unreachable location := by
  rintro (long | ⟨ahead, name, behind, entries, rfl, -, long⟩)
  · exact Nat.not_le.mpr long short
  · exact Nat.not_le.mpr long ((regular.found found).2 name (by simp)).2

theorem nodeFound {location : Location} {node : Node} (found : world.top.find? location = some node)
    (short : (absoluteText location).utf8ByteSize ≤ pathLimit) : world.nodeAt (absoluteText location) = .ok node := by
  have proper : ∀ name ∈ location, Proper name := fun name member => ((regular.found found).2 name member).1
  rw [nodeAbsolute proper, if_neg (Nat.not_lt.mpr short), walkFound regular (by exact found), Except.bind,
    List.nil_append, found]

theorem nodeLong {location : Location} (proper : ∀ name ∈ location, Proper name) :
    world.nodeAt (absoluteText location) = .error .tooLong ↔ world.Unreachable location := by
  rw [nodeAbsolute proper, Unreachable]
  split
  · rename_i long
    exact iff_of_true rfl (.inl long)
  · rename_i short
    have way := @walkLong world regular [] location proper
    simp only [List.nil_append] at way
    rw [or_iff_right short, ← way]
    cases world.walk [] location with
    | error fault => simp [Except.bind]
    | ok here => cases found : world.top.find? here <;> simp [Except.bind, found]

end Regular

theorem namesSteps (path : String) : (steps path).filter (· != ".") = (Path.ofText path).names := by
  have names : ((slashed path).filter (· != "")).filter (· != ".") = (Path.ofText path).names := by
    simp only [List.filter_filter, Bool.and_comm]
    rfl
  rw [← names, steps]
  split
  · rw [List.filter_append]
    exact List.append_nil _
  · rfl

theorem namesPlain (path : String) : ∀ name ∈ (Path.ofText path).names, name ≠ "" ∧ name ≠ "." ∧ '/' ∉ name.toList := by
  intro name listed
  obtain ⟨piece, kept⟩ := List.mem_filter.mp listed
  obtain ⟨chars, apart, rfl⟩ := List.mem_map.mp piece
  rw [Bool.and_eq_true, bne_iff_ne, bne_iff_ne] at kept
  exact ⟨kept.1, kept.2, by rw [String.toList_ofList]; exact Text.splitFree '/' _ chars apart⟩

theorem expandPlain {path : String} {expanded : Path} (ok : world.expand (Path.ofText path) = .ok expanded) :
    ∀ name ∈ expanded.names, name ≠ "" ∧ name ≠ "." ∧ '/' ∉ name.toList := by
  unfold expand at ok
  split at ok
  · rename_i first rest _ names
    split at ok
    · split at ok
      · contradiction
      · split at ok
        · cases ok
          intro name listed
          rcases List.mem_append.mp listed with home | below
          · exact namesPlain _ name home
          · exact namesPlain path name (names ▸ List.mem_cons_of_mem first below)
        · contradiction
    · cases ok
      exact namesPlain path
  · cases ok
    exact namesPlain path

theorem descendProper {names : List String}
    (plain : ∀ name ∈ names, (name ≠ "" ∧ name ≠ "." ∧ '/' ∉ name.toList) ∧ '\x00' ∉ name.toList) {start : Location}
    (proper : ∀ name ∈ start, Proper name) : ∀ name ∈ names.foldl descend start, Proper name := by
  induction names generalizing start with
  | nil => exact proper
  | cons name rest ih =>
      rw [List.forall_mem_cons] at plain
      refine ih plain.2 ?_
      unfold descend
      split
      · exact fun other kept => proper other ((List.dropLast_sublist _).subset kept)
      · rename_i below
        rw [List.forall_mem_append]
        obtain ⟨⟨filled, noFolder, slashless⟩, zeroless⟩ := plain.1
        exact ⟨proper, by simpa using ⟨filled, noFolder, below, slashless, zeroless⟩⟩

theorem normalizeProper (regular : world.Regular) {path : String} {base : Location}
    (named : world.normalize path = .ok base) : ∀ name ∈ base, Proper name := by
  unfold normalize at named
  split at named
  · contradiction
  · rename_i expanded ok
    split at named
    · contradiction
    · rename_i zeroless
      cases named
      refine descendProper (fun name listed => ⟨expandPlain ok name listed, fun zero => zeroless ?_⟩) ?_
      · exact List.any_eq_true.mpr ⟨name, listed, List.contains_iff_mem.mpr zero⟩
      · split
        · exact regular.working
        · simp

theorem ofTextAbsolute {location : Location} (proper : ∀ name ∈ location, Proper name) :
    Path.ofText (absoluteText location) = ⟨"/", location⟩ := by
  have root : Path.rootOf (absoluteText location).toList = "/" := by
    have start := joinedStart (freePieces (properFree proper))
    rw [absoluteChars]
    cases joined : ['/'].intercalate (location.map String.toList) with
    | nil => rfl
    | cons c rest =>
        have other : c ≠ '/' := by simpa [joined] using start
        simp [Path.rootOf, other]
  have names : (Path.ofText (absoluteText location)).names = location := by
    rw [← namesSteps, stepsAbsolute proper, List.filter_eq_self]
    exact fun name listed => by simpa using (proper name listed).noFolder
  exact congrArg₂ Path.mk root names

theorem descendBelow {names : Location} (proper : ∀ name ∈ names, Proper name) (start : Location) :
    names.foldl descend start = start ++ names := by
  induction names generalizing start with
  | nil => simp
  | cons name rest ih =>
      rw [List.forall_mem_cons] at proper
      have here : descend start name = start ++ [name] := if_neg proper.1.noParent
      rw [List.foldl_cons, here, ih proper.2, List.append_assoc, List.singleton_append]

theorem normalizeAbsolute (world : World) {base : Location} (proper : ∀ name ∈ base, Proper name) :
    world.normalize (absoluteText base) = .ok base := by
  have zeroless : ¬ base.any hasZero = true := by
    rw [List.any_eq_true]
    rintro ⟨name, listed, zero⟩
    exact (proper name listed).zeroless (List.contains_iff_mem.mp zero)
  have expanded : world.expand ⟨"/", base⟩ = .ok ⟨"/", base⟩ := rfl
  rw [normalize, ofTextAbsolute proper, expanded]
  simp [zeroless, Path.location, descendBelow proper]

end World
end EmailMarkup.Files
