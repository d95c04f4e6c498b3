/-! A tree of files and folders as a value. A location is the list of names from the top of the tree. -/
namespace EmailMarkup.Files

inductive Node where
  | file (bytes : ByteArray)
  | folder (entries : List (String × Node))

abbrev Location := List String

namespace Node

def isFolder : Node → Bool
  | .folder _ => true
  | .file _ => false

def entries : Node → List (String × Node)
  | .folder entries => entries
  | .file _ => []

def find? (node : Node) : Location → Option Node
  | [] => some node
  | name :: rest => (node.entries.lookup name).bind (find? · rest)

def setEntry (entries : List (String × Node)) (name : String) (node : Node) : List (String × Node) :=
  match entries with
  | [] => [(name, node)]
  | (other, old) :: rest =>
      if other = name then (name, node) :: rest else (other, old) :: setEntry rest name node

def put (node : Node) (location : Location) (new : Node) : Node :=
  match location, node with
  | [], _ => new
  | _ :: _, .file bytes => .file bytes
  | name :: rest, .folder entries =>
      .folder (setEntry entries name (put ((entries.lookup name).getD (.folder [])) rest new))

mutual

def files (node : Node) (here : Location) : List (Location × ByteArray) :=
  match node with
  | .file bytes => [(here, bytes)]
  | .folder entries => filesOf entries here

def filesOf (entries : List (String × Node)) (here : Location) : List (Location × ByteArray) :=
  match entries with
  | [] => []
  | (name, node) :: rest => files node (here ++ [name]) ++ filesOf rest here

end

theorem lookupSetEntry (entries : List (String × Node)) (name : String) (node : Node) :
    (setEntry entries name node).lookup name = some node := by
  induction entries with
  | nil => simp [setEntry]
  | cons entry rest ih =>
      obtain ⟨other, old⟩ := entry
      unfold setEntry
      split
      · simp
      · rename_i different
        have apart : (name == other) = false := by simpa using Ne.symm different
        simp [List.lookup_cons, apart, ih]

end Node
end EmailMarkup.Files
