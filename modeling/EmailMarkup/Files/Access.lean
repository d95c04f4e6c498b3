import EmailMarkup.Files.Path
import EmailMarkup.Text.Quoted

/-! Reading and writing files of a tree. Every step of a path but the last must be a folder that is there, also a
step that is taken back. Writing makes the folders that are missing. Names and paths are of limited length, counted
in bytes, and hold no zero. -/
namespace EmailMarkup.Files

inductive Fault where
  | notFound
  | notFolder
  | isFolder
  | exists
  | tooLong
  | zeroByte
  | noHome
  | tooDeep
  deriving DecidableEq, Repr

structure FileError where
  fault : Fault
  path : String
  deriving DecidableEq, Repr

def FileError.message (error : FileError) : String :=
  let named := fun text => text ++ ": " ++ Text.quoted error.path
  match error.fault with
  | .notFound => named "[Errno 2] No such file or directory"
  | .notFolder => named "[Errno 20] Not a directory"
  | .isFolder => named "[Errno 21] Is a directory"
  | .exists => named "[Errno 17] File exists"
  | .tooLong => named "[Errno 36] File name too long"
  | .zeroByte => "embedded null byte"
  | .noHome => "Could not determine home directory."
  | .tooDeep => "maximum recursion depth exceeded" ++ if error.path = "" then "" else " while calling a Python object"

structure World where
  top : Node
  working : Location
  homes : List (String × String) := []

def nameLimit : Nat := 255

def pathLimit : Nat := 4095

def hasZero (text : String) : Bool := text.toList.contains '\x00'

def pathFault? (path : String) : Option Fault :=
  if hasZero path then some .zeroByte
  else if path = "" then some .notFound
  else if pathLimit < path.utf8ByteSize then some .tooLong
  else none

/-- The interpreter lets a thousand calls be open inside each other. This is how many folders are made in one another
with what the program has left of them, as measured with one version of it; another leaves another number. -/
def foldersAtOnce : Nat := 991

/-- How many folders inside each other are walked with what is left, in the same version. A caller with fewer calls open
gets further. -/
def foldersInside : Nat := 995

namespace World

def start (world : World) (path : String) : Location := if isAbsolute path then [] else world.working

def checkFolder (world : World) (location : Location) : Except Fault Unit :=
  match world.top.find? location with
  | none => .error .notFound
  | some (.file _) => .error .notFolder
  | some (.folder _) => .ok ()

def step (world : World) (location : Location) (name : String) : Except Fault Location := do
  world.checkFolder location
  if nameLimit < name.utf8ByteSize then throw .tooLong
  return if name = "." then location else descend location name

def walk (world : World) (location : Location) (names : List String) : Except Fault Location :=
  names.foldlM world.step location

def nodeAt (world : World) (path : String) : Except Fault Node := do
  if let some fault := pathFault? path then throw fault
  let location ← world.walk (world.start path) (steps path)
  match world.top.find? location with
  | some node => return node
  | none => throw .notFound

def readBytes (world : World) (path : String) : Except Fault ByteArray := do
  match ← world.nodeAt path with
  | .file bytes => return bytes
  | .folder _ => throw .isFolder

def isFolder (world : World) (path : String) : Bool :=
  match world.nodeAt path with
  | .ok node => node.isFolder
  | .error _ => false

def place (world : World) (path : Path) : Except Fault (Location × Option String) := do
  if let some fault := pathFault? path.text then throw fault
  let folder ← world.walk (world.start path.text) path.names.dropLast
  world.checkFolder folder
  if nameLimit < path.name.utf8ByteSize then throw .tooLong
  return (folder, path.names.getLast?.filter (· != ".."))

def put (world : World) (location : Location) (node : Node) : World :=
  { world with top := world.top.put location node }

def makeFolder (world : World) (path : Path) : Except Fault World := do
  match ← world.place path with
  | (_, none) => throw .exists
  | (folder, some name) =>
      if (world.top.find? (folder ++ [name])).isSome then throw .exists
      return world.put (folder ++ [name]) (.folder [])

/-- A tree after an attempt, and what the attempt came to. Folders made on the way stay, whatever comes of it. -/
structure Attempt where
  world : World
  failure : Option FileError

def attempt (world : World) (path : Path) : Attempt :=
  match world.makeFolder path with
  | .ok made => ⟨made, none⟩
  | .error fault => if world.isFolder path.text then ⟨world, none⟩ else ⟨world, some ⟨fault, path.text⟩⟩

def ensureWith : Nat → World → Path → Attempt
  | 0, world, path => ⟨world, some ⟨.tooDeep, path.text⟩⟩
  | fuel + 1, world, path =>
      if world.makeFolder path matches .error .notFound then
        if path.names.isEmpty then ⟨world, some ⟨.notFound, path.text⟩⟩
        else
          let parents := ensureWith fuel world path.parent
          if parents.failure.isSome then parents else parents.world.attempt path
      else world.attempt path

def ensure (world : World) (path : Path) : Attempt := ensureWith foldersAtOnce world path

def writeBytes (world : World) (path : Path) (bytes : ByteArray) : Attempt :=
  match world.place path with
  | .error fault => ⟨world, some ⟨fault, path.text⟩⟩
  | .ok (_, none) => ⟨world, some ⟨.isFolder, path.text⟩⟩
  | .ok (folder, some name) =>
      match world.top.find? (folder ++ [name]) with
      | some (.folder _) => ⟨world, some ⟨.isFolder, path.text⟩⟩
      | _ => ⟨world.put (folder ++ [name]) (.file bytes), none⟩

end World
end EmailMarkup.Files
