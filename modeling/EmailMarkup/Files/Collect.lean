import EmailMarkup.Files.Access
import EmailMarkup.Text.Case

/-! The template files below a folder. Hidden entries are passed over with all that is in them, and so are folders with
paths that are too long to be opened. The files are ordered by their locations, name by name. -/
namespace EmailMarkup.Files

def extensions : List String := [".jsx", ".tsx"]

def isTemplate (name : String) : Bool :=
  extensions.any fun ending => ending.toList.isSuffixOf (Text.lower name.toList)

mutual

/-- The files below a folder, unless a folder on the way there is one too many levels down. -/
def templates (levels : Nat) (node : Node) (here : Location) : Option (List Location) :=
  match levels, node with
  | _, .file _ => some []
  | 0, .folder _ => none
  | levels + 1, .folder entries =>
      if pathLimit < (absoluteText here).utf8ByteSize then some [] else templatesOf levels entries here

def templatesOf (levels : Nat) (entries : List (String × Node)) (here : Location) : Option (List Location) :=
  match entries with
  | [] => some []
  | (name, node) :: rest => do
      let first ←
        if isHidden name then some []
        else if !node.isFolder && isTemplate name then some [here ++ [name]]
        else templates levels node (here ++ [name])
      let others ← templatesOf levels rest here
      return first ++ others

end

def nameBefore (a b : String) : Bool := a.toList.lex b.toList fun x y => x.toNat < y.toNat

def before (a b : Location) : Bool := !b.lex a nameBefore

def collect (levels : Nat) (top : Node) (base : Location) : Option (List Location) :=
  match top.find? base with
  | none => some []
  | some (.file _) => some [base]
  | some node => (templates levels node base).map (·.mergeSort before)

namespace World

def expand (world : World) (path : Path) : Except Fault Path :=
  match path.root, path.names with
  | "", first :: rest =>
      match first.toList with
      | '~' :: user =>
          if hasZero first then .error .zeroByte
          else match world.homes.lookup (String.ofList user) with
            | some home => .ok { Path.ofText home with names := (Path.ofText home).names ++ rest }
            | none => .error .noHome
      | _ => .ok path
  | _, _ => .ok path

def normalize (world : World) (path : String) : Except FileError Location :=
  match world.expand (Path.ofText path) with
  | .error fault => .error ⟨fault, path⟩
  | .ok expanded =>
      if expanded.names.any hasZero then .error ⟨.zeroByte, path⟩
      else .ok (expanded.location world.working)

/-- A name that is too long is a fault, other than one that is missing. -/
def collect (world : World) (path : String) (levels : Nat := foldersInside) : Except FileError (List Location) := do
  let base ← world.normalize path
  match world.nodeAt (absoluteText base) with
  | .error .tooLong => throw ⟨.tooLong, absoluteText base⟩
  | _ => match Files.collect levels world.top base with
      | some files => return files
      | none => throw ⟨.tooDeep, ""⟩

end World

end EmailMarkup.Files
