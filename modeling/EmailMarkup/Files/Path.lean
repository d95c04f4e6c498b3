import EmailMarkup.Files.Tree

/-! Paths as texts: names between slashes. A path that starts with a slash leads from the top of the tree, any other
from the working folder. -/
namespace EmailMarkup.Files

def isAbsolute (path : String) : Bool := path.toList.head? == some '/'

def slashed (path : String) : List String := (path.toList.splitOn '/').map String.ofList

def steps (path : String) : List String :=
  let names := (slashed path).filter (· != "")
  if path.toList.getLast? = some '/' ∧ names ≠ [] then names ++ ["."] else names

structure Path where
  root : String
  names : List String
  deriving DecidableEq, Repr

namespace Path

/-- The slashes in front of a path: one stands for any number but two. -/
def rootOf : List Char → String
  | '/' :: '/' :: '/' :: _ => "/"
  | '/' :: '/' :: _ => "//"
  | '/' :: _ => "/"
  | _ => ""

def ofText (path : String) : Path :=
  ⟨rootOf path.toList, (slashed path).filter fun name => name != "" && name != "."⟩

def text (path : Path) : String :=
  if path.root = "" ∧ path.names = [] then "." else path.root ++ "/".intercalate path.names

def parent (path : Path) : Path := { path with names := path.names.dropLast }

def name (path : Path) : String := path.names.getLast?.getD ""

end Path

def isHidden (name : String) : Bool := name.toList.head? == some '.'

def descend (location : Location) (name : String) : Location :=
  if name = ".." then location.dropLast else location ++ [name]

def Path.location (working : Location) (path : Path) : Location :=
  path.names.foldl descend (if path.root = "" then working else [])

def absoluteText (location : Location) : String := "/" ++ "/".intercalate location

end EmailMarkup.Files
