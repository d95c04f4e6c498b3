import EmailMarkup.Component.Basic
import EmailMarkup.Markup.Place

/-! The gate in front of strict edits. It counts opening against closing tags, without pairing them up, and knows
the names of components. Self-closing tags are taken out before the opening tags are counted. -/
namespace EmailMarkup
open Markup (places opening? closing? named? selfClosing)

inductive Fault where
  | unbalanced
  | unknownTag (name : String)
  deriving DecidableEq, Repr

def Fault.message : Fault → String
  | .unbalanced => "Unbalanced tags detected"
  | .unknownTag name =>
      "Unknown component: " ++ name ++ ". Valid components: " ++ ", ".intercalate (Kind.tags.map (·.1))

namespace Gate

def openCount (s : List Char) : Nat := (places (opening? false) (selfClosing s).residue).length

def closeCount (s : List Char) : Nat := (places closing? s).length

def distinct (seen : List String) : List String → List String
  | [] => []
  | name :: rest => if name ∈ seen then distinct seen rest else name :: distinct (name :: seen) rest

def unknownTags (s : List Char) : List String :=
  distinct [] (((places named? s).map String.ofList).filter fun name => (Kind.ofTag? name).isNone)

def faults (source : String) : List Fault :=
  (if openCount source.toList = closeCount source.toList then [] else [.unbalanced]) ++
    (unknownTags source.toList).map .unknownTag

def admits (source : String) : Bool := (faults source).isEmpty

end Gate
end EmailMarkup
