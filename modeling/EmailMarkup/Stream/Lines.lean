import EmailMarkup.Markup.Place
import EmailMarkup.Text.Lines
import EmailMarkup.Text.Search

/-! Which lines of an unfinished markup text are kept. A line is judged by itself for its role; the open tags then
decide whether it stays. A closing line closes the innermost tag or is dropped. -/
namespace EmailMarkup.Stream
open Markup (places selfClosing? opening? closing? closingTag)
open Text (strip occurs)

def openingHere? (s : List Char) : Option (List Char × List Char) := (opening? true s).map (·, s)

def closingHere? (s : List Char) : Option (List Char) := (closing? s).map (·.1)

inductive Role where
  | whole
  | opens (name : List Char)
  | closes (name : List Char)
  | content
  deriving DecidableEq, Repr

/-- The role of a line without the blanks at its ends. A line that opens a tag and closes it too is whole. -/
def roleOf (line : List Char) : Role :=
  if !(places selfClosing? line).isEmpty then .whole
  else
    let opener := if "</".toList.isPrefixOf line then none else (places openingHere? line).head?
    match opener with
    | some (name, here) => if occurs (closingTag name) here then .whole else .opens name
    | none =>
        match (places closingHere? line).head? with
        | some name => .closes name
        | none => .content

def role (line : List Char) : Role := roleOf (strip line)

/-- The open tags, innermost first, and the lines kept so far, the latest first. -/
structure Kept where
  stack : List (List Char)
  latest : List (List Char)
  deriving DecidableEq, Repr

namespace Kept

def empty : Kept := ⟨[], []⟩

def keep (kept : Kept) (line : List Char) : Kept := { kept with latest := line :: kept.latest }

def step (kept : Kept) (line : List Char) : Kept :=
  match role line with
  | .whole => kept.keep line
  | .opens name => { kept.keep line with stack := name :: kept.stack }
  | .closes name =>
      match kept.stack with
      | top :: outer => if top = name then { kept.keep line with stack := outer } else kept
      | [] => kept
  | .content => if kept.stack.isEmpty then kept else kept.keep line

def run (kept : Kept) (lines : List (List Char)) : Kept := lines.foldl step kept

def lines (kept : Kept) : List (List Char) := kept.latest.reverse

def openTags (kept : Kept) : List (List Char) := kept.stack.reverse

def text (kept : Kept) : List Char := strip (kept.lines.flatMap (· ++ ['\n']))

theorem runAppend (kept : Kept) (a b : List (List Char)) : kept.run (a ++ b) = (kept.run a).run b := by
  simp [run]

end Kept
end EmailMarkup.Stream
