import EmailMarkup.Json.Basic
import EmailMarkup.Number.Shortest
import EmailMarkup.Text.Quoted

/-! The text of a JSON value as messages and text fields show it. A text standing alone is shown as it is;
inside a list or an object it is quoted. -/
namespace EmailMarkup.Json
open Number (NumberFormat)

def commaList (pieces : List String) : String := ", ".intercalate pieces

def shown (halves : Text.Halves) : Json → String
  | .null => "None"
  | .bool b => if b then "True" else "False"
  | .int n => toString n
  | .float x => NumberFormat.plain.write x
  | .str s => Text.quotedIn halves s
  | .list items => "[" ++ commaList (shownItems items) ++ "]"
  | .object members => "\x7b" ++ commaList (shownMembers members) ++ "\x7d"
where
  shownItems : List Json → List String
    | [] => []
    | item :: rest => shown halves item :: shownItems rest
  shownMembers : List (String × Json) → List String
    | [] => []
    | (key, value) :: rest => (Text.quotedIn halves key ++ ": " ++ shown halves value) :: shownMembers rest

def text (halves : Text.Halves) : Json → String
  | .str s => s
  | value => value.shown halves

end EmailMarkup.Json
