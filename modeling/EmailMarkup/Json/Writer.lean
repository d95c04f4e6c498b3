import EmailMarkup.Json.Basic
import EmailMarkup.Number.Shortest
import EmailMarkup.Text.Half
import EmailMarkup.Text.Quoted

/-! JSON text in ASCII, on one line or indented by two spaces. -/
namespace EmailMarkup.Json
open Number (NumberFormat)

def unit (n : Nat) : List Char := ['\\', 'u'] ++ Text.hex 4 n

def escapeChar (c : Char) : List Char :=
  if c = '"' ∨ c = '\\' then ['\\', c]
  else if c = '\n' then ['\\', 'n']
  else if c = '\r' then ['\\', 'r']
  else if c = '\t' then ['\\', 't']
  else if c = '\x08' then ['\\', 'b']
  else if c = '\x0c' then ['\\', 'f']
  else if 0x20 ≤ c.toNat ∧ c.toNat < 0x7f then [c]
  else if c.toNat ≤ 0xffff then unit c.toNat
  else unit (0xd800 + (c.toNat - 0x10000) / 0x400) ++ unit (0xdc00 + (c.toNat - 0x10000) % 0x400)

def escapeIn (halves : Text.Halves) (c : Char) : List Char :=
  match halves.half? c with
  | some half => unit half
  | none => escapeChar c

def writeString (escape : Char → List Char) (s : String) : String :=
  String.ofList ('"' :: (s.toList.flatMap escape ++ ['"']))

def writeAtom (escape : Char → List Char) : Json → String
  | .null => "null"
  | .bool b => if b then "true" else "false"
  | .int n => toString n
  | .float x => NumberFormat.json.write x
  | .str s => writeString escape s
  | .list _ => "[]"
  | .object _ => "\x7b\x7d"

def compactIn (halves : Text.Halves) : Json → String
  | .list items => "[" ++ ",".intercalate (compactItems items) ++ "]"
  | .object members => "\x7b" ++ ",".intercalate (compactMembers members) ++ "\x7d"
  | value => writeAtom (escapeIn halves) value
where
  compactItems : List Json → List String
    | [] => []
    | item :: rest => compactIn halves item :: compactItems rest
  compactMembers : List (String × Json) → List String
    | [] => []
    | (key, value) :: rest =>
        (writeString (escapeIn halves) key ++ ":" ++ compactIn halves value) :: compactMembers rest

def compact (value : Json) : String := value.compactIn .absent

def margin (depth : Nat) : String := String.ofList ('\n' :: List.replicate (2 * depth) ' ')

def block (depth : Nat) (opener closer : String) (lines : List String) : String :=
  if lines.isEmpty then opener ++ closer
  else opener ++ margin (depth + 1) ++ ("," ++ margin (depth + 1)).intercalate lines ++ margin depth ++ closer

def indented (depth : Nat) : Json → String
  | .list items => block depth "[" "]" (indentedItems (depth + 1) items)
  | .object members => block depth "\x7b" "\x7d" (indentedMembers (depth + 1) members)
  | value => writeAtom escapeChar value
where
  indentedItems (depth : Nat) : List Json → List String
    | [] => []
    | item :: rest => indented depth item :: indentedItems depth rest
  indentedMembers (depth : Nat) : List (String × Json) → List String
    | [] => []
    | (key, value) :: rest =>
        (writeString escapeChar key ++ ": " ++ indented depth value) :: indentedMembers depth rest

end EmailMarkup.Json
