import EmailMarkup.Json.Basic
import EmailMarkup.Number.Numeral
import EmailMarkup.Text.Half

/-! Reading JSON text. Beyond the standard it skips one leading byte order mark and knows the numbers NaN, Infinity
and -Infinity. Of two members with one name the last value stands in the first place. Control characters
inside strings are refused, and so are whole numbers of more than 4300 digits. -/
namespace EmailMarkup.Json
open Number (Binary64 Numeral.value Numeral.digitLimit)
open Text (Halves charOfPair?)

def isSpace (c : Char) : Bool := c == ' ' || c == '\t' || c == '\n' || c == '\r'

def skipSpace (s : List Char) : List Char := s.dropWhile isSpace

def hexValue? (c : Char) : Option Nat :=
  if c.isDigit then some (c.toNat - 0x30)
  else if 'a' ≤ c ∧ c ≤ 'f' then some (c.toNat - 0x57)
  else if 'A' ≤ c ∧ c ≤ 'F' then some (c.toNat - 0x37)
  else none

def unit? (a b c d : Char) : Option Nat := do
  return 0x1000 * (← hexValue? a) + 0x100 * (← hexValue? b) + 0x10 * (← hexValue? c) + (← hexValue? d)

def shortEscape? : Char → Option Char
  | '"' => some '"'
  | '\\' => some '\\'
  | '/' => some '/'
  | 'b' => some '\x08'
  | 'f' => some '\x0c'
  | 'n' => some '\n'
  | 'r' => some '\r'
  | 't' => some '\t'
  | _ => none

def pair? : List Char → Option Char
  | '\\' :: 'u' :: a :: b :: c :: d :: '\\' :: 'u' :: e :: f :: g :: h :: _ => do
      charOfPair? (← unit? a b c d) (← unit? e f g h)
  | _ => none

section Reading

variable (halves : Halves)

def stringBody : List Char → Option (List Char × List Char)
  | [] => none
  | '"' :: rest => some ([], rest)
  | '\\' :: 'u' :: a :: b :: c :: d :: '\\' :: 'u' :: e :: f :: g :: h :: rest => do
      let high ← unit? a b c d
      match (unit? e f g h).bind (charOfPair? high) with
      | some one => (stringBody rest).map fun (body, after) => (one :: body, after)
      | none =>
          (stringBody ('\\' :: 'u' :: e :: f :: g :: h :: rest)).map fun (body, after) =>
            (halves.char high :: body, after)
  | '\\' :: 'u' :: a :: b :: c :: d :: rest => do
      let code ← unit? a b c d
      (stringBody rest).map fun (body, after) => (halves.char code :: body, after)
  | '\\' :: c :: rest => do
      let one ← shortEscape? c
      (stringBody rest).map fun (body, after) => (one :: body, after)
  | c :: rest =>
      if c.toNat < 0x20 ∨ c = '\\' then none
      else (stringBody rest).map fun (body, after) => (c :: body, after)

def fractionPart : List Char → Option (List Char × List Char)
  | '.' :: rest =>
      let digits := rest.takeWhile Char.isDigit
      if digits.isEmpty then none else some (digits, rest.dropWhile Char.isDigit)
  | _ => none

def exponentPart : List Char → Option (Int × List Char)
  | c :: rest =>
      if c = 'e' ∨ c = 'E' then
        let (negative, body) := Number.Numeral.sign rest
        let digits := body.takeWhile Char.isDigit
        if digits.isEmpty then none
        else some (Binary64.signed negative (Numeral.value digits), body.dropWhile Char.isDigit)
      else none
  | [] => none

def unsigned (negative : Bool) (s : List Char) : Option (Json × List Char) :=
  let run := s.takeWhile Char.isDigit
  let whole := if run.head? = some '0' then ['0'] else run
  let rest := s.drop whole.length
  let fraction := fractionPart rest
  let afterFraction := (fraction.map (·.2)).getD rest
  let exponent := exponentPart afterFraction
  let after := (exponent.map (·.2)).getD afterFraction
  if whole.isEmpty then none
  else if fraction.isNone ∧ exponent.isNone then
    if Numeral.digitLimit < whole.length then none
    else some (.int (Binary64.signed negative (Numeral.value whole)), after)
  else
    let places := (fraction.map (·.1)).getD []
    let power := (exponent.map (·.1)).getD 0 - places.length
    some (.float (Binary64.ofDecimal negative (Numeral.value (whole ++ places)) power), after)

def after? (word s : List Char) : Option (List Char) :=
  if word.isPrefixOf s then some (s.drop word.length) else none

def keywords : List (String × Json) :=
  [("null", .null), ("true", .bool true), ("false", .bool false), ("NaN", .float .nan),
    ("Infinity", .float (.infinity false)), ("-Infinity", .float (.infinity true))]

def scalar (s : List Char) : Option (Json × List Char) :=
  match keywords.findSome? fun (word, value) => (after? word.toList s).map (value, ·) with
  | some found => some found
  | none =>
      match s with
      | '"' :: rest => (stringBody halves rest).map fun (body, after) => (.str (String.ofList body), after)
      | '-' :: rest => unsigned true rest
      | _ => unsigned false s

inductive ReadError where
  | malformed
  | deepList
  | deepObject
  deriving DecidableEq, Repr

abbrev Read (α : Type) := Except ReadError α

def orMalformed {α : Type} : Option α → Read α
  | some found => .ok found
  | none => .error .malformed

mutual

/-- A value at the start of a text, with as many levels of lists and objects as are left. A list takes a step for its
bracket and one for its first item, and nothing takes more than two for a character. -/
def value (levels : Nat) : Nat → List Char → Read (Json × List Char)
  | 0, _ => .error .malformed
  | fuel + 1, '[' :: rest =>
      match levels, skipSpace rest with
      | 0, _ => .error .deepList
      | _ + 1, ']' :: after => .ok (.list [], after)
      | levels + 1, inner => items levels fuel [] inner
  | fuel + 1, '{' :: rest =>
      match levels, skipSpace rest with
      | 0, _ => .error .deepObject
      | _ + 1, '}' :: after => .ok (.object [], after)
      | levels + 1, inner => members levels fuel [] inner
  | _ + 1, s => orMalformed (scalar halves s)

def items (levels : Nat) : Nat → List Json → List Char → Read (Json × List Char)
  | 0, _, _ => .error .malformed
  | fuel + 1, seen, s => do
      let (item, rest) ← value levels fuel s
      match skipSpace rest with
      | ',' :: more => items levels fuel (item :: seen) (skipSpace more)
      | ']' :: after => .ok (.list (item :: seen).reverse, after)
      | _ => .error .malformed

def members (levels : Nat) : Nat → List (String × Json) → List Char → Read (Json × List Char)
  | 0, _, _ => .error .malformed
  | fuel + 1, seen, '"' :: s => do
      let (name, rest) ← orMalformed (stringBody halves s)
      match skipSpace rest with
      | ':' :: tail =>
          let (item, rest) ← value levels fuel (skipSpace tail)
          let seen := insert seen (String.ofList name) item
          match skipSpace rest with
          | ',' :: more => members levels fuel seen (skipSpace more)
          | '}' :: after => .ok (.object seen, after)
          | _ => .error .malformed
      | _ => .error .malformed
  | _ + 1, _, _ => .error .malformed

end

def withoutMark : List Char → List Char
  | '\ufeff' :: rest => rest
  | s => s

def readWithin (levels : Nat) (text : List Char) : Read Json := do
  let s := skipSpace text
  let (found, rest) ← value halves levels (2 * s.length + 1) s
  if (skipSpace rest).isEmpty then .ok found else .error .malformed

end Reading

def read? (text : String) : Option Json :=
  (readWithin .absent text.length (withoutMark text.toList)).toOption

end EmailMarkup.Json
