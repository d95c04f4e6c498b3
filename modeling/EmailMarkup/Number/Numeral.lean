import EmailMarkup.Text.Blank
import EmailMarkup.Text.Digit

/-! Whole numbers written in decimal digits of any script: blanks around, one sign, and single low
lines between digits. More than 4300 digits are refused, leading zeros counted. -/
namespace EmailMarkup.Number
open Text (isBlank digitValue?)

inductive NumeralError where
  | malformed
  | tooManyDigits (count : Nat)
  deriving DecidableEq, Repr

namespace Numeral

def digitLimit : Nat := 4300

def isSpace (c : Char) : Bool := c == ' ' || (0x9 ≤ c.toNat && c.toNat ≤ 0xd)

def plain (c : Char) : Char :=
  if c.toNat < 0x7f then c
  else if isBlank c then ' '
  else match digitValue? c with
    | some n => Char.ofNat (0x30 + n)
    | none => '?'

def value (digits : List Char) : Nat :=
  digits.foldl (fun n c => 10 * n + (c.toNat - 0x30)) 0

def sign : List Char → Bool × List Char
  | '-' :: rest => (true, rest)
  | '+' :: rest => (false, rest)
  | rest => (false, rest)

def readPlain (s : List Char) : Except NumeralError Int :=
  let (negative, body) := sign (s.dropWhile isSpace)
  let inRun := fun c : Char => c.isDigit || c == '_'
  let groups := (body.takeWhile inRun).splitOn '_'
  let digits := groups.flatten
  if [] ∈ groups then .error .malformed
  else if digitLimit < digits.length then .error (.tooManyDigits digits.length)
  else if ((body.dropWhile inRun).dropWhile isSpace).isEmpty then
    .ok (if negative then -(value digits : Int) else value digits)
  else .error .malformed

/-- The separators U+001C to U+001F are blanks that no numeral may hold, and a text all in ASCII is read as
it stands. -/
def read (s : String) : Except NumeralError Int :=
  if s.toList.all (·.toNat < 0x80) then readPlain s.toList else readPlain (s.toList.map plain)

end Numeral
end EmailMarkup.Number
