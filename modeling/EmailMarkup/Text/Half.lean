/-! Halves of surrogate pairs. A half that stands alone is no character, and yet texts in units of sixteen bits can
hold one. Where a text may do so, characters that it does not hold are set aside to stand for halves, so that it stays
a list of characters. -/
namespace EmailMarkup.Text

def isHigh (unit : Nat) : Bool := 0xd800 ≤ unit && unit ≤ 0xdbff

def isLow (unit : Nat) : Bool := 0xdc00 ≤ unit && unit ≤ 0xdfff

def isHalf (unit : Nat) : Bool := isHigh unit || isLow unit

def charOfPair? (high low : Nat) : Option Char :=
  if isHigh high && isLow low then some (Char.ofNat (0x10000 + (high - 0xd800) * 0x400 + (low - 0xdc00)))
  else none

/-- What stands for halves: nothing, or one of the 64 areas that the private planes have room for. -/
inductive Halves where
  | absent
  | area (index : Fin 64)
  deriving DecidableEq, Repr

namespace Halves

def start (index : Fin 64) : Nat := 0xf0000 + 0x800 * index.val

def half? (halves : Halves) (c : Char) : Option Nat :=
  match halves with
  | .absent => none
  | .area index =>
      if start index ≤ c.toNat ∧ c.toNat < start index + 0x800 then some (c.toNat - start index + 0xd800)
      else none

def char (halves : Halves) (unit : Nat) : Char :=
  if isHalf unit then
    match halves with
    | .absent => '\ufffd'
    | .area index => Char.ofNat (start index + (unit - 0xd800))
  else Char.ofNat unit

def chars (halves : Halves) : List Nat → List Char
  | high :: low :: rest =>
      match charOfPair? high low with
      | some c => c :: chars halves rest
      | none => halves.char high :: chars halves (low :: rest)
  | [unit] => [halves.char unit]
  | [] => []

def apartFrom (s : List Char) : Halves :=
  match (List.finRange 64).find? fun index => s.all fun c => ((area index).half? c).isNone with
  | some index => .area index
  | none => .absent

end Halves
end EmailMarkup.Text
