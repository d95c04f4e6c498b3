/-! Floating-point numbers of 64 bits as exact values: a finite one is a significand below 2 ^ 53 times a
power of two, with the least exponent -1074. -/
namespace EmailMarkup.Number

inductive Binary64 where
  | nan
  | infinity (negative : Bool)
  | finite (negative : Bool) (significand : Nat) (exponent : Int)
  deriving DecidableEq, Repr

namespace Binary64

def roundDiv (numerator denominator : Nat) : Nat :=
  let quotient := numerator / denominator
  let twice := 2 * (numerator % denominator)
  if denominator < twice ∨ (twice = denominator ∧ quotient % 2 = 1) then quotient + 1 else quotient

def significandBound : Nat := 0x20000000000000

def scaleDown (numerator denominator : Nat) (power : Int) : Nat × Nat :=
  if 0 ≤ power then (numerator, denominator * Nat.pow 2 power.toNat)
  else (numerator * Nat.pow 2 (-power).toNat, denominator)

def exponentFor (numerator denominator : Nat) : Int :=
  let guess := max ((numerator.log2 : Int) - denominator.log2 - 53) (-1074)
  let (n, d) := scaleDown numerator denominator guess
  if significandBound ≤ n / d then guess + 1 else guess

def ofFraction (negative : Bool) (numerator denominator : Nat) : Binary64 :=
  if numerator = 0 then .finite negative 0 (-1074)
  else
    let exponent := exponentFor numerator denominator
    let (n, d) := scaleDown numerator denominator exponent
    let significand := roundDiv n d
    let (significand, exponent) :=
      if significand = significandBound then (significandBound / 2, exponent + 1) else (significand, exponent)
    if 971 < exponent then .infinity negative else .finite negative significand exponent

def digitCount (n : Nat) : Nat := (Nat.toDigits 10 n).length

/-- The number nearest to digits times a power of ten. Beyond 10 ^ 310 it is infinite and below 10 ^ -330 zero,
so no power outside these bounds is computed. -/
def ofDecimal (negative : Bool) (digits : Nat) (power : Int) : Binary64 :=
  let magnitude := (digitCount digits : Int) + power
  if digits = 0 ∨ magnitude < -330 then .finite negative 0 (-1074)
  else if 310 < magnitude then .infinity negative
  else if 0 ≤ power then ofFraction negative (digits * Nat.pow 10 power.toNat) 1
  else ofFraction negative digits (Nat.pow 10 (-power).toNat)

def fraction (significand : Nat) (exponent : Int) : Nat × Nat :=
  scaleDown significand 1 (-exponent)

def signed (negative : Bool) (n : Nat) : Int := if negative then -(n : Int) else n

def truncate (negative : Bool) (significand : Nat) (exponent : Int) : Int :=
  let (n, d) := fraction significand exponent
  signed negative (n / d)

def equalsInt (x : Binary64) (n : Int) : Bool :=
  match x with
  | .finite negative significand exponent =>
      let (top, bottom) := fraction significand exponent
      signed negative top == n * bottom
  | _ => false

def equals : Binary64 → Binary64 → Bool
  | .infinity a, .infinity b => a == b
  | .finite a m p, .finite b n q => (m == 0 && n == 0) || (a == b && m == n && p == q)
  | _, _ => false

def isZero : Binary64 → Bool
  | .finite _ significand _ => significand == 0
  | _ => false

end Binary64
end EmailMarkup.Number
