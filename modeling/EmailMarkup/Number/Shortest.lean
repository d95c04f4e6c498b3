import EmailMarkup.Number.Binary64

/-! The text of a floating-point number: the fewest digits that read back as the number, of those the nearest,
laid out with or without an exponent. -/
namespace EmailMarkup.Number

structure Decimal where
  digits : Nat
  power : Int
  deriving DecidableEq, Repr

namespace Decimal

def trimWith : Nat → Nat → Int → Decimal
  | 0, digits, power => ⟨digits, power⟩
  | fuel + 1, digits, power =>
      if digits ≠ 0 ∧ digits % 10 = 0 then trimWith fuel (digits / 10) (power + 1) else ⟨digits, power⟩

def trim (digits : Nat) (power : Int) : Decimal := trimWith digits digits power

def leadingZeros : Nat → Nat → Nat → Nat
  | 0, _, _ => 0
  | fuel + 1, numerator, denominator =>
      if denominator ≤ 10 * numerator then 0 else leadingZeros fuel (10 * numerator) denominator + 1

def magnitude (numerator denominator : Nat) : Int :=
  if denominator ≤ numerator then Binary64.digitCount (numerator / denominator)
  else -(leadingZeros 400 numerator denominator : Int)

def neighbours (numerator denominator : Nat) (power : Int) : List Nat :=
  let (n, d) := if 0 ≤ power then (numerator, denominator * Nat.pow 10 power.toNat)
    else (numerator * Nat.pow 10 (-power).toNat, denominator)
  let below := n / d
  let nearest := Binary64.roundDiv n d
  [nearest, if nearest = below then below + 1 else below]

/-- Grids of 1, 2, … digits: the first neighbour that reads back. Seventeen digits always suffice. -/
def shortestWith (significand : Nat) (exponent : Int) (numerator denominator : Nat) (top : Int) :
    Nat → Int → Decimal
  | 0, _ => ⟨numerator / denominator, 0⟩
  | fuel + 1, count =>
      let power := top - count
      match (neighbours numerator denominator power).find?
          (fun digits => Binary64.ofDecimal false digits power == .finite false significand exponent) with
      | some digits => trim digits power
      | none => shortestWith significand exponent numerator denominator top fuel (count + 1)

def shortest (significand : Nat) (exponent : Int) : Decimal :=
  let (n, d) := Binary64.fraction significand exponent
  if n = 0 then ⟨0, 0⟩ else shortestWith significand exponent n d (magnitude n d) 17 1

end Decimal

structure NumberFormat where
  leastPositional : Int
  mostPositional : Int
  exponentDigits : Nat
  nan : String
  infinity : String
  deriving DecidableEq, Repr

namespace NumberFormat

def plain : NumberFormat := ⟨-4, 15, 2, "nan", "inf"⟩

def json : NumberFormat := { plain with nan := "NaN", infinity := "Infinity" }

def zeroes (n : Nat) : List Char := List.replicate n '0'

def positional (digits : List Char) (point : Int) : List Char :=
  if point ≤ 0 then ['0', '.'] ++ zeroes (-point).toNat ++ digits
  else if point < digits.length then digits.take point.toNat ++ '.' :: digits.drop point.toNat
  else digits ++ zeroes (point.toNat - digits.length) ++ ['.', '0']

def scientific (format : NumberFormat) (digits : List Char) (exponent : Int) : List Char :=
  let shown := Nat.toDigits 10 exponent.natAbs
  let mantissa := match digits with
    | first :: next :: rest => first :: '.' :: next :: rest
    | short => short
  mantissa ++ ['e', if exponent < 0 then '-' else '+'] ++ zeroes (format.exponentDigits - shown.length) ++ shown

def decimal (format : NumberFormat) (x : Decimal) : List Char :=
  let digits := Nat.toDigits 10 x.digits
  let point := (digits.length : Int) + x.power
  if format.leastPositional ≤ point - 1 ∧ point - 1 ≤ format.mostPositional then positional digits point
  else format.scientific digits (point - 1)

def write (format : NumberFormat) : Binary64 → String
  | .nan => format.nan
  | .infinity negative => if negative then "-" ++ format.infinity else format.infinity
  | .finite negative significand exponent =>
      let body := String.ofList (format.decimal (Decimal.shortest significand exponent))
      if negative then "-" ++ body else body

end NumberFormat
end EmailMarkup.Number
