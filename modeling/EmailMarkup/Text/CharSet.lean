/-! Sets of characters given as ranges of code points, both ends included. -/
namespace EmailMarkup.Text

abbrev CharSet := List (Nat × Nat)

def CharSet.covers (ranges : CharSet) (c : Char) : Bool :=
  ranges.any fun range => range.1 ≤ c.toNat && c.toNat ≤ range.2

end EmailMarkup.Text
