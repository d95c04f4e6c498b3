import EmailMarkup.Text.DigitTable

/-! Decimal digits of every script. -/
namespace EmailMarkup.Text

def digitValue? (c : Char) : Option Nat :=
  (zeros.find? fun start => start ≤ c.toNat && c.toNat ≤ start + 9).map (c.toNat - ·)

end EmailMarkup.Text
