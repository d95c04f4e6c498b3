import EmailMarkup.Text.Half
import EmailMarkup.Text.Printable

/-! Quoted text on one line of printable characters. Single quotes stand around it unless it holds one
and no double quote. -/
namespace EmailMarkup.Text

def hex (width n : Nat) : List Char :=
  let digits := Nat.toDigits 16 n
  List.replicate (width - digits.length) '0' ++ digits

def isPrintable (c : Char) : Bool :=
  if c.toNat < 0x80 then 0x20 ≤ c.toNat && c.toNat < 0x7f else printable.covers c

def escaped (n : Nat) : List Char :=
  if n ≤ 0xff then ['\\', 'x'] ++ hex 2 n
  else if n ≤ 0xffff then ['\\', 'u'] ++ hex 4 n
  else ['\\', 'U'] ++ hex 8 n

def shown (halves : Halves) (mark c : Char) : List Char :=
  if c = mark ∨ c = '\\' then ['\\', c]
  else if c = '\n' then ['\\', 'n']
  else if c = '\r' then ['\\', 'r']
  else if c = '\t' then ['\\', 't']
  else if isPrintable c then [c]
  else escaped ((halves.half? c).getD c.toNat)

def quoteMark (s : List Char) : Char := if '\'' ∈ s ∧ '"' ∉ s then '"' else '\''

def quotedChars (halves : Halves) (s : List Char) : List Char :=
  quoteMark s :: (s.flatMap (shown halves (quoteMark s)) ++ [quoteMark s])

def quotedIn (halves : Halves) (s : String) : String := String.ofList (quotedChars halves s.toList)

def quoted (s : String) : String := quotedIn .absent s

end EmailMarkup.Text
