import EmailMarkup.Text.Alphanumeric

/-! Word characters: alphanumeric characters of any script, and the low line. Tag and attribute names
are made of them, so no markup sign may be one. -/
namespace EmailMarkup.Text

def isWord (c : Char) : Bool :=
  if c.toNat < 0x80 then c.isAlphanum || c == '_' else alphanumeric.covers c

def word (s : List Char) : List Char × List Char :=
  (s.takeWhile isWord, s.dropWhile isWord)

theorem wordAppend (s : List Char) : (word s).1 ++ (word s).2 = s := by
  simp [word]

theorem wordChars {s : List Char} {c : Char} (h : c ∈ (word s).1) : isWord c = true := by
  have all := List.all_takeWhile (p := isWord) (l := s)
  exact List.all_eq_true.mp all c h

end EmailMarkup.Text
