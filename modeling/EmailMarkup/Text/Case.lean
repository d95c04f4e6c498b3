import EmailMarkup.Text.CaseTable

/-! Full case conversion. Lower case depends on the neighbours of a capital sigma: at the end of a word
it has a form of its own. Upper case may lengthen a text. -/
namespace EmailMarkup.Text

def CaseRun.image? (run : CaseRun) (c : Char) : Option Char :=
  if run.first ≤ c.toNat ∧ c.toNat ≤ run.last ∧ (c.toNat - run.first) % run.step = 0 then
    some (Char.ofNat (run.target + (c.toNat - run.first)))
  else none

def lowerChar (c : Char) : List Char :=
  if c.toNat < 0x80 then [c.toLower]
  else if c = '\u0130' then ['i', '\u0307']
  else [(lowerRuns.findSome? (·.image? c)).getD c]

def upperChar (c : Char) : List Char :=
  if c.toNat < 0x80 then [c.toUpper]
  else match upperExpansions.lookup c.toNat with
    | some codes => codes.map Char.ofNat
    | none => [(upperRuns.findSome? (·.image? c)).getD c]

/-- A sigma ends a word if a cased character stands before it and none after it, where
characters that case ignores do not count. -/
def endsWord (afterCased : Bool) (rest : List Char) : Bool :=
  afterCased && !((rest.dropWhile caseIgnorable.covers).head?.any cased.covers)

def lowerFrom (afterCased : Bool) : List Char → List Char
  | [] => []
  | c :: rest =>
      let here := if c = 'Σ' then [if endsWord afterCased rest then 'ς' else 'σ'] else lowerChar c
      here ++ lowerFrom (if caseIgnorable.covers c then afterCased else cased.covers c) rest

def lower (s : List Char) : List Char := lowerFrom false s

def upper (s : List Char) : List Char := s.flatMap upperChar

end EmailMarkup.Text
