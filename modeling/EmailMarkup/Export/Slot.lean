/-! Documents with slots: fixed markup, and values put between it. How a value is written decides whether it can
change the markup around it. -/
namespace EmailMarkup.Export

inductive Slot where
  | fixed (markup : String)
  | value (text : String)
  | literal (text : String)
  deriving DecidableEq, Repr

def entity : Char → List Char
  | '&' => "&amp;".toList
  | '<' => "&lt;".toList
  | '>' => "&gt;".toList
  | '\'' => "&#39;".toList
  | '"' => "&#34;".toList
  | c => [c]

def escape (s : List Char) : List Char := s.flatMap entity

def quoteChar (c : Char) : List Char := if c = '\\' ∨ c = '\'' then ['\\', c] else [c]

def quote (s : List Char) : List Char := s.flatMap quoteChar

def Slot.write (value : List Char → List Char) : Slot → List Char
  | .fixed markup => markup.toList
  | .value text => value text.toList
  | .literal text => quote text.toList

def render (value : List Char → List Char) (slots : List Slot) : List Char := slots.flatMap (·.write value)

theorem renderAppend (value : List Char → List Char) (a b : List Slot) :
    render value (a ++ b) = render value a ++ render value b := by
  simp [render]

end EmailMarkup.Export
