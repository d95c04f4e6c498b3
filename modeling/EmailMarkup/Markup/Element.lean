import EmailMarkup.Markup.Attribute
import EmailMarkup.Text.Blank

/-! Elements of a markup text. Self-closing tags are taken out first and come first, whatever their place. What
stands between the two tags of a paired element is one text, whatever tags it holds. -/
namespace EmailMarkup.Markup
open Text (strip)

structure Element where
  tag : String
  attributes : Attributes
  text : Option String
  deriving DecidableEq, Repr

def textChild (content : List Char) : Option String :=
  if (strip content).isEmpty then none else some (String.ofList (strip content))

def Element.ofHead (head : Head) (text : Option String) : Element :=
  ⟨String.ofList head.name, Markup.attributes head.span, text⟩

def elementsOf (s : List Char) : List Element :=
  (selfClosing s).items.map (Element.ofHead · none) ++
    (paired (selfClosing s).residue).map fun (head, content) => Element.ofHead head (textChild content)

def elements (source : String) : List Element := elementsOf source.toList

end EmailMarkup.Markup
