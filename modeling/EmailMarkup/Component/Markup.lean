import EmailMarkup.Component.OfElement

/-! Emails as markup. An email is written as one block for each component with a blank line between blocks, in the
canonical tags and names; reading takes any markup text and passes over what it does not know. -/
namespace EmailMarkup
open Markup (writeAttributes elements)

namespace Props

def attributes : Props → List (String × String)
  | .heading h => [("as", h.level), ("fontSize", h.fontSize), ("align", h.align), ("color", h.color)]
  | .text t => [("fontSize", t.fontSize), ("align", t.align), ("color", t.color)]
  | .button b =>
      [("href", b.href), ("backgroundColor", b.backgroundColor), ("textColor", b.textColor), ("padding", b.padding)]
  | .image i => [("src", i.src), ("alt", i.alt), ("width", i.width)]
  | .divider d => [("borderColor", d.borderColor), ("borderWidth", d.borderWidth)]

def innerText? : Props → Option String
  | .heading h => some h.text
  | .text t => some t.text
  | .button b => some b.text
  | .image _ => none
  | .divider _ => none

def write (props : Props) : List Char :=
  let opening := '<' :: props.kind.tag.toList ++ ' ' :: writeAttributes props.attributes
  match props.innerText? with
  | some inner => opening ++ ">\n  ".toList ++ inner.toList ++ '\n' :: Markup.closingTag props.kind.tag.toList
  | none => opening ++ " />".toList

end Props

namespace Email

def writeContents (contents : List Props) : List Char := ['\n', '\n'].intercalate (contents.map Props.write)

def write (email : Email) : String := String.ofList (writeContents email.contents)

def read (source : String) (ids : Ids) : Email × Ids := ofElements (elements source) ids

def parsedRecord (source : String) : Record :=
  ⟨.debug, .parsing, [.plain "Parsed ", .plain (toString (elements source).length), .plain " elements from ",
    .plain (toString source.length), .plain " characters"]⟩

def readRecords (source : String) : Journal :=
  parsedRecord source :: (elements source).flatMap Component.records

end Email
end EmailMarkup
