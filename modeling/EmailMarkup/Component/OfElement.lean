import EmailMarkup.Component.Field
import EmailMarkup.Journal
import EmailMarkup.Markup.Element

/-! Components from elements. The tag decides the kind; an attribute may have synonyms, of which the first that is not
empty counts; what is missing or out of its range has the default. Elements with other tags are passed over. -/
namespace EmailMarkup
open Markup (Element Attributes)

namespace Field

def synonyms : Field → List String
  | .headingLevel => ["as", "headingLevel"]
  | .backgroundColor => ["bgColor", "backgroundColor"]
  | .textColor => ["textColor", "color"]
  | .borderColor => ["borderColor", "color"]
  | .text => ["children"]
  | field => [field.camel]

end Field

namespace Props

def nonEmpty (value : String) : Option String := if value = "" then none else some value

def pick? (attributes : Attributes) (names : List String) : Option String :=
  names.findSome? fun name => (attributes.lookup name).bind nonEmpty

def said? (element : Element) (field : Field) : Option String :=
  if field = .text then (element.text.bind nonEmpty).or (pick? element.attributes field.synonyms)
  else pick? element.attributes field.synonyms

def fieldOf (element : Element) (field : Field) (initial : String) : String :=
  match said? element field with
  | some value => if field.allows value then value else initial
  | none => initial

def ofElement? (element : Element) : Option Props :=
  (Kind.ofTag? element.tag).map fun kind => build kind (fieldOf element)

end Props

namespace Component

def ofElement? (element : Element) (ids : Ids) : Option Component × Ids :=
  match Props.ofElement? element with
  | some props => (some ⟨ids.draw.1, props⟩, ids.draw.2)
  | none => (none, ids)

def fieldRecord? (element : Element) (field : Field) (initial : String) : Option Record :=
  match Props.said? element field with
  | some value =>
      if field.allows value then none
      else some ⟨.debug, .mapping, [.plain "Ignoring out-of-range value ", .quoted value, .plain " for ",
        .plain (field.synonyms.headD ""), .plain ", using ", .quoted initial]⟩
  | none => none

def records (element : Element) : Journal :=
  match Kind.ofTag? element.tag with
  | some kind => (Props.initial kind).fields.filterMap fun (field, initial) => fieldRecord? element field initial
  | none => [⟨.debug, .mapping, [.plain "Skipping unknown tag: ", .plain element.tag]⟩]

end Component

namespace Email

def ofElements : List Element → Ids → Email × Ids
  | [], ids => ([], ids)
  | element :: rest, ids =>
      let (head, ids) := Component.ofElement? element ids
      let (tail, ids) := ofElements rest ids
      (head.toList ++ tail, ids)

end Email
end EmailMarkup
