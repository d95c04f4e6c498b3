import EmailMarkup.Component.Field
import EmailMarkup.Json.Display

/-! The JSON form of components. Writing gives the kind, the identity and every field. Reading is tolerant of fields
and strict on kinds: a field that is missing, empty or out of its range has the default, any other value is
taken as its text. -/
namespace EmailMarkup

inductive FormError where
  | notObject (value : Json)
  | unknownKind (value : Json)

def FormError.message (halves : Text.Halves) : FormError → String
  | .notObject value => "'" ++ value.kindName ++ "' object has no attribute 'get'"
  | .unknownKind value => value.shown halves ++ " is not a valid ComponentKind"

namespace Props

def toJson (props : Props) : Json :=
  .object (props.fields.map fun (field, value) => (field.camel, .str value))

def given (members : List (String × Json)) (field : Field) : Json :=
  match members.lookup field.camel with
  | some value => value
  | none => (members.lookup field.snake).getD .null

def readField (halves : Text.Halves) (members : List (String × Json)) (field : Field) (initial : String) : String :=
  match given members field with
  | .null => initial
  | .str "" => initial
  | value => if field.allows (value.text halves) then value.text halves else initial

def ofMembers (halves : Text.Halves) (kind : Kind) (members : List (String × Json)) : Props :=
  build kind (readField halves members)

def ofJson (halves : Text.Halves) (kind : Kind) (value : Json) : Except FormError Props :=
  match value with
  | .object members => .ok (ofMembers halves kind members)
  | value => if value.isTruthy then .error (.notObject value) else .ok (ofMembers halves kind [])

end Props

namespace Component

def toJson (component : Component) : Json :=
  .object [("id", component.id), ("type", .str component.kind.name), ("props", component.props.toJson)]

def kindOf (value : Json) : Except FormError Kind :=
  match value with
  | .str name =>
      match Kind.ofName? name with
      | some kind => .ok kind
      | none => .error (.unknownKind value)
  | _ => .error (.unknownKind value)

/-- The kind is judged first, then the properties. An identity is drawn last, and only if none is given. -/
def ofMembers (halves : Text.Halves) (members : List (String × Json)) (ids : Ids) :
    Except FormError (Component × Ids) := do
  let kind ← kindOf ((members.lookup "type").getD .null)
  let props ← Props.ofJson halves kind ((members.lookup "props").getD .null)
  let id := (members.lookup "id").getD .null
  if id.isTruthy then .ok (⟨id, props⟩, ids) else .ok (⟨ids.draw.1, props⟩, ids.draw.2)

def ofJson (halves : Text.Halves) (value : Json) (ids : Ids) : Except FormError (Component × Ids) :=
  match value with
  | .object members => ofMembers halves members ids
  | value => .error (.notObject value)

end Component

namespace Email

def toJson (email : Email) : Json := .list (email.map Component.toJson)

def ofJsons (halves : Text.Halves) : List Json → Ids → Except FormError (Email × Ids)
  | [], ids => .ok ([], ids)
  | value :: rest, ids => do
      let (component, ids) ← Component.ofJson halves value ids
      let (tail, ids) ← ofJsons halves rest ids
      .ok (component :: tail, ids)

end Email
end EmailMarkup
