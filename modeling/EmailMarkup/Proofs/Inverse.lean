import EmailMarkup.Proofs.Status

/-! The JSON form and the component that it stands for. A component whose fields are filled and in their range is
read back from its form. Reading an object fails for its kind first and for its properties next, and it draws an
identity last, only if the object has none. What is read is read back again. A key of the properties has two spellings
and no two fields share one, so either will do. -/
namespace EmailMarkup
open Markup (lookupCons)

theorem lookupInsert (members : List (String × Json)) (key other : String) (value : Json) :
    (Json.insert members key value).lookup other = if other = key then some value else members.lookup other := by
  induction members with
  | nil => rw [Json.insert, lookupCons]
  | cons member rest ih =>
      obtain ⟨name, old⟩ := member
      unfold Json.insert
      by_cases known : name = key
      · subst known
        rw [if_pos rfl, lookupCons, lookupCons]
        split <;> rfl
      · rw [if_neg known, lookupCons, lookupCons, ih]
        by_cases here : other = name
        · subst here
          rw [if_pos rfl, if_neg known, if_pos rfl]
        · rw [if_neg here, if_neg here]

namespace Field

def all : List Field :=
  [.text, .headingLevel, .align, .color, .fontSize, .href, .backgroundColor, .textColor, .padding, .src, .alt, .width,
    .borderColor, .borderWidth]

def ofKey? (key : String) : Option Field := all.find? fun field => field.camel == key || field.snake == key

theorem ofKeyCamel (field : Field) : ofKey? field.camel = some field := by cases field <;> rfl

theorem ofKeySnake (field : Field) : ofKey? field.snake = some field := by cases field <;> rfl

def respell (field : Field) (members : List (String × Json)) : List (String × Json) :=
  members.map fun member => (if member.1 = field.camel then field.snake else member.1, member.2)

variable {field : Field} {members : List (String × Json)}

theorem respellKept (kept : ∀ member ∈ members, member.1 = field.camel → member.1 = field.snake) :
    respell field members = members := by
  refine (List.map_congr_left fun member h => ?_).trans (List.map_id _)
  split
  · rename_i named
    rw [← kept member h named, id]
  · rfl

theorem respellLookup (fresh : field.snake ∉ members.map Prod.fst) (key : String) :
    (respell field members).lookup key =
      if key = field.snake then members.lookup field.camel
      else if key = field.camel then none else members.lookup key := by
  induction members with
  | nil => simp [respell]
  | cons member rest ih =>
      obtain ⟨name, value⟩ := member
      rw [List.map_cons, List.mem_cons, not_or] at fresh
      have step : respell field ((name, value) :: rest) =
        (if name = field.camel then field.snake else name, value) :: respell field rest := rfl
      rw [step, lookupCons, lookupCons, lookupCons, ih fresh.2]
      grind

theorem otherKey {other : Field} (apart : other ≠ field) {key : String} (named : ofKey? key = some other) :
    key ≠ field.camel ∧ key ≠ field.snake := by
  constructor
  · rintro rfl
    exact apart (Option.some.inj (named.symm.trans (ofKeyCamel field)))
  · rintro rfl
    exact apart (Option.some.inj (named.symm.trans (ofKeySnake field)))

/- A key stands for one field only, so a field is found under its other spelling, and the others where they were. -/
theorem respellGiven (alone : field.camel ∈ members.map Prod.fst → field.snake ∈ members.map Prod.fst →
    field.camel = field.snake) (other : Field) : Props.given (respell field members) other = Props.given members other := by
  by_cases moved : field.camel ∈ members.map Prod.fst ∧ field.camel ≠ field.snake
  · obtain ⟨held, apart⟩ := moved
    have fresh : field.snake ∉ members.map Prod.fst := fun also => apart (alone held also)
    unfold Props.given
    rw [respellLookup fresh, respellLookup fresh]
    by_cases same : other = field
    · subst same
      have absent : members.lookup other.snake = none := by
        refine List.lookup_eq_none_iff.mpr fun member h => bne_iff_ne.mpr ?_
        exact fun here => fresh (here ▸ List.mem_map_of_mem h)
      rw [if_neg apart, if_pos rfl, if_pos rfl, absent]
      cases members.lookup other.camel <;> rfl
    · obtain ⟨camel, snake⟩ := otherKey same (ofKeyCamel other)
      obtain ⟨otherCamel, otherSnake⟩ := otherKey same (ofKeySnake other)
      rw [if_neg snake, if_neg camel, if_neg otherSnake, if_neg otherCamel]
  · rw [respellKept]
    intro member h named
    by_contra apart
    exact moved ⟨named ▸ List.mem_map_of_mem h, fun same => apart (named.trans same)⟩

end Field

namespace Props

theorem ofMembersRespelled (halves : Text.Halves) (kind : Kind) {field : Field} {members : List (String × Json)}
    (alone : field.camel ∈ members.map Prod.fst → field.snake ∈ members.map Prod.fst → field.camel = field.snake) :
    ofMembers halves kind (field.respell members) = ofMembers halves kind members := by
  refine congrArg (build kind) (funext fun other => funext fun initial => ?_)
  rw [readField, readField, Field.respellGiven alone]

end Props

namespace Component

theorem ofJsonRespelled (halves : Text.Halves) {members props : List (String × Json)} {field : Field}
    (given : members.lookup "props" = some (.object props))
    (alone : field.camel ∈ props.map Prod.fst → field.snake ∈ props.map Prod.fst → field.camel = field.snake) (ids : Ids) :
    ofJson halves (.object (Json.insert members "props" (.object (field.respell props)))) ids =
      ofJson halves (.object members) ids := by
  have same (kind : Kind) : Props.ofJson halves kind (.object (field.respell props)) =
      Props.ofJson halves kind (.object props) := congrArg Except.ok (Props.ofMembersRespelled halves kind alone)
  have type : "type" ≠ "props" := by decide
  have id : "id" ≠ "props" := by decide
  rw [ofJsonObject, ofJsonObject, lookupInsert, lookupInsert, lookupInsert, if_neg type, if_pos rfl, if_neg id, given,
    Option.getD_some, Option.getD_some]
  simp only [same]

theorem WellFormed.sound {component : Component} (formed : component.WellFormed) :
    ∀ field ∈ component.props.fields, field.2 ≠ "" ∧ field.1.allows field.2 = true := by
  rintro ⟨field, value⟩ h
  refine ⟨formed.filled _ h, ?_⟩
  cases field with
  | headingLevel => exact List.contains_iff_mem.mpr (formed.level value h)
  | align => exact List.contains_iff_mem.mpr (formed.align value h)
  | _ => rfl

theorem ofJsonFormed (halves : Text.Halves) {component : Component} (named : component.id.isTruthy = true)
    (formed : component.WellFormed) (ids : Ids) : ofJson halves component.toJson ids = .ok (component, ids) := by
  have same := Props.populatedSame (fun field h => (formed.sound field h).1) fun field h => (formed.sound field h).2
  rw [ofJsonJson halves named, populated, same]

variable {halves : Text.Halves} {members : List (String × Json)} {ids : Ids}

theorem ofJsonUnknown {value : Json} : ofJson halves (.object members) ids = .error (.unknownKind value) ↔
    ¬ Typed members ∧ value = (members.lookup "type").getD .null := by
  rcases ofJsonCases halves members ids with ⟨read, ok, _, same, typed, _⟩ | ⟨loose, refused, _, _, same, typed, _⟩ |
    ⟨refused, untyped⟩
  · cases same
    simp [ok, typed]
  · cases same
    simp [refused, typed]
  · simp [refused, untyped, eq_comm]

theorem ofJsonNotObject {value : Json} : ofJson halves (.object members) ids = .error (.notObject value) ↔
    Typed members ∧ members.lookup "props" = some value ∧ value.isTruthy = true ∧ ∀ inner, value ≠ .object inner := by
  rcases ofJsonCases halves members ids with ⟨read, ok, _, same, _, tight⟩ |
    ⟨loose, refused, given, _, same, typed, found, here, counts⟩ | ⟨refused, untyped⟩
  · cases same
    refine iff_of_false (by simp [ok]) ?_
    rintro ⟨_, given, counts⟩
    exact tight ⟨value, given, counts⟩
  · cases same
    obtain rfl : loose = found := Option.some.inj (given.symm.trans here)
    simp only [refused, given, typed, Except.error.injEq, FormError.notObject.injEq, Option.some.injEq, true_and]
    constructor
    · rintro rfl
      exact ⟨rfl, counts⟩
    · exact And.left
  · simp [refused, untyped]

theorem ofJsonIdentity {component : Component} {later : Ids}
    (ok : ofJson halves (.object members) ids = .ok (component, later)) :
    (component.id, later) = if ((members.lookup "id").getD .null).isTruthy then ((members.lookup "id").getD .null, ids)
      else ids.draw := by
  rw [ofJsonObject] at ok
  obtain ⟨kind, _, ok⟩ := bindOk ok
  obtain ⟨props, _, ok⟩ := bindOk ok
  split at ok <;> cases ok <;> simp [*]

theorem ofJsonNamed {component : Component} {later : Ids}
    (ok : ofJson halves (.object members) ids = .ok (component, later))
    (named : ((members.lookup "id").getD .null).isTruthy = true ∨ ids.draw.1.isTruthy = true) :
    component.id.isTruthy = true := by
  have identity : component.id = _ := congrArg Prod.fst (ofJsonIdentity ok)
  rw [identity]
  split
  · assumption
  · exact named.resolve_left (by assumption)

/-- Reading as work on a supply of identities. Work may fail half-way, and then what it has drawn stays drawn. -/
abbrev Loading (α : Type) := EStateM FormError Ids α

def orThrow {α : Type} : Except FormError α → Loading α
  | .ok a => pure a
  | .error error => throw error

def load (halves : Text.Halves) (members : List (String × Json)) : Loading Component := do
  let kind ← orThrow (kindOf ((members.lookup "type").getD .null))
  let props ← orThrow (Props.ofJson halves kind ((members.lookup "props").getD .null))
  let id := (members.lookup "id").getD .null
  if id.isTruthy then return ⟨id, props⟩
  let drawn ← modifyGet Ids.draw
  return ⟨drawn, props⟩

def settled (ids : Ids) : Except FormError (Component × Ids) → EStateM.Result FormError Ids Component
  | .ok (component, later) => .ok component later
  | .error error => .error error ids

theorem orThrowBind {α β : Type} (first : Except FormError α) (next : α → Loading β) (ids : Ids) :
    (orThrow first >>= next) ids = match first with
      | .ok a => next a ids
      | .error error => .error error ids := by
  cases first <;> rfl

theorem loadRun : load halves members ids = settled ids (ofJson halves (.object members) ids) := by
  rw [ofJsonObject, load, orThrowBind]
  cases kindOf ((members.lookup "type").getD .null) with
  | error error => rfl
  | ok kind =>
      rw [Except.bind]
      dsimp only
      rw [orThrowBind]
      cases Props.ofJson halves kind ((members.lookup "props").getD .null) with
      | error error => rfl
      | ok props =>
          rw [Except.bind]
          dsimp only
          split <;> rfl

theorem formInverse (halves : Text.Halves) (ids : Ids) :
    (∀ component : Component, component.id.isTruthy = true → component.WellFormed →
      ofJson halves component.toJson ids = .ok (component, ids)) ∧
    ∀ members : List (String × Json),
      (∀ value, ofJson halves (.object members) ids = .error (.unknownKind value) ↔
        (∀ kind : Kind, members.lookup "type" ≠ some (.str kind.name)) ∧ value = (members.lookup "type").getD .null) ∧
      (∀ value, ofJson halves (.object members) ids = .error (.notObject value) ↔
        (∃ kind : Kind, members.lookup "type" = some (.str kind.name)) ∧ members.lookup "props" = some value ∧
          value.isTruthy = true ∧ ∀ inner, value ≠ .object inner) ∧
      (∀ error later, load halves members ids = .error error later ↔
        ofJson halves (.object members) ids = .error error ∧ later = ids) ∧
      (∀ component later, load halves members ids = .ok component later ↔
        ofJson halves (.object members) ids = .ok (component, later)) ∧
      (∀ component later, ofJson halves (.object members) ids = .ok (component, later) →
        let id := (members.lookup "id").getD .null
        (component.id, later) = (if id.isTruthy then (id, ids) else ids.draw) ∧
        (id.isTruthy = true ∨ ids.draw.1.isTruthy = true →
          ∀ others, ofJson halves component.toJson others = .ok (component, others))) ∧
      ∀ (field : Field) (props : List (String × Json)), members.lookup "props" = some (.object props) →
        (field.camel ∈ props.map Prod.fst → field.snake ∈ props.map Prod.fst → field.camel = field.snake) →
        ofJson halves (.object (Json.insert members "props" (.object (field.respell props)))) ids =
          ofJson halves (.object members) ids := by
  refine ⟨fun component named formed => ofJsonFormed halves named formed ids, fun members => ⟨fun value => ?_,
    fun value => ofJsonNotObject, fun error later => ?_, fun component later => ?_,
    fun component later ok => ⟨ofJsonIdentity ok, fun named others => ?_⟩,
    fun field props given alone => ofJsonRespelled halves given alone ids⟩⟩
  · rw [ofJsonUnknown, Typed, not_exists]
  · rw [loadRun]
    cases ofJson halves (.object members) ids <;> simp [settled, eq_comm]
  · rw [loadRun]
    cases ofJson halves (.object members) ids <;> simp [settled, Prod.ext_iff]
  · exact ofJsonFormed halves (ofJsonNamed ok named) (ofJsonWellFormed ok) others

def mixedProps : List (String × Json) :=
  [("headingLevel", .str "h3"), ("font_size", .int 12), ("align", .str "top"), ("text", .null),
    ("color", .list [.bool true])]

theorem formInverseMixed : ∃ members component,
    members = [("id", .str ""), ("props", .object mixedProps), ("type", .str "heading")] ∧
    component = ⟨.str "id1", .heading ⟨"Your Heading Here", "h3", "left", "[True]", "12"⟩⟩ ∧ component.WellFormed ∧
    ofJson .absent (.object members) Ids.numbered = .ok (component, Ids.numbered.draw.2) ∧
    ofJson .absent component.toJson Ids.numbered = .ok (component, Ids.numbered) ∧
    ofJson .absent component.toJson Ids.numbered.draw.2 = .ok (component, Ids.numbered.draw.2) ∧
    ofJson .absent (.object [("id", .str ""), ("props", .object (("heading_level", .str "h3") :: mixedProps.tail)),
      ("type", .str "heading")]) Ids.numbered = .ok (component, Ids.numbered.draw.2) := by
  obtain ⟨back, reads⟩ := formInverse .absent Ids.numbered
  obtain ⟨-, -, -, -, again, spelled⟩ :=
    reads [("id", .str ""), ("props", .object mixedProps), ("type", .str "heading")]
  have ok : ofJson .absent (.object [("id", .str ""), ("props", .object mixedProps), ("type", .str "heading")])
      Ids.numbered = .ok (⟨.str "id1", .heading ⟨"Your Heading Here", "h3", "left", "[True]", "12"⟩⟩,
        Ids.numbered.draw.2) := rfl
  have formed := ofJsonWellFormed ok
  exact ⟨_, _, rfl, rfl, formed, ok, back _ rfl formed, (again _ _ ok).2 (.inr rfl) _,
    (spelled .headingLevel mixedProps rfl (by decide)).trans ok⟩

end Component
end EmailMarkup
