import EmailMarkup.Component.Form
import EmailMarkup.Proofs.Block

/-! The JSON form read back. Reading leaves a record as it is if its fields are filled and in their range, and what is
read from markup always is: a field gets its value from an attribute that is not empty and fits, or else the default,
which passes the same two tests. So an email that markup gives survives its JSON form, identities included. -/
namespace EmailMarkup

namespace Props

theorem nonEmptyIff {old value : String} : nonEmpty old = some value ↔ old = value ∧ value ≠ "" := by
  rw [nonEmpty]
  split
  · rename_i empty
    simp [empty, eq_comm]
  · rename_i filled
    rw [Option.some.injEq]
    exact ⟨fun same => ⟨same, same ▸ filled⟩, And.left⟩

theorem pickOrigin {attributes : Markup.Attributes} {names : List String} {value : String}
    (picked : pick? attributes names = some value) : value ≠ "" ∧ ∃ name ∈ names, (name, value) ∈ attributes := by
  obtain ⟨name, listed, found⟩ := List.exists_of_findSome?_eq_some picked
  obtain ⟨old, held, some⟩ := Option.bind_eq_some_iff.mp found
  obtain ⟨rfl, filled⟩ := nonEmptyIff.mp some
  obtain ⟨before, after, same, _⟩ := List.lookup_eq_some_iff.mp held
  exact ⟨filled, name, listed, by simp [same]⟩

theorem saidOrigin {element : Markup.Element} {field : Field} {value : String}
    (said : said? element field = some value) : value ≠ "" ∧
      (field = .text ∧ value ∈ element.text ∨ ∃ name ∈ field.synonyms, (name, value) ∈ element.attributes) := by
  unfold said? at said
  split at said
  · rename_i text
    rcases Option.or_eq_some_iff.mp said with inner | ⟨_, picked⟩
    · obtain ⟨old, held, some⟩ := Option.bind_eq_some_iff.mp inner
      obtain ⟨rfl, filled⟩ := nonEmptyIff.mp some
      exact ⟨filled, .inl ⟨text, held⟩⟩
    · exact (pickOrigin picked).imp_right .inr
  · exact (pickOrigin said).imp_right .inr

theorem fieldOfSound (element : Markup.Element) {field : Field} {initial : String} (filled : initial ≠ "")
    (allowed : field.allows initial = true) :
    fieldOf element field initial ≠ "" ∧ field.allows (fieldOf element field initial) = true := by
  unfold fieldOf
  split
  · rename_i value said
    split
    · rename_i fits
      exact ⟨(saidOrigin said).1, fits⟩
    · exact ⟨filled, allowed⟩
  · exact ⟨filled, allowed⟩

theorem buildSound (kind : Kind) {f : Field → String → String}
    (sound : ∀ field initial, initial ≠ "" → field.allows initial = true →
      f field initial ≠ "" ∧ field.allows (f field initial) = true) :
    ∀ field ∈ (build kind f).fields, field.2 ≠ "" ∧ field.1.allows field.2 = true := by
  rw [build, fieldsMap, List.forall_mem_map]
  rintro ⟨field, value⟩ h
  obtain ⟨filled, allowed, _⟩ := initialSound kind (field, value) h
  exact sound field value filled allowed

theorem ofElementPopulated {element : Markup.Element} {props : Props} (read : ofElement? element = some props) :
    props.populated = props := by
  obtain ⟨kind, _, rfl⟩ := Option.map_eq_some_iff.mp read
  have sound := buildSound kind fun _ _ => fieldOfSound element
  exact populatedSame (fun field h => (sound field h).1) fun field h => (sound field h).2

def members (props : Props) : List (String × Json) := props.fields.map fun (field, value) => (field.camel, .str value)

theorem givenMembers (props : Props) : ∀ field ∈ props.fields, given props.members field.1 = .str field.2 := by
  cases props <;> simp only [fields, members, List.forall_mem_cons, List.not_mem_nil, false_implies, implies_true,
    and_true] <;> and_intros <;> rfl

theorem readFieldGiven (halves : Text.Halves) {members : List (String × Json)} {field : Field} {value : String}
    (found : given members field = .str value) (initial : String) :
    readField halves members field initial = if value ≠ "" ∧ field.allows value = true then value else initial := by
  rw [readField, found]
  by_cases empty : value = ""
  · simp [empty]
  · have text : (Json.str value).text halves = value := rfl
    simp [empty, text]

theorem ofJsonJson (halves : Text.Halves) (props : Props) :
    ofJson halves props.kind props.toJson = .ok props.populated := by
  change Except.ok (build props.kind (readField halves props.members)) = _
  rw [buildMap, populated]
  refine congrArg _ (mapFieldsSame fun field h => ?_)
  rw [readFieldGiven halves (props.givenMembers field h)]

end Props

namespace Component

def populated (component : Component) : Component := { component with props := component.props.populated }

theorem ofJsonJson (halves : Text.Halves) {component : Component} (named : component.id.isTruthy = true) (ids : Ids) :
    ofJson halves component.toJson ids = .ok (component.populated, ids) := by
  have kind : kindOf (.str component.kind.name) = .ok component.props.kind := by
    rw [kindOf, Kind.ofNameName]
    rfl
  have steps : ofJson halves component.toJson ids =
      (kindOf (.str component.kind.name)).bind fun kind =>
      (Props.ofJson halves kind component.props.toJson).bind fun props =>
      if component.id.isTruthy then .ok (⟨component.id, props⟩, ids) else .ok (⟨ids.draw.1, props⟩, ids.draw.2) := rfl
  rw [steps, kind, Except.bind, Props.ofJsonJson halves component.props, Except.bind, if_pos named]
  rfl

end Component

namespace Email

theorem ofJsonsJson (halves : Text.Halves) {email : Email} (named : ∀ component ∈ email, component.id.isTruthy = true)
    (ids : Ids) : ofJsons halves (email.map Component.toJson) ids = .ok (email.map Component.populated, ids) := by
  induction email with
  | nil => rfl
  | cons component rest ih =>
      have head := Component.ofJsonJson halves (named component List.mem_cons_self) ids
      have tail := ih fun other h => named other (List.mem_cons_of_mem _ h)
      have steps : ofJsons halves ((component :: rest).map Component.toJson) ids =
          (Component.ofJson halves component.toJson ids).bind fun first =>
          (ofJsons halves (rest.map Component.toJson) first.2).bind fun others =>
          .ok (first.1 :: others.1, others.2) := rfl
      rw [steps, head, Except.bind, tail]
      rfl

theorem ofContentsNamed {ids : Ids} (named : ∀ n, (ids.name n).isTruthy = true) (contents : List Props) :
    ∀ component ∈ (ofContents contents ids).1, component.id.isTruthy = true := by
  induction contents generalizing ids with
  | nil => simp [ofContents]
  | cons props rest ih =>
      rw [ofContents, List.forall_mem_cons]
      exact ⟨named ids.next, ih named⟩

theorem readPopulated (source : String) (ids : Ids) :
    (Email.read source ids).1.map Component.populated = (Email.read source ids).1 := by
  have all : ∀ props ∈ (Email.read source ids).1.contents, props.populated = props := by
    intro props h
    rw [readContents, contentsOf] at h
    obtain ⟨element, _, read⟩ := List.mem_filterMap.mp h
    exact Props.ofElementPopulated read
  refine (List.map_congr_left fun component h => ?_).trans (List.map_id _)
  have same := all component.props (List.mem_map_of_mem h)
  rw [Component.populated, same, id]

theorem readsForm (halves : Text.Halves) (source : String) {ids : Ids} (named : ∀ n, (ids.name n).isTruthy = true)
    (later : Ids) :
    ofJsons halves ((Email.read source ids).1.map Component.toJson) later = .ok ((Email.read source ids).1, later) := by
  have truthy : ∀ component ∈ (Email.read source ids).1, component.id.isTruthy = true := by
    rw [readOfContents]
    exact ofContentsNamed named _
  rw [ofJsonsJson halves truthy, readPopulated]

end Email
end EmailMarkup
