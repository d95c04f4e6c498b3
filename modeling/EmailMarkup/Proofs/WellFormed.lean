import EmailMarkup.Proofs.Form
import EmailMarkup.Proofs.Handle
import EmailMarkup.Proofs.Reader
import EmailMarkup.Proofs.Rescan

/-! Components made here are well formed. Markup, JSON values and the defaults give records whose fields are all filled
and in their range, and handles and sessions hold nothing but what was put there or read from markup. -/
namespace EmailMarkup

namespace Number.NumberFormat

theorem decimalFilled (format : NumberFormat) (x : Decimal) : format.decimal x ≠ [] := by
  unfold decimal
  dsimp only
  split
  · unfold positional
    split
    · simp
    · split <;> simp
  · simp [scientific]

theorem writeFilled (x : Binary64) : plain.write x ≠ "" := by
  cases x with
  | nan => decide
  | infinity negative => cases negative <;> decide
  | finite negative significand exponent =>
      have body := plain.decimalFilled (Decimal.shortest significand exponent)
      cases negative <;> simp [write, body]

end Number.NumberFormat

namespace Json

theorem shownFilled (halves : Text.Halves) (value : Json) : value.shown halves ≠ "" := by
  cases value with
  | null => simp [shown]
  | bool b => cases b <;> simp [shown]
  | int n => cases n <;> simp [shown, toString, Int.repr]
  | float x => exact Number.NumberFormat.writeFilled x
  | str s => simp [shown, Text.quotedIn, Text.quotedChars]
  | list items => simp [shown]
  | object members => simp [shown]

theorem textFilled (halves : Text.Halves) {value : Json} (some : value ≠ .str "") : value.text halves ≠ "" := by
  cases value with
  | str s => exact fun none => some (congrArg Json.str none)
  | _ => exact shownFilled halves _

end Json

namespace Props

theorem readFieldSound (halves : Text.Halves) (members : List (String × Json)) {field : Field} {initial : String}
    (filled : initial ≠ "") (allowed : field.allows initial = true) :
    readField halves members field initial ≠ "" ∧ field.allows (readField halves members field initial) = true := by
  unfold readField
  split
  · exact ⟨filled, allowed⟩
  · exact ⟨filled, allowed⟩
  · rename_i some
    split
    · rename_i fits
      exact ⟨Json.textFilled halves some, fits⟩
    · exact ⟨filled, allowed⟩

theorem ofJsonMembers {halves : Text.Halves} {kind : Kind} {value : Json} {props : Props}
    (ok : ofJson halves kind value = .ok props) : ∃ members, props = ofMembers halves kind members := by
  unfold ofJson at ok
  split at ok
  · exact ⟨_, (Except.ok.inj ok).symm⟩
  · split at ok
    · contradiction
    · exact ⟨_, (Except.ok.inj ok).symm⟩

theorem ofElementKind (element : Markup.Element) : (ofElement? element).map kind = Kind.ofTag? element.tag := by
  have same : kind ∘ (fun kind => build kind (fieldOf element)) = id := funext fun kind => buildKind kind _
  rw [ofElement?, Option.map_map, same, Option.map_id, id]

end Props

namespace Component

structure WellFormed (component : Component) : Prop where
  record : component.props.fields.map Prod.fst = (Props.initial component.kind).fields.map Prod.fst
  filled : ∀ field ∈ component.props.fields, field.2 ≠ ""
  level : ∀ value, (Field.headingLevel, value) ∈ component.props.fields → value ∈ ["h1", "h2", "h3", "h4"]
  align : ∀ value, (Field.align, value) ∈ component.props.fields → value ∈ ["left", "center", "right"]

theorem soundWellFormed {component : Component}
    (sound : ∀ field ∈ component.props.fields, field.2 ≠ "" ∧ field.1.allows field.2 = true) :
    component.WellFormed where
  record := by
    rw [kind]
    cases component.props <;> rfl
  filled := fun field h => (sound field h).1
  level := fun value h => List.contains_iff_mem.mp (sound (.headingLevel, value) h).2
  align := fun value h => List.contains_iff_mem.mp (sound (.align, value) h).2

theorem readKinds (source : String) (ids : Ids) : (Email.read source ids).1.map kind =
    (Markup.elements source).filterMap fun element => Kind.ofTag? element.tag := by
  have kinds : (Email.read source ids).1.map kind = (Email.read source ids).1.contents.map Props.kind := by
    rw [Email.contents, List.map_map]
    rfl
  rw [kinds, readContents, contentsOf, List.map_filterMap]
  exact List.filterMap_congr fun element _ => Props.ofElementKind element

theorem readWellFormed (source : String) (ids : Ids) : ∀ component ∈ (Email.read source ids).1, component.WellFormed := by
  intro component member
  have shown : component.props ∈ (Email.read source ids).1.contents := List.mem_map_of_mem member
  rw [readContents, contentsOf] at shown
  obtain ⟨element, _, read⟩ := List.mem_filterMap.mp shown
  obtain ⟨kind, _, same⟩ := Option.map_eq_some_iff.mp read
  exact soundWellFormed (same ▸ Props.buildSound kind fun _ _ => Props.fieldOfSound element)

theorem kindNamed {value : Json} {kind : Kind} (ok : kindOf value = .ok kind) : value = .str kind.name := by
  unfold kindOf at ok
  split at ok <;> try contradiction
  split at ok <;> try contradiction
  rename_i name _ other found
  cases Except.ok.inj ok
  have same : kind.name = name := by simpa using List.find?_some found
  rw [same]

theorem ofJsonBuilt {halves : Text.Halves} {value : Json} {ids later : Ids} {component : Component}
    (ok : ofJson halves value ids = .ok (component, later)) : ∃ members given, value = .object members ∧
      members.lookup "type" = some (.str component.kind.name) ∧
      component.props = Props.ofMembers halves component.kind given := by
  unfold ofJson at ok
  split at ok <;> try contradiction
  rename_i members
  obtain ⟨kind, named, ok⟩ := bindOk ok
  obtain ⟨props, read, ok⟩ := bindOk ok
  obtain ⟨given, rfl⟩ := Props.ofJsonMembers read
  have props : component.props = Props.ofMembers halves kind given := by
    dsimp only at ok
    split at ok <;> rw [← (Prod.mk.inj (Except.ok.inj ok)).1]
  have same : component.kind = kind := by rw [Component.kind, props, Props.ofMembers, Props.buildKind]
  have type : members.lookup "type" = some (.str kind.name) := by
    have name := kindNamed named
    cases h : members.lookup "type" with
    | none => rw [h] at name; contradiction
    | some value => rw [← name, h, Option.getD_some]
  exact ⟨members, given, rfl, same ▸ type, same ▸ props⟩

theorem ofJsonWellFormed {halves : Text.Halves} {value : Json} {ids later : Ids} {component : Component}
    (ok : ofJson halves value ids = .ok (component, later)) : component.WellFormed := by
  obtain ⟨_, given, _, _, props⟩ := ofJsonBuilt ok
  exact soundWellFormed (props ▸ Props.buildSound _ fun _ _ => Props.readFieldSound halves given)

theorem createWellFormed (kind : Kind) (ids : Ids) : (create kind ids).1.WellFormed :=
  soundWellFormed fun field h =>
    have sound := Props.initialSound kind field h
    ⟨sound.1, sound.2.1⟩

end Component

section Users

variable {good : Component → Prop} (read : ∀ source ids, ∀ component ∈ (Email.read source ids).1, good component)
include read

theorem Handle.answerKeeps {handle : Handle} (start : ∀ component ∈ handle.email, good component) (call : Call) :
    ∀ component ∈ (handle.answer call).2.email, good component := by
  rcases handle.answerSplices call with same | ⟨source, before, gone, after, split, spliced⟩
  · rwa [same]
  · rw [spliced]
    intro component member
    rw [List.mem_append, List.mem_append] at member
    rcases member with (left | new) | right
    · exact start component (by simp [split, left])
    · exact read source handle.ids component new
    · exact start component (by simp [split, right])

theorem Handle.runKeeps {handle : Handle} (start : ∀ component ∈ handle.email, good component) (calls : List Call) :
    ∀ component ∈ (handle.run calls).email, good component := by
  induction calls generalizing handle with
  | nil => exact start
  | cons call rest ih => exact ih (Handle.answerKeeps read start call)

namespace Stream.Session

theorem settleKeeps {session : Session} (start : ∀ component ∈ session.email, good component) (chunk source : String)
    (ids : Ids) (otherwise : Status) :
    ∀ component ∈ (session.settle chunk (Email.read source ids) otherwise).session.email, good component := by
  rw [settleEmail]
  split
  · exact start
  · exact read source ids

theorem stepKeeps {state : Session × Ids} (start : ∀ component ∈ state.1.email, good component) (event : Event) :
    ∀ component ∈ (step state event).1.email, good component := by
  cases event with
  | reset => simp [step]
  | finalize =>
      rw [stepFinalize]
      exact settleKeeps read start _ _ _ _
  | append chunk =>
      rw [stepAppend]
      by_cases blank : (state.1.receive chunk.toList).kept.text.isEmpty
      · rw [appendBlank blank]
        exact start
      · have received : ∀ component ∈ (state.1.receive chunk.toList).email, good component := start
        rw [appendFilled blank]
        exact settleKeeps read received _ _ _ _

theorem runKeeps {state : Session × Ids} (start : ∀ component ∈ state.1.email, good component) (events : List Event) :
    ∀ component ∈ (run state events).1.email, good component := by
  induction events generalizing state with
  | nil => exact start
  | cons event rest ih => exact ih (stepKeeps read start event)

end Stream.Session
end Users

/- The components that are made here: read from markup, accepted as JSON, newly created, or found in a handle or in a
session that holds such components to begin with. -/
inductive Made : Component → Prop where
  | read (source : String) (ids : Ids) {component : Component} (member : component ∈ (Email.read source ids).1) :
      Made component
  | accepted {halves : Text.Halves} {value : Json} {ids later : Ids} {component : Component}
      (ok : Component.ofJson halves value ids = .ok (component, later)) : Made component
  | created (kind : Kind) (ids : Ids) : Made (Component.create kind ids).1
  | edited {handle : Handle} (start : ∀ component ∈ handle.email, Made component) (calls : List Call)
      {component : Component} (member : component ∈ (handle.run calls).email) : Made component
  | streamed {state : Stream.Session × Ids} (start : ∀ component ∈ state.1.email, Made component)
      (events : List Stream.Event) {component : Component}
      (member : component ∈ (Stream.Session.run state events).1.email) : Made component

theorem makesWellFormed :
    (∀ component, Made component → component.WellFormed) ∧
    (∀ source ids, (Email.read source ids).1.map Component.kind =
      (Markup.elements source).filterMap fun element => Kind.ofTag? element.tag) ∧
    (∀ halves value ids component later, Component.ofJson halves value ids = .ok (component, later) →
      ∃ members, value = .object members ∧ members.lookup "type" = some (.str component.kind.name)) ∧
    ∀ kind ids, (Component.create kind ids).1.kind = kind := by
  refine ⟨fun component made => ?_, Component.readKinds, fun halves value ids component later ok => ?_,
    fun kind _ => Props.initialKind kind⟩
  · induction made with
    | read source ids member => exact Component.readWellFormed source ids _ member
    | accepted ok => exact Component.ofJsonWellFormed ok
    | created kind ids => exact Component.createWellFormed kind ids
    | edited _ calls member ih => exact Handle.runKeeps Component.readWellFormed ih calls _ member
    | streamed _ events member ih => exact Stream.Session.runKeeps Component.readWellFormed ih events _ member
  · obtain ⟨members, _, same, type, _⟩ := Component.ofJsonBuilt ok
    exact ⟨members, same, type⟩

def oddForm : Json :=
  .object [("id", .int 7), ("type", .str "heading"), ("props", .object [("heading_level", .str "h3"),
    ("headingLevel", .str "h9"), ("text", .bool false), ("align", .str ""), ("color", .null), ("fontSize", .int 0)])]

def oddHeading : Component := ⟨.int 7, .heading { text := "False", fontSize := "0" }⟩

def oddHandle : Handle :=
  let (divider, ids) := Component.create .divider Ids.numbered
  ⟨[oddHeading, divider], ids⟩

def dividerEdit : Call := .edit "<Button color=''>Go</Button><Text align='middle' />" (some (.str "id1")) true

theorem makesOddHeading : ∃ session, session =
      (Stream.Session.run ({ email := (oddHandle.run [dividerEdit]).email }, Ids.numbered) [.append "<H"]).1 ∧
    session.email.map Component.kind = [.heading, .text, .button] ∧
    (∀ component ∈ session.email, component.WellFormed) ∧
    ∃ members, oddForm = .object members ∧ members.lookup "type" = some (.str oddHeading.kind.name) := by
  obtain ⟨wellFormed, _, named, _⟩ := makesWellFormed
  have accepted : Component.ofJson .absent oddForm Ids.numbered = .ok (oddHeading, Ids.numbered) := rfl
  have held : ∀ component ∈ oddHandle.email, Made component := by
    simp only [oddHandle, List.forall_mem_cons, List.not_mem_nil, false_implies, implies_true, and_true]
    exact ⟨.accepted accepted, .created .divider Ids.numbered⟩
  refine ⟨_, rfl, by decide +kernel, fun component member => wellFormed component ?_, named _ _ _ _ _ accepted⟩
  exact .streamed (fun component member => .edited held [dividerEdit] member) [.append "<H"] member

end EmailMarkup
