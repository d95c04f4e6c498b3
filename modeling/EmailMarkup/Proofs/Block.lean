import EmailMarkup.Component.Markup
import EmailMarkup.Proofs.Document

/-! Blocks as nodes of a document. The block of a component that markup can restore is a valid node, and its
element shows the same component. So any arrangement of such blocks among fillers shows the components of self-closing
tags in order, and then the others. -/
namespace EmailMarkup
open Markup (Tag Node Spelling Quoting Quotable TagFree apartJoin apartWithout quotingFree writeQuotable
  lastValuesDistinct documentElements elementsOf elements elementsApart closingTag writeAttribute writeAttributes)
open Text (strip isBlank stripBetween infixBehind infixBefore)

def contentsOf (s : List Char) : List Props := (elementsOf s).filterMap Props.ofElement?

def Email.ofContents : List Props → Ids → Email × Ids
  | [], ids => ([], ids)
  | props :: rest, ids => (⟨ids.draw.1, props⟩ :: (ofContents rest ids.draw.2).1, (ofContents rest ids.draw.2).2)

theorem ofElementsContents (elements : List Markup.Element) (ids : Ids) :
    Email.ofElements elements ids = Email.ofContents (elements.filterMap Props.ofElement?) ids := by
  induction elements generalizing ids with
  | nil => rfl
  | cons element rest ih =>
      cases h : Props.ofElement? element with
      | none => simp [Email.ofElements, Component.ofElement?, h, ih]
      | some props => simp [Email.ofElements, Component.ofElement?, h, ih, Email.ofContents]

theorem ofContentsContents (contents : List Props) (ids : Ids) : (Email.ofContents contents ids).1.contents = contents := by
  induction contents generalizing ids with
  | nil => rfl
  | cons props rest ih => exact congrArg (props :: ·) (ih ids.draw.2)

theorem readOfContents (source : String) (ids : Ids) :
    Email.read source ids = Email.ofContents (contentsOf source.toList) ids := ofElementsContents (elements source) ids

theorem readContents (source : String) (ids : Ids) : (Email.read source ids).1.contents = contentsOf source.toList := by
  rw [readOfContents, ofContentsContents]

def Kind.selfCloses : Kind → Bool
  | .image => true
  | .divider => true
  | _ => false

def arranged (contents : List Props) : List Props :=
  contents.filter (·.kind.selfCloses) ++ contents.filter (!·.kind.selfCloses)

theorem arrangedTwice (contents : List Props) : arranged (arranged contents) = arranged contents := by
  simp [arranged, List.filter_append, List.filter_filter]

theorem arrangedEmpty (contents : List Props) : arranged contents = [] ↔ contents = [] := by
  constructor
  · intro none
    obtain ⟨first, second⟩ := List.append_eq_nil_iff.mp none
    rw [List.filter_eq_nil_iff] at first second
    refine List.eq_nil_iff_forall_not_mem.mpr fun props h => ?_
    cases side : props.kind.selfCloses with
    | true => exact first props h side
    | false => exact second props h (by rw [side]; rfl)
  · rintro rfl
    rfl

namespace Props

def spell (pair : String × String) : Spelling :=
  ⟨[' '], pair.1.toList, Quoting.of pair.2.toList, pair.2.toList⟩

def opening (props : Props) (gap : List Char) : Tag := ⟨props.kind.tag.toList, props.attributes.map spell, gap⟩

def node (props : Props) : Node :=
  match props.innerText? with
  | some inner => .pair (props.opening []) ("\n  ".toList ++ inner.toList ++ ['\n'])
  | none => .single (props.opening [' '])

def element (props : Props) : Markup.Element := ⟨props.kind.tag, props.attributes, props.innerText?⟩

def Spellable (props : Props) : Prop := ∀ field ∈ props.fields, field.1 ≠ .text → Quotable field.2.toList

/- What a component must be for its block to be read back: no field is empty or out of its range, each attribute has
a free form of quoting, and what stands in a paired element neither opens a tag nor closes the element early. -/
structure Restorable (props : Props) : Prop where
  filled : ∀ field ∈ props.fields, field.2 ≠ ""
  allowed : ∀ field ∈ props.fields, field.1.allows field.2 = true
  quotable : ∀ field ∈ props.fields, field.1 ≠ .text → Quotable field.2.toList
  trimmed : ∀ inner ∈ props.innerText?, strip inner.toList = inner.toList
  closed : ∀ inner ∈ props.innerText?, ¬ closingTag props.kind.tag.toList <:+: inner.toList
  tagFree : props.kind.selfCloses = false → ∀ field ∈ props.fields, TagFree field.2.toList

structure Plain (props : Props) : Prop where
  filled : ∀ field ∈ props.fields, field.2 ≠ ""
  allowed : ∀ field ∈ props.fields, field.1.allows field.2 = true
  clear : ∀ field ∈ props.fields, '<' ∉ field.2.toList
  quotable : ∀ field ∈ props.fields, field.1 ≠ .text → Quotable field.2.toList
  trimmed : ∀ inner ∈ props.innerText?, strip inner.toList = inner.toList

theorem attributeField (props : Props) :
    ∀ pair ∈ props.attributes, ∃ field ∈ props.fields, field.1 ≠ .text ∧ field.2 = pair.2 := by
  cases props <;> simp [attributes, fields]

theorem innerField (props : Props) {inner : String} (h : inner ∈ props.innerText?) :
    (Field.text, inner) ∈ props.fields := by
  cases props <;> simp_all [innerText?, fields]

theorem Plain.restorable {props : Props} (plain : props.Plain) : props.Restorable where
  filled := plain.filled
  allowed := plain.allowed
  quotable := plain.quotable
  trimmed := plain.trimmed
  closed := by
    intro inner h early
    exact plain.clear _ (props.innerField h) (early.subset (by simp [closingTag]))
  tagFree := fun _ field h => apartWithout (plain.clear field h)

theorem innerKind (props : Props) : props.innerText?.isNone = props.kind.selfCloses := by cases props <;> rfl

theorem attributeNames (props : Props) : (props.attributes.map Prod.fst).Nodup := by
  cases props <;> simp [attributes]

theorem tagWord (kind : Kind) : kind.tag.toList ≠ [] ∧ ∀ c ∈ kind.tag.toList, Text.isWord c = true := by
  cases kind <;> decide

theorem attributeWord (props : Props) {pair : String × String} (h : pair ∈ props.attributes) :
    pair.1.toList ≠ [] ∧ ∀ c ∈ pair.1.toList, Text.isWord c = true := by
  have all : ∀ name ∈ props.attributes.map Prod.fst, name.toList ≠ [] ∧ ∀ c ∈ name.toList, Text.isWord c = true := by
    cases props <;> simp only [attributes, List.map_cons, List.map_nil] <;> decide
  exact all pair.1 (List.mem_map_of_mem h)

theorem spellField (props : Props) {s : Spelling} (h : s ∈ props.attributes.map spell) :
    s.gap = [' '] ∧ ∃ field ∈ props.fields, field.1 ≠ .text ∧ field.2.toList = s.value := by
  obtain ⟨pair, member, rfl⟩ := List.mem_map.mp h
  obtain ⟨field, hf, other, same⟩ := props.attributeField pair member
  exact ⟨rfl, field, hf, other, congrArg String.toList same⟩

theorem spellValid {props : Props} (spellable : props.Spellable) :
    ∀ s ∈ props.attributes.map spell, s.Valid := by
  intro s hs
  obtain ⟨pair, member, rfl⟩ := List.mem_map.mp hs
  obtain ⟨field, hf, other, same⟩ := props.attributeField pair member
  have free := quotingFree (same ▸ spellable field hf other)
  exact ⟨⟨by simp [spell], by simp [spell]; decide⟩, props.attributeWord member, free⟩

theorem spellPairs (pairs : Markup.Attributes) : (pairs.map spell).map Spelling.pair = pairs := by
  simp [spell, Spelling.pair, Function.comp_def]

theorem openingValid {props : Props} (spellable : props.Spellable) (gap : List Char)
    (blank : ∀ c ∈ gap, isBlank c = true) : (props.opening gap).Valid :=
  ⟨tagWord props.kind, spellValid spellable, blank⟩

theorem innerClosed (props : Props) {inner : List Char} (closed : ¬ closingTag props.kind.tag.toList <:+: inner) :
    ¬ closingTag props.kind.tag.toList <:+: "\n  ".toList ++ inner ++ ['\n'] := by
  intro early
  have close : closingTag props.kind.tag.toList = '<' :: '/' :: props.kind.tag.toList ++ ['>'] := rfl
  rw [close] at early
  exact closed (infixBehind (by decide) (infixBefore (by decide) early))

theorem nodeValid {props : Props} (restorable : props.Restorable) : props.node.Valid := by
  unfold node
  cases h : props.innerText? with
  | none => exact openingValid restorable.quotable [' '] (by decide)
  | some inner =>
      have opens : props.kind.selfCloses = false := by rw [← innerKind, h]; rfl
      have free := restorable.tagFree opens
      have content := free _ (innerField props h)
      refine ⟨openingValid restorable.quotable [] (by simp), ?_, ?_, ?_⟩
      · intro s hs
        obtain ⟨_, field, hf, _, same⟩ := props.spellField hs
        exact same ▸ free field hf
      · have before := apartJoin (s := "\n  ".toList) (by decide) content (.inl (by decide))
        exact apartJoin before (by decide) (.inr (by simp; decide))
      · exact props.innerClosed (restorable.closed inner h)

theorem spellWritten {pair : String × String} (free : Quotable pair.2.toList) :
    (spell pair).text = ' ' :: writeAttribute pair.1 pair.2 := by
  rw [writeQuotable free]
  rfl

end Props

theorem spacedPieces {α : Type} (f : α → List Char) (first : α) (rest : List α) :
    ' ' :: [' '].intercalate ((first :: rest).map f) = (first :: rest).flatMap fun a => ' ' :: f a := by
  induction rest generalizing first with
  | nil => simp
  | cons second rest ih =>
      rw [List.map_cons, List.map_cons, List.intercalate_cons_cons, List.flatMap_cons, ← ih second]
      simp

namespace Props

theorem writePairsSpelled {pairs : Markup.Attributes} (filled : pairs ≠ [])
    (quotable : ∀ pair ∈ pairs, Quotable pair.2.toList) :
    ' ' :: writeAttributes pairs = (pairs.map spell).flatMap Spelling.text := by
  obtain ⟨first, rest, same⟩ := List.exists_cons_of_ne_nil filled
  rw [writeAttributes, same, spacedPieces, ← same, List.flatMap_map]
  exact List.flatMap_congr fun pair h => (spellWritten (quotable pair h)).symm

theorem writeAttributesSpelled {props : Props} (spellable : props.Spellable) :
    ' ' :: writeAttributes props.attributes = (props.attributes.map spell).flatMap Spelling.text := by
  refine writePairsSpelled (by cases props <;> exact List.cons_ne_nil _ _) fun pair h => ?_
  obtain ⟨field, hf, other, same⟩ := props.attributeField pair h
  exact same ▸ spellable field hf other

theorem nodeText {props : Props} (spellable : props.Spellable) : props.node.text = props.write := by
  have spelled := writeAttributesSpelled spellable
  cases h : props.innerText? <;>
    simp [write, node, opening, h, Markup.Node.text, Markup.Tag.span, ← spelled]

theorem openingElement (props : Props) (gap : List Char) (text : Option String) :
    (props.opening gap).element text = ⟨props.kind.tag, props.attributes, text⟩ := by
  rw [Tag.element, opening, spellPairs, lastValuesDistinct props.attributeNames, String.ofList_toList]

theorem nodeElement {props : Props} (restorable : props.Restorable) :
    props.node.single? = (if props.kind.selfCloses then some props.element else none) ∧
    props.node.pair? = (if props.kind.selfCloses then none else some props.element) := by
  rw [← innerKind, element]
  cases h : props.innerText? with
  | none =>
      simp only [node, h, Markup.Node.single?, Markup.Node.pair?, openingElement]
      simp
  | some inner =>
      have visible : strip ("\n  ".toList ++ inner.toList ++ ['\n']) = inner.toList := by
        rw [stripBetween (by decide) (by decide), restorable.trimmed inner h]
      have filled : inner.toList ≠ [] := by
        have text := restorable.filled _ (innerField props h)
        simpa using text
      simp only [node, h, Markup.Node.single?, Markup.Node.pair?, openingElement, visible]
      simp [filled]

theorem pickFound (attributes : Markup.Attributes) (names : List String) :
    pick? attributes names = (names.filterMap fun name => attributes.lookup name).findSome? nonEmpty := by
  unfold pick?
  induction names with
  | nil => rfl
  | cons name names ih =>
      rw [List.findSome?_cons, ih]
      cases h : attributes.lookup name with
      | none => simp [h]
      | some value => simp [h, List.findSome?_cons]

theorem fieldWritten (props : Props) : ∀ field ∈ props.fields,
    field.1.synonyms.filterMap (fun name => props.attributes.lookup name) =
      if field.1 = .text then [] else [field.2] := by
  cases props <;>
    simp only [fields, List.forall_mem_cons, List.not_mem_nil, false_implies, implies_true, and_true] <;>
    and_intros <;> rfl

theorem fieldInner (props : Props) : ∀ field ∈ props.fields, field.1 = .text → props.innerText? = some field.2 := by
  cases props <;> simp [fields, innerText?]

theorem saidElement (props : Props) : ∀ field ∈ props.fields, said? props.element field.1 = nonEmpty field.2 := by
  intro field h
  rw [said?, element, pickFound, props.fieldWritten field h]
  split
  · rename_i text
    rw [props.fieldInner field h text, List.findSome?_nil, Option.or_none, Option.bind_some]
  · simp

def initialValue (kind : Kind) (field : Field) : String := ((initial kind).fields.lookup field).getD ""

theorem initialHeld (props : Props) :
    ∀ field ∈ props.fields, (field.1, initialValue props.kind field.1) ∈ (initial props.kind).fields := by
  cases props <;>
    simp only [fields, kind, List.forall_mem_cons, List.not_mem_nil, false_implies, implies_true, and_true] <;>
    decide

theorem initialSound (kind : Kind) :
    ∀ field ∈ (initial kind).fields, field.2 ≠ "" ∧ field.1.allows field.2 = true ∧ Quotable field.2.toList := by
  cases kind <;> decide

def populated (props : Props) : Props :=
  props.mapFields fun field value =>
    if value ≠ "" ∧ field.allows value = true then value else initialValue props.kind field

theorem mapFieldsTwice (f g : Field → String → String) (props : Props) :
    (props.mapFields f).mapFields g = props.mapFields fun field value => g field (f field value) := by
  cases props <;> rfl

theorem mapFieldsSame {props : Props} {f g : Field → String → String}
    (same : ∀ field ∈ props.fields, f field.1 field.2 = g field.1 field.2) : props.mapFields f = props.mapFields g := by
  cases props <;> simp_all [mapFields, fields]

theorem buildMap (f : Field → String → String) (props : Props) :
    build props.kind f = props.mapFields fun field _ => f field (initialValue props.kind field) := by
  cases props <;> rfl

theorem ofElementElement (props : Props) : ofElement? props.element = some props.populated := by
  have kind : Kind.ofTag? props.element.tag = some props.kind := Kind.ofTagTag props.kind
  rw [ofElement?, kind, Option.map_some, buildMap, populated]
  refine congrArg some (mapFieldsSame fun field h => ?_)
  rw [fieldOf, saidElement props field h, nonEmpty]
  by_cases empty : field.2 = "" <;> simp [empty]

theorem populatedSame {props : Props} (filled : ∀ field ∈ props.fields, field.2 ≠ "")
    (allowed : ∀ field ∈ props.fields, field.1.allows field.2 = true) : props.populated = props := by
  have kept : props.mapFields (fun _ value => value) = props := by cases props <;> rfl
  rw [populated, mapFieldsSame (g := fun _ value => value), kept]
  intro field h
  rw [if_pos ⟨filled field h, allowed field h⟩]

end Props

inductive Part where
  | block (props : Props)
  | other (s : List Char)
  deriving DecidableEq, Repr

namespace Part

def text : Part → List Char
  | .block props => props.write
  | .other s => s

def props? : Part → Option Props
  | .block props => some props
  | .other _ => none

def node : Part → Node
  | .block props => props.node
  | .other s => .filler s

def Valid : Part → Prop
  | .block props => props.Restorable
  | .other s => '<' ∉ s

theorem validNode {part : Part} (valid : part.Valid) : part.node.Valid := by
  cases part with
  | block props => exact Props.nodeValid valid
  | other s => exact valid

theorem textNode {part : Part} (valid : part.Valid) : part.node.text = part.text := by
  cases part with
  | block props => exact Props.nodeText valid.quotable
  | other s => rfl

theorem shownNode {part : Part} (valid : part.Valid) :
    part.node.single?.bind Props.ofElement? = part.props?.filter (·.kind.selfCloses) ∧
    part.node.pair?.bind Props.ofElement? = part.props?.filter (!·.kind.selfCloses) := by
  cases part with
  | other s => exact ⟨rfl, rfl⟩
  | block props =>
      have read := Props.ofElementElement props
      rw [Props.populatedSame valid.filled valid.allowed] at read
      obtain ⟨single, pair⟩ := Props.nodeElement valid
      simp only [node, single, pair, props?]
      cases h : props.kind.selfCloses <;> simp [read, Option.filter, h]

end Part

theorem filterMapFilter {α β : Type} (f : α → Option β) (keep : β → Bool) (xs : List α) :
    (xs.filterMap f).filter keep = xs.filterMap fun x => (f x).filter keep := by
  induction xs with
  | nil => rfl
  | cons x xs ih =>
      cases h : f x with
      | none => simp [h, ih]
      | some y => cases k : keep y <;> simp [h, k, ih, Option.filter]

theorem shownParts {parts : List Part} (valid : ∀ part ∈ parts, part.Valid) :
    (documentElements (parts.map Part.node)).filterMap Props.ofElement? = arranged (parts.filterMap Part.props?) := by
  rw [documentElements, arranged, List.filterMap_append, filterMapFilter, filterMapFilter, List.filterMap_filterMap,
    List.filterMap_filterMap, List.filterMap_map, List.filterMap_map]
  congr 1
  · exact List.filterMap_congr fun part h => (Part.shownNode (valid part h)).1
  · exact List.filterMap_congr fun part h => (Part.shownNode (valid part h)).2

theorem propsCons (part : Part) (rest : List Part) :
    (part :: rest).filterMap Part.props? = part.props?.toList ++ rest.filterMap Part.props? := by
  cases h : part.props? <;> simp [h]

theorem apartContents {s : List Char} (clear : '<' ∉ s) {parts : List Part} (valid : ∀ part ∈ parts, part.Valid)
    {rest : List Char} (silent : elementsOf rest = []) :
    contentsOf (s.intercalate (parts.map Part.text) ++ rest) = arranged (parts.filterMap Part.props?) := by
  have read := elementsApart clear (fun part h => Part.validNode (valid part h))
    (fun part h => Part.textNode (valid part h)) silent
  rw [contentsOf, read, shownParts valid]

theorem writtenContents {s : List Char} (clear : '<' ∉ s) {contents : List Props}
    (restorable : ∀ props ∈ contents, props.Restorable) {rest : List Char} (silent : elementsOf rest = []) :
    contentsOf (s.intercalate (contents.map Props.write) ++ rest) = arranged contents := by
  have valid : ∀ part ∈ contents.map Part.block, part.Valid := by
    intro part h
    obtain ⟨props, member, rfl⟩ := List.mem_map.mp h
    exact restorable props member
  have read := apartContents clear valid silent
  have text : (contents.map Part.block).map Part.text = contents.map Props.write := by simp [Part.text]
  have shown : (contents.map Part.block).filterMap Part.props? = contents := by
    rw [List.filterMap_map]
    exact List.filterMap_some
  rwa [text, shown] at read

end EmailMarkup
