import EmailMarkup.Proofs.Block

/-! Images and dividers with any fields. Whatever a value holds, it ends neither its attribute nor its tag, so every
block is read back as one component of its kind. A field changes only if it is empty or leaves no form of quoting free,
and after one round nothing changes any more. -/
namespace EmailMarkup
open Markup (Node writeAttributes writePairsLegible elementsOf documentElements elementsApart legibleQuotable legibleFilled
  legibleSame)

namespace Props

def legible (props : Props) : Props :=
  props.mapFields fun field value => if field = .text then value else Markup.legible value

def settledValue (kind : Kind) (field : Field) (value : String) : String :=
  if value = "" then initialValue kind field else Markup.legible value

def settled (props : Props) : Props := props.mapFields (settledValue props.kind)

theorem legibleSpellable (props : Props) : props.legible.Spellable := by
  rintro field h
  rw [legible, fieldsMap] at h
  obtain ⟨⟨name, value⟩, _, rfl⟩ := List.mem_map.mp h
  intro other
  dsimp only at other ⊢
  rw [if_neg other]
  exact legibleQuotable value

theorem attributesLegible (props : Props) :
    props.legible.attributes = props.attributes.map fun (name, value) => (name, Markup.legible value) := by
  cases props <;> rfl

theorem writeLegible (props : Props) : props.legible.write = props.write := by
  have attributes : writeAttributes props.legible.attributes = writeAttributes props.attributes := by
    rw [attributesLegible, writePairsLegible]
  have kind : props.legible.kind = props.kind := mapFieldsKind _ props
  have inner : props.legible.innerText? = props.innerText? := by cases props <;> rfl
  rw [write, write, attributes, kind, inner]

theorem fieldsFree {props : Props} (closes : props.kind.selfCloses = true) :
    ∀ field ∈ props.fields, field.1 ≠ .text ∧ ∀ value, field.1.allows value = true := by
  cases props with
  | image i => simp [fields, Field.allows, Field.choices?]
  | divider d => simp [fields, Field.allows, Field.choices?]
  | _ => contradiction

theorem populatedLegible {props : Props} (closes : props.kind.selfCloses = true) :
    props.legible.populated = props.settled := by
  rw [populated, legible, mapFieldsTwice, mapFieldsKind, settled]
  refine mapFieldsSame fun field h => ?_
  obtain ⟨other, free⟩ := fieldsFree closes field h
  by_cases empty : field.2 = ""
  · have nothing : Markup.legible "" = "" := rfl
    simp [settledValue, other, empty, nothing]
  · simp [settledValue, other, free, empty, legibleFilled empty]

def block (props : Props) : Node := .single (props.legible.opening [' '])

theorem innerLegible {props : Props} (closes : props.kind.selfCloses = true) : props.legible.innerText? = none := by
  rwa [← Option.isNone_iff_eq_none, innerKind, legible, mapFieldsKind]

theorem blockValid (props : Props) : props.block.Valid := openingValid props.legibleSpellable [' '] (by decide)

theorem blockText {props : Props} (closes : props.kind.selfCloses = true) : props.block.text = props.write := by
  have node : props.block = props.legible.node := by rw [node, innerLegible closes, block]
  rw [node, nodeText props.legibleSpellable, writeLegible]

theorem blockRead {props : Props} (closes : props.kind.selfCloses = true) :
    props.block.single?.bind ofElement? = some props.settled := by
  have element : (props.legible.opening [' ']).element none = props.legible.element := by
    rw [openingElement, element, innerLegible closes]
  rw [block, Node.single?, element, Option.bind_some, ofElementElement, populatedLegible closes]

theorem settledKind (props : Props) : props.settled.kind = props.kind := mapFieldsKind _ props

theorem settledTwice (props : Props) : props.settled.settled = props.settled := by
  rw [settled, settled, mapFieldsKind, mapFieldsTwice]
  refine mapFieldsSame fun field h => ?_
  obtain ⟨filled, _, quotable⟩ := initialSound props.kind _ (initialHeld props field h)
  dsimp only at filled quotable
  by_cases empty : field.2 = ""
  · simp [settledValue, empty, filled, legibleSame quotable]
  · simp [settledValue, empty, legibleFilled empty, legibleSame (legibleQuotable field.2)]

end Props

theorem settlesContents {s : List Char} (clear : '<' ∉ s) {contents : List Props}
    (close : ∀ props ∈ contents, props.kind.selfCloses = true) :
    contentsOf (s.intercalate (contents.map Props.write)) = contents.map Props.settled := by
  have silent : elementsOf [] = [] := rfl
  have read := elementsApart clear (fun props _ => Props.blockValid props)
    (fun props h => Props.blockText (close props h)) silent
  have none : (contents.map Props.block).filterMap Node.pair? = [] := by
    rw [List.filterMap_map]
    exact List.filterMap_eq_nil_iff.mpr fun props _ => rfl
  rw [List.append_nil, documentElements, none, List.append_nil] at read
  rw [contentsOf, read, List.filterMap_filterMap, List.filterMap_map, ← List.filterMap_eq_map]
  exact List.filterMap_congr fun props h => Props.blockRead (close props h)

theorem settlesRead {email : Email} (close : ∀ props ∈ email.contents, props.kind.selfCloses = true) (ids : Ids) :
    (Email.read email.write ids).1.contents = email.contents.map Props.settled := by
  rw [readContents, Email.write, String.toList_ofList]
  exact settlesContents (by decide) close

theorem settlesSelfClosing (email : Email) (close : ∀ props ∈ email.contents, props.kind.selfCloses = true)
    (ids later : Ids) :
    (Email.read email.write ids).1.contents = email.contents.map Props.settled ∧
    (Email.read email.write ids).1.contents.map Props.kind = email.contents.map Props.kind ∧
    (Email.read (Email.read email.write ids).1.write later).1.contents = (Email.read email.write ids).1.contents := by
  have first := settlesRead close ids
  have kinds : (email.contents.map Props.settled).map Props.kind = email.contents.map Props.kind := by
    rw [List.map_map]
    exact List.map_congr_left fun props _ => props.settledKind
  have still : ∀ props ∈ (Email.read email.write ids).1.contents, props.kind.selfCloses = true := by
    intro props h
    rw [first] at h
    obtain ⟨old, member, rfl⟩ := List.mem_map.mp h
    rw [old.settledKind]
    exact close old member
  refine ⟨first, by rw [first, kinds], ?_⟩
  rw [settlesRead still later, first, List.map_map]
  exact List.map_congr_left fun props _ => props.settledTwice

def hostileEmail : Email :=
  [⟨.str "a", .image ⟨"\"/><Text>x</Text>", "", "'\"\x7d"⟩⟩,
    ⟨.str "b", .divider ⟨"\"' />\n<Hr color='red' />", "\x7b\""⟩⟩]

theorem settlesHostileEmail : (∀ props ∈ hostileEmail.contents, props.kind.selfCloses = true) ∧
    (Email.read hostileEmail.write Ids.numbered).1.contents =
      [.image ⟨"\"/><Text>x</Text>", "Image description", "'&quot;\x7d"⟩,
        .divider ⟨"\"' />\n<Hr color='red' />", "\x7b\""⟩] := by
  have close : ∀ props ∈ hostileEmail.contents, props.kind.selfCloses = true := by decide
  exact ⟨close, (settlesSelfClosing hostileEmail close Ids.numbered Ids.numbered).1.trans (by decide)⟩

end EmailMarkup
