import EmailMarkup.Proofs.Arrival
import EmailMarkup.Proofs.Canonical
import EmailMarkup.Proofs.Reopened

/-! Templates carried from file to file. What is read from a file has no carriage return, and nothing on the way from
there to the markup that is exported brings one in. So the exported file is read back as it was written. -/
namespace EmailMarkup
open Files (readBack)
open Markup (Node Element Tag writeAttribute writeAttributes documentText documentElements elementSpelled)

namespace Markup

structure Element.Within (element : Element) (s : List Char) : Prop where
  attributes : ∀ pair ∈ element.attributes, pair.2.toList ⊆ s
  text : ∀ inner ∈ element.text, inner.toList ⊆ s

theorem valueInside {tag : Tag} {s : Spelling} (spelled : s ∈ tag.spellings) : s.value ⊆ tag.span := by
  intro c inside
  refine List.mem_append_left _ (List.mem_flatMap.mpr ⟨s, spelled, ?_⟩)
  simp [Spelling.text, enclose, inside]

theorem tagWithin {tag : Tag} {text : Option String} {s : List Char} (span : tag.span ⊆ s)
    (inner : ∀ inner ∈ text, inner.toList ⊆ s) : (tag.element text).Within s where
  attributes := by
    intro pair h
    obtain ⟨spelling, spelled, rfl⟩ := elementSpelled pair h
    rw [Spelling.pair, String.toList_ofList]
    exact List.Subset.trans (valueInside spelled) span
  text := inner

theorem nodeWithin (node : Node) :
    (∀ element ∈ node.single?, element.Within node.text) ∧ ∀ element ∈ node.pair?, element.Within node.text := by
  cases node with
  | filler s => exact ⟨by simp [Node.single?], by simp [Node.pair?]⟩
  | single tag =>
      refine ⟨fun element shown => ?_, by simp [Node.pair?]⟩
      cases Option.some.inj shown
      exact tagWithin (fun c inside => by simp [Node.text, inside]) (by simp)
  | pair tag content =>
      refine ⟨by simp [Node.single?], fun element shown => ?_⟩
      cases Option.some.inj shown
      refine tagWithin (fun c inside => by simp [Node.text, inside]) fun inner some => ?_
      split at some <;> cases some
      intro c inside
      rw [String.toList_ofList] at inside
      have part := (Text.stripInfix content).subset inside
      simp [Node.text, part]

theorem documentWithin (nodes : List Node) :
    ∀ element ∈ documentElements nodes, element.Within (documentText nodes) := by
  have widen {node : Node} {element : Element} (member : node ∈ nodes) (within : element.Within node.text) :
      element.Within (documentText nodes) := by
    have inside : node.text ⊆ documentText nodes := fun _ here => List.mem_flatMap.mpr ⟨node, member, here⟩
    exact ⟨fun pair h => List.Subset.trans (within.attributes pair h) inside,
      fun inner h => List.Subset.trans (within.text inner h) inside⟩
  intro element h
  rcases List.mem_append.mp h with h | h <;> obtain ⟨node, member, shown⟩ := List.mem_filterMap.mp h
  · exact widen member ((nodeWithin node).1 element shown)
  · exact widen member ((nodeWithin node).2 element shown)

theorem attributeNoReturn {name value : String} (named : '\r' ∉ name.toList) (free : '\r' ∉ value.toList) :
    '\r' ∉ writeAttribute name value := by
  have entities : '\r' ∉ withoutDoubleQuotes value.toList := by
    intro inside
    obtain ⟨c, member, here⟩ := List.mem_flatMap.mp inside
    split at here
    · exact absurd here (by decide)
    · exact free (List.mem_singleton.mp here ▸ member)
  unfold writeAttribute
  dsimp only
  split_ifs <;> simp [enclose, named, free, entities]

end Markup

namespace Props

theorem withinOrigin {element : Element} {s : List Char} (within : element.Within s) {props : Props}
    (read : ofElement? element = some props) :
    ∀ field ∈ props.fields, field.2.toList ⊆ s ∨ field ∈ (initial props.kind).fields := by
  obtain ⟨kind, named, rfl⟩ := Option.map_eq_some_iff.mp read
  intro field h
  rw [buildKind]
  refine (fieldOrigin kind element field h).imp_left fun said => ?_
  rcases (saidOrigin said).2 with ⟨_, between⟩ | ⟨name, _, given⟩
  · exact within.text _ between
  · exact within.attributes _ given

theorem initialNoReturn (kind : Kind) : ∀ field ∈ (initial kind).fields, '\r' ∉ field.2.toList := by
  cases kind <;> decide

theorem writeNoReturn {props : Props} (free : ∀ field ∈ props.fields, '\r' ∉ field.2.toList) :
    '\r' ∉ props.write := by
  have sign : Text.isWord '\r' = false := by decide
  have tag : '\r' ∉ props.kind.tag.toList := Text.outsideAll (tagWord props.kind).2 sign
  have attributes : '\r' ∉ writeAttributes props.attributes := by
    intro inside
    rcases Text.joinedMember inside with blank | ⟨piece, listed, here⟩
    · exact absurd (List.mem_singleton.mp blank) (by decide)
    · obtain ⟨pair, member, rfl⟩ := List.mem_map.mp listed
      obtain ⟨field, held, -, same⟩ := props.attributeField pair member
      have name : '\r' ∉ pair.1.toList := Text.outsideAll (props.attributeWord member).2 sign
      exact Markup.attributeNoReturn name (same ▸ free field held) here
  unfold write
  cases between : props.innerText? with
  | none => simp [tag, attributes]
  | some inner => simp [tag, attributes, Markup.closingTag, free _ (props.innerField between)]

end Props

theorem writtenBack {email : Email}
    (free : ∀ props ∈ email.contents, ∀ field ∈ props.fields, '\r' ∉ field.2.toList) :
    readBack email.write = email.write := by
  rw [Files.readBackSame, Email.write, String.toList_ofList, Email.writeContents]
  constructor
  · intro inside
    rcases Text.joinedMember inside with feed | ⟨piece, listed, here⟩
    · exact absurd feed (by decide)
    · obtain ⟨props, member, rfl⟩ := List.mem_map.mp listed
      exact Props.writeNoReturn (free props member) here
  · cases email.contents with
    | nil => simp [List.intercalate_nil]
    | cons props rest =>
        obtain ⟨inside, text⟩ := Stream.writeEnds props
        cases rest with
        | nil => simp [text]
        | cons second rest => simp [text, List.intercalate_cons_cons]

theorem documentNoReturn {nodes : List Node} (valid : ∀ node ∈ nodes, node.Valid)
    (plain : '\r' ∉ documentText nodes) :
    ∀ props ∈ contentsOf (documentText nodes), ∀ field ∈ props.fields, '\r' ∉ field.2.toList := by
  rw [documentContents valid]
  intro props h field held
  obtain ⟨element, member, shown⟩ := List.mem_filterMap.mp h
  rcases Props.withinOrigin (Markup.documentWithin nodes element member) shown field held with within | initial
  · exact fun inside => plain (within inside)
  · exact Props.initialNoReturn props.kind field initial

end EmailMarkup
