import EmailMarkup.Proofs.Form
import EmailMarkup.Proofs.RoundTrip

/-! Documents brought into canonical form. However a document spells its tags, names and values, what is read from it
can be written again: a value lacks the closer of its own quoting, and the text between two tags is trimmed and free of
the closing tag. So one pass of reading and writing settles the email. -/
namespace EmailMarkup
open Markup (Element Node Quotable TagFree closingTag apartWithout documentText documentElements elementsOf elementsBefore)
open Text (strip stripTwice stripInfix)

namespace Markup

theorem putMember {attributes : Attributes} {name value : String} {pair : String × String}
    (h : pair ∈ attributes.put name value) : pair ∈ attributes ∨ pair = (name, value) := by
  induction attributes with
  | nil => exact .inr (List.mem_singleton.mp h)
  | cons first rest ih =>
      obtain ⟨other, old⟩ := first
      unfold Attributes.put at h
      split at h
      · rcases List.mem_cons.mp h with rfl | later
        · exact .inr rfl
        · exact .inl (List.mem_cons_of_mem _ later)
      · rcases List.mem_cons.mp h with rfl | later
        · exact .inl List.mem_cons_self
        · exact (ih later).imp_left (List.mem_cons_of_mem _)

theorem lastValuesMember {pairs : List (String × String)} {pair : String × String} (h : pair ∈ lastValues pairs) :
    pair ∈ pairs := by
  rw [← ofPairsLastValues] at h
  induction pairs using List.reverseRecOn with
  | nil => contradiction
  | append_singleton pairs last ih =>
      rw [ofPairsSnoc] at h
      rw [List.mem_append, List.mem_singleton]
      exact (putMember h).imp_left ih

theorem closerQuotable {quoting : Quoting} {value : List Char} (free : quoting.closer ∉ value) : Quotable value := by
  rintro ⟨double, single, brace⟩
  cases quoting with
  | double => exact free double
  | single => exact free single
  | braces => exact free brace

/- Only the tags of headings, texts and buttons are restrained: no attribute of theirs takes the place of the inner
text, and none opens a tag. -/
def Tag.Tame (tag : Tag) : Prop :=
  ∀ kind ∈ Kind.ofTag? (String.ofList tag.name), kind.selfCloses = false →
    ∀ s ∈ tag.spellings, String.ofList s.name ≠ "children" ∧ TagFree s.value
instance (tag) : Decidable (Tag.Tame tag) := by unfold Tag.Tame; infer_instance

def Node.Tame : Node → Prop
  | .filler _ => True
  | .single tag => tag.Tame
  | .pair tag _ => tag.Tame
instance (node) : Decidable (Node.Tame node) :=
  match node with
  | .filler _ => .isTrue trivial
  | .single tag => inferInstanceAs (Decidable tag.Tame)
  | .pair tag _ => inferInstanceAs (Decidable tag.Tame)

structure Element.Tidy (element : Element) : Prop where
  quotable : ∀ pair ∈ element.attributes, Quotable pair.2.toList
  tame : ∀ kind ∈ Kind.ofTag? element.tag, kind.selfCloses = false →
    ∀ pair ∈ element.attributes, pair.1 ≠ "children" ∧ TagFree pair.2.toList
  trimmed : ∀ inner ∈ element.text, strip inner.toList = inner.toList
  closed : ∀ inner ∈ element.text, ¬ closingTag element.tag.toList <:+: inner.toList
  tagFree : ∀ inner ∈ element.text, TagFree inner.toList

theorem elementSpelled {tag : Tag} {text : Option String} :
    ∀ pair ∈ (tag.element text).attributes, ∃ s ∈ tag.spellings, s.pair = pair :=
  fun _ h => List.mem_map.mp (lastValuesMember h)

theorem tagTidy {tag : Tag} (valid : tag.Valid) (tame : tag.Tame) {text : Option String}
    (inner : ∀ inner ∈ text, strip inner.toList = inner.toList ∧ ¬ closingTag tag.name <:+: inner.toList ∧
      TagFree inner.toList) : (tag.element text).Tidy where
  quotable := by
    intro pair h
    obtain ⟨s, spelled, rfl⟩ := elementSpelled pair h
    rw [Spelling.pair, String.toList_ofList]
    exact closerQuotable (valid.2.1 s spelled).2.2
  tame := by
    intro kind named opens pair h
    obtain ⟨s, spelled, rfl⟩ := elementSpelled pair h
    rw [Spelling.pair, String.toList_ofList]
    exact tame kind named opens s spelled
  trimmed := fun _ h => (inner _ h).1
  closed := by
    rw [Tag.element, String.toList_ofList]
    exact fun _ h => (inner _ h).2.1
  tagFree := fun _ h => (inner _ h).2.2

theorem nodeTidy {node : Node} (valid : node.Valid) (tame : node.Tame) :
    (∀ element ∈ node.single?, element.Tidy) ∧ ∀ element ∈ node.pair?, element.Tidy := by
  cases node with
  | filler s => exact ⟨by simp [Node.single?], by simp [Node.pair?]⟩
  | single tag =>
      refine ⟨fun element shown => ?_, by simp [Node.pair?]⟩
      cases Option.some.inj shown
      exact tagTidy valid tame (by simp)
  | pair tag content =>
      refine ⟨by simp [Node.single?], fun element shown => ?_⟩
      obtain ⟨tagValid, _, free, absent⟩ := valid
      cases Option.some.inj shown
      refine tagTidy tagValid tame fun inner some => ?_
      split at some <;> cases some
      -- The text between the tags is a part of the content.
      have part := stripInfix content
      rw [String.toList_ofList]
      refine ⟨stripTwice content, fun early => absent (early.trans part), ?_⟩
      obtain ⟨before, after, whole⟩ := part
      rw [← whole] at free
      exact apartSuffix (apartPrefix free (List.prefix_append _ _)) (List.suffix_append _ _)

theorem documentTidy {nodes : List Node} (valid : ∀ node ∈ nodes, node.Valid) (tame : ∀ node ∈ nodes, node.Tame) :
    ∀ element ∈ documentElements nodes, element.Tidy := by
  intro element h
  rcases List.mem_append.mp h with h | h <;> obtain ⟨node, member, shown⟩ := List.mem_filterMap.mp h
  · exact (nodeTidy (valid node member) (tame node member)).1 element shown
  · exact (nodeTidy (valid node member) (tame node member)).2 element shown

end Markup

theorem Kind.ofTagOpens {tag : String} {kind : Kind} (named : ofTag? tag = some kind)
    (opens : kind.selfCloses = false) : tag = kind.tag := by
  have single : ∀ pair ∈ tags, pair.2.selfCloses = false → pair.1 = pair.2.tag := by decide
  obtain ⟨before, after, same, _⟩ := List.lookup_eq_some_iff.mp named
  exact single (tag, kind) (by simp [same]) opens

namespace Props

theorem fieldOrigin (kind : Kind) (element : Element) : ∀ field ∈ (build kind (fieldOf element)).fields,
    said? element field.1 = some field.2 ∨ field ∈ (initial kind).fields := by
  rw [build, fieldsMap, List.forall_mem_map]
  rintro ⟨field, value⟩ h
  dsimp only
  unfold fieldOf
  split
  · rename_i said
    split
    · exact .inl said
    · exact .inr h
  · exact .inr h

theorem initialClear (kind : Kind) :
    ∀ field ∈ (initial kind).fields, '<' ∉ field.2.toList ∧ strip field.2.toList = field.2.toList := by
  cases kind <;> decide

section Tidy

variable {element : Element} (tidy : element.Tidy) {kind : Kind} (named : Kind.ofTag? element.tag = some kind)
include tidy named

theorem attributeTidy {field : Field} {value : String} (other : field ≠ .text)
    (origin : said? element field = some value ∨ (field, value) ∈ (initial kind).fields) :
    Quotable value.toList ∧ (kind.selfCloses = false → TagFree value.toList) := by
  rcases origin with said | held
  · rcases (saidOrigin said).2 with ⟨text, _⟩ | ⟨name, _, given⟩
    · contradiction
    · exact ⟨tidy.quotable _ given, fun opens => (tidy.tame _ named opens _ given).2⟩
  · exact ⟨(initialSound kind _ held).2.2, fun _ => apartWithout (initialClear kind _ held).1⟩

theorem innerTidy (opens : kind.selfCloses = false) {inner : String}
    (origin : said? element .text = some inner ∨ (.text, inner) ∈ (initial kind).fields) :
    strip inner.toList = inner.toList ∧ ¬ closingTag kind.tag.toList <:+: inner.toList ∧ TagFree inner.toList := by
  rcases origin with said | held
  · rcases (saidOrigin said).2 with ⟨_, between⟩ | ⟨name, listed, given⟩
    · rw [← Kind.ofTagOpens named opens]
      exact ⟨tidy.trimmed inner between, tidy.closed inner between, tidy.tagFree inner between⟩
    · exact absurd (List.mem_singleton.mp listed) (tidy.tame _ named opens _ given).1
  · obtain ⟨clear, trimmed⟩ := initialClear kind _ held
    exact ⟨trimmed, fun early => clear (early.subset List.mem_cons_self), apartWithout clear⟩

end Tidy

theorem tidyRestorable {element : Element} (tidy : element.Tidy) {props : Props}
    (read : ofElement? element = some props) : props.Restorable := by
  obtain ⟨kind, named, rfl⟩ := Option.map_eq_some_iff.mp read
  have sound := buildSound kind fun _ _ => fieldOfSound element
  have origin := fieldOrigin kind element
  have same := buildKind kind (fieldOf element)
  generalize build kind (fieldOf element) = props at *
  subst same
  have inner : ∀ inner ∈ props.innerText?, _ := fun inner h =>
    have opens : props.kind.selfCloses = false := by rw [← innerKind, h]; rfl
    innerTidy tidy named opens (origin _ (innerField props h))
  exact {
    filled := fun field h => (sound field h).1
    allowed := fun field h => (sound field h).2
    quotable := fun field h other => (attributeTidy tidy named other (origin field h)).1
    trimmed := fun text h => (inner text h).1
    closed := fun text h => (inner text h).2.1
    tagFree := by
      rintro opens ⟨field, value⟩ h
      by_cases text : field = .text
      · subst text
        exact (innerTidy tidy named opens (origin _ h)).2.2
      · exact (attributeTidy tidy named text (origin _ h)).2 opens }

end Props

theorem documentContents {nodes : List Node} (valid : ∀ node ∈ nodes, node.Valid) :
    contentsOf (documentText nodes) = (documentElements nodes).filterMap Props.ofElement? := by
  have read : elementsOf (documentText nodes ++ []) = documentElements nodes := elementsBefore valid rfl
  rw [contentsOf, ← read, List.append_nil]

theorem documentRestorable {nodes : List Node} (valid : ∀ node ∈ nodes, node.Valid) (tame : ∀ node ∈ nodes, node.Tame) :
    ∀ props ∈ contentsOf (documentText nodes), props.Restorable := by
  rw [documentContents valid]
  intro props h
  obtain ⟨element, member, shown⟩ := List.mem_filterMap.mp h
  exact Props.tidyRestorable (Markup.documentTidy valid tame element member) shown

theorem settlesDocument (nodes : List Node) (valid : ∀ node ∈ nodes, node.Valid) (tame : ∀ node ∈ nodes, node.Tame)
    (ids later last : Ids) :
    let read := (Email.read (String.ofList (documentText nodes)) ids).1
    let settled := (Email.read read.write later).1
    settled.contents = arranged read.contents ∧ (Email.read settled.write last).1.contents = settled.contents := by
  intro read settled
  have restorable : ∀ props ∈ read.contents, props.Restorable := by
    rw [readContents, String.toList_ofList]
    exact documentRestorable valid tame
  have first : settled.contents = arranged read.contents := writeReadContents restorable later
  have again : ∀ props ∈ settled.contents, props.Restorable := first ▸ arrangedRestorable restorable
  refine ⟨first, ?_⟩
  rw [writeReadContents again last, first, arrangedTwice]

def roughNodes : List Node :=
  [.filler "> ".toList,
    .single ⟨"Heading".toList, [⟨[' '], "headingLevel".toList, .double, "h9".toList⟩,
      ⟨['\n'], "color".toList, .braces, "it's \"red\"".toList⟩], []⟩,
    .pair ⟨"Image".toList, [⟨[' '], "src".toList, .single, "\"/>".toList⟩, ⟨[' '], "alt".toList, .double, []⟩], [' ']⟩
      "unseen".toList,
    .single ⟨"Box".toList, [⟨[' '], "children".toList, .single, "<Text>".toList⟩], [' ']⟩,
    .filler "\n".toList,
    .pair ⟨"Button".toList, [⟨[' '], "bgColor".toList, .single, "red".toList⟩], []⟩ " 1 < 2 </Text>\n ".toList,
    .single ⟨"Divider".toList, [⟨[' '], "color".toList, .double, "<Hr".toList⟩], [' ']⟩]

theorem settlesRoughNodes : (∀ node ∈ roughNodes, node.Valid) ∧ (∀ node ∈ roughNodes, node.Tame) ∧
    String.ofList (documentText roughNodes) = "> <Heading headingLevel=\"h9\"\ncolor=\x7bit's \"red\"\x7d/>" ++
      "<Image src='\"/>' alt=\"\" >unseen</Image><Box children='<Text>' />\n" ++
      "<Button bgColor='red'> 1 < 2 </Text>\n </Button><Divider color=\"<Hr\" />" ∧
    ∃ read settled, read = (Email.read (String.ofList (documentText roughNodes)) Ids.numbered).1 ∧
      settled = (Email.read read.write Ids.numbered).1 ∧
      read.contents = [.heading { color := "it's \"red\"" }, .divider { borderColor := "<Hr" },
        .image { src := "\"/>" }, .button { text := "1 < 2 </Text>", backgroundColor := "red" }] ∧
      settled.contents = [.divider { borderColor := "<Hr" }, .image { src := "\"/>" },
        .heading { color := "it's \"red\"" }, .button { text := "1 < 2 </Text>", backgroundColor := "red" }] ∧
      (Email.read settled.write Ids.numbered).1.contents = settled.contents := by
  have valid : ∀ node ∈ roughNodes, node.Valid := by decide
  have tame : ∀ node ∈ roughNodes, node.Tame := by decide
  obtain ⟨arranges, stays⟩ := settlesDocument roughNodes valid tame Ids.numbered Ids.numbered Ids.numbered
  have shown : (Email.read (String.ofList (documentText roughNodes)) Ids.numbered).1.contents =
      [.heading { color := "it's \"red\"" }, .divider { borderColor := "<Hr" }, .image { src := "\"/>" },
        .button { text := "1 < 2 </Text>", backgroundColor := "red" }] := by
    rw [readContents, String.toList_ofList]
    decide +kernel
  rw [shown] at arranges
  exact ⟨valid, tame, by decide +kernel, _, _, rfl, rfl, shown, arranges, stays⟩

end EmailMarkup
