import EmailMarkup.Proofs.Block

/-! Which attribute a field is read from. What counts of a name is its last value, and of the names of a field the first
one whose last value is not empty. So attributes may be written in any order that leaves those of one name in theirs. -/
namespace EmailMarkup
open Markup (Attributes Tag Node Spelling Element documentText documentElements elementsOf elementsBefore lastValues
  ofPairsLastValues ofPairsSnoc lookupCons textChild TagFree closingTag)
open Text (strip)

def lastGiven? (pairs : List (String × String)) (name : String) : Option String :=
  ((pairs.filter (·.1 == name)).getLast?).bind fun pair => Props.nonEmpty pair.2

/-- One list is a reordering of the other, and what has the same name stands in the same order in both. -/
def Rearranged (one other : List (String × String)) : Prop :=
  ∀ name, one.filter (·.1 == name) = other.filter (·.1 == name)

theorem rearrangedListed {one other : List (String × String)} : Rearranged one other ↔
    ∀ name ∈ (one ++ other).map Prod.fst, one.filter (·.1 == name) = other.filter (·.1 == name) := by
  refine ⟨fun alike name _ => alike name, fun listed name => ?_⟩
  by_cases member : name ∈ (one ++ other).map Prod.fst
  · exact listed name member
  · have absent : ∀ pair ∈ one ++ other, ¬ (pair.1 == name) = true := by
      intro pair h same
      exact member (List.mem_map.mpr ⟨pair, h, by simpa using same⟩)
    rw [List.filter_eq_nil_iff.mpr fun pair h => absent pair (List.mem_append_left other h),
      List.filter_eq_nil_iff.mpr fun pair h => absent pair (List.mem_append_right one h)]

instance (one other) : Decidable (Rearranged one other) := decidable_of_iff _ rearrangedListed.symm

namespace Field

def chosen (pairs : List (String × String)) (inner : Option String) (field : Field) (initial : String) : String :=
  let named := field.synonyms.findSome? (lastGiven? pairs)
  ((if field = .text then inner.or named else named).filter field.allows).getD initial

end Field

namespace Markup

theorem lookupPut (attributes : Attributes) (name value key : String) :
    (attributes.put name value).lookup key = if key = name then some value else attributes.lookup key := by
  induction attributes with
  | nil => exact lookupCons name key value []
  | cons pair rest ih =>
      obtain ⟨other, old⟩ := pair
      by_cases known : other = name
      · subst known
        rw [Attributes.put, if_pos rfl, lookupCons, lookupCons]
        split <;> rfl
      · rw [Attributes.put, if_neg known, lookupCons, lookupCons, ih]
        grind

theorem lookupLastValues (pairs : List (String × String)) (name : String) :
    (lastValues pairs).lookup name = ((pairs.filter (·.1 == name)).getLast?).map Prod.snd := by
  rw [← ofPairsLastValues]
  induction pairs using List.reverseRecOn with
  | nil => rfl
  | append_singleton pairs pair ih =>
      rw [ofPairsSnoc, lookupPut, ih, List.filter_append]
      by_cases same : pair.1 = name
      · simp [same]
      · simp [same, Ne.symm same]

end Markup

namespace Props

theorem pickLastValues (pairs : List (String × String)) (names : List String) :
    pick? (lastValues pairs) names = names.findSome? (lastGiven? pairs) := by
  unfold pick?
  congr 1
  funext name
  rw [Markup.lookupLastValues, lastGiven?, Option.bind_map]
  rfl

theorem innerFilled (content : List Char) : (textChild content).bind nonEmpty = textChild content := by
  unfold textChild
  split
  · rfl
  · rename_i visible
    have filled : String.ofList (strip content) ≠ "" := by simpa [← String.toList_inj] using visible
    simp [nonEmpty, filled]

theorem fieldOfSaid (element : Element) (field : Field) (initial : String) :
    fieldOf element field initial = ((said? element field).filter field.allows).getD initial := by
  unfold fieldOf
  cases said? element field with
  | none => rfl
  | some value => cases fits : field.allows value <;> simp [fits, Option.filter]

theorem fieldOfChosen {tag : String} {pairs : List (String × String)} {inner : Option String}
    (filled : inner.bind nonEmpty = inner) : fieldOf ⟨tag, lastValues pairs, inner⟩ = Field.chosen pairs inner := by
  funext field initial
  simp only [fieldOfSaid, said?, Field.chosen, pickLastValues, filled]

end Props

theorem chosenRearranged {one other : List (String × String)} (alike : Rearranged one other) :
    Field.chosen one = Field.chosen other := by
  have same : lastGiven? one = lastGiven? other := funext fun name => by rw [lastGiven?, alike name, lastGiven?]
  funext inner field initial
  simp only [Field.chosen, same]

def Markup.Tag.node (tag : Tag) : Option (List Char) → Node
  | none => .single tag
  | some content => .pair tag content

def Markup.Tag.pairs (tag : Tag) : List (String × String) := tag.spellings.map Spelling.pair

theorem contentsNode {tag : Tag} {inner : Option (List Char)} (valid : (tag.node inner).Valid) {kind : Kind}
    (known : Kind.ofTag? (String.ofList tag.name) = some kind) :
    contentsOf (tag.node inner).text = [Props.build kind (Field.chosen tag.pairs (inner.bind textChild))] := by
  have read : elementsOf (documentText [tag.node inner] ++ []) = documentElements [tag.node inner] :=
    elementsBefore (by simpa using valid) rfl
  have element : documentElements [tag.node inner] = [tag.element (inner.bind textChild)] := by
    cases inner with
    | none => rfl
    | some content => simp [Tag.node, documentElements, Node.single?, Node.pair?, textChild]
  have filled : (inner.bind textChild).bind Props.nonEmpty = inner.bind textChild := by
    cases inner with
    | none => rfl
    | some content => exact Props.innerFilled content
  have shown : Props.ofElement? (tag.element (inner.bind textChild)) =
      some (Props.build kind (Field.chosen tag.pairs (inner.bind textChild))) := by
    rw [Tag.element, Props.ofElement?, known, Option.map_some, Props.fieldOfChosen filled]
    rfl
  simp only [documentText, List.flatMap_singleton, List.append_nil] at read
  rw [contentsOf, read, element, List.filterMap_cons_some shown]
  rfl

theorem readsRearranged {one other : Tag} {inner : Option (List Char)} (valid : (one.node inner).Valid)
    (valid' : (other.node inner).Valid) {kind : Kind} (known : Kind.ofTag? (String.ofList one.name) = some kind)
    (named : other.name = one.name) (alike : Rearranged one.pairs other.pairs) (ids later : Ids) :
    (Email.read (String.ofList (one.node inner).text) ids).1.contents =
      [Props.build kind (Field.chosen one.pairs (inner.bind textChild))] ∧
    (Email.read (String.ofList (other.node inner).text) later).1.contents =
      (Email.read (String.ofList (one.node inner).text) ids).1.contents := by
  simp only [readContents, String.toList_ofList, contentsNode valid known, contentsNode valid' (named ▸ known),
    chosenRearranged alike, and_self]

def orderlyTag : Tag :=
  ⟨"Button".toList, [⟨[' '], "bgColor".toList, .double, "#111".toList⟩, ⟨[' '], "color".toList, .single, "\"x\"".toList⟩,
    ⟨[' '], "bgColor".toList, .double, []⟩, ⟨[' '], "backgroundColor".toList, .braces, "a > 'b'".toList⟩,
    ⟨[' '], "textColor".toList, .single, []⟩], []⟩

def shuffledTag : Tag :=
  ⟨"Button".toList, [⟨['\n'], "textColor".toList, .double, []⟩, ⟨['\n'], "backgroundColor".toList, .braces,
    "a > 'b'".toList⟩, ⟨['\n'], "bgColor".toList, .braces, "#111".toList⟩, ⟨['\n'], "bgColor".toList, .single, []⟩,
    ⟨['\n'], "color".toList, .braces, "\"x\"".toList⟩], ['\n']⟩

def shownButton : Props := .button { text := "Go", backgroundColor := "a > 'b'", textColor := "\"x\"" }

theorem readsRearrangedButton :
    (orderlyTag.node (some " Go\n".toList)).Valid ∧ (shuffledTag.node (some " Go\n".toList)).Valid ∧
    Kind.ofTag? (String.ofList orderlyTag.name) = some .button ∧ shuffledTag.name = orderlyTag.name ∧
    Rearranged orderlyTag.pairs shuffledTag.pairs ∧
    (Email.read (String.ofList (orderlyTag.node (some " Go\n".toList)).text) Ids.numbered).1.contents = [shownButton] ∧
    (Email.read ("<Button\ntextColor=\"\"\nbackgroundColor=\x7ba > 'b'\x7d\nbgColor=\x7b#111\x7d\nbgColor=''\n" ++
      "color=\x7b\"x\"\x7d\n> Go\n</Button>") Ids.numbered).1.contents = [shownButton] := by
  have valid : (orderlyTag.node (some " Go\n".toList)).Valid := by decide
  have valid' : (shuffledTag.node (some " Go\n".toList)).Valid := by decide
  have alike : Rearranged orderlyTag.pairs shuffledTag.pairs := by decide
  have known : Kind.ofTag? (String.ofList orderlyTag.name) = some .button := by decide
  obtain ⟨first, second⟩ := readsRearranged valid valid' known rfl alike Ids.numbered Ids.numbered
  have shown : Props.build .button (Field.chosen orderlyTag.pairs ((some " Go\n".toList).bind textChild)) = shownButton := by
    decide
  rw [shown] at first
  exact ⟨valid, valid', known, rfl, alike, first, second.trans first⟩

end EmailMarkup
