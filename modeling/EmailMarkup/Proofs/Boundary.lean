import EmailMarkup.Proofs.Block

/-! Where the blocks of a written email end. Each block can be taken off the front of a text, whatever stands behind it,
and what it says about its component comes out as it was, empty and untrimmed fields too. So no two emails that show
different things are written in the same way. -/
namespace EmailMarkup
open Markup (Element Reader selfClosing? paired? closingTag Quotable selfClosingSingle selfClosingPair pairedPair
  ofHeadTag)

def block? : Reader Element := fun s =>
  match selfClosing? s with
  | some (head, after) => some (Element.ofHead head none, after)
  | none => (paired? s).map fun ((head, content), after) => (Element.ofHead head (some (String.ofList content)), after)

namespace Props

structure Separable (props : Props) : Prop where
  quotable : ∀ field ∈ props.fields, field.1 ≠ .text → Quotable field.2.toList
  closed : ∀ inner ∈ props.innerText?, ¬ closingTag props.kind.tag.toList <:+: inner.toList

structure Unmarked (props : Props) : Prop where
  clear : ∀ field ∈ props.fields, '<' ∉ field.2.toList
  quotable : ∀ field ∈ props.fields, field.1 ≠ .text → Quotable field.2.toList

instance (props : Props) : Decidable props.Unmarked :=
  decidable_of_iff ((∀ field ∈ props.fields, '<' ∉ field.2.toList) ∧
      ∀ field ∈ props.fields, field.1 ≠ .text → Quotable field.2.toList)
    ⟨fun both => ⟨both.1, both.2⟩, fun unmarked => ⟨unmarked.clear, unmarked.quotable⟩⟩

theorem Unmarked.separable {props : Props} (unmarked : props.Unmarked) : props.Separable where
  quotable := unmarked.quotable
  closed := by
    intro inner h early
    exact unmarked.clear _ (props.innerField h) (early.subset (by simp [closingTag]))

def padded (inner : String) : String := String.ofList ("\n  ".toList ++ inner.toList ++ ['\n'])

theorem paddedInjective {one other : String} (same : padded one = padded other) : one = other := by
  have texts : "\n  ".toList ++ one.toList ++ ['\n'] = "\n  ".toList ++ other.toList ++ ['\n'] :=
    String.ofList_injective same
  exact String.toList_inj.mp (List.append_cancel_left (List.append_cancel_right texts))

theorem blockWritten {props : Props} (separable : props.Separable) (rest : List Char) :
    block? (props.write ++ rest) = some (⟨props.kind.tag, props.attributes, props.innerText?.map padded⟩, rest) := by
  rw [← nodeText separable.quotable, block?, node]
  cases text : props.innerText? with
  | none =>
      have valid := openingValid separable.quotable [' '] (by decide)
      simp only [selfClosingSingle valid, ofHeadTag valid, openingElement, Option.map_none]
  | some inner =>
      have valid := openingValid separable.quotable [] (by simp)
      have closed := props.innerClosed (separable.closed inner text)
      simp only [selfClosingPair valid, pairedPair valid closed, Option.map_some, ofHeadTag valid, openingElement]
      rfl

theorem propsElement {one other : Props} (tags : one.kind.tag = other.kind.tag)
    (attributes : one.attributes = other.attributes) (texts : one.innerText? = other.innerText?) : one = other := by
  rcases one with ⟨_, _, _, _, _⟩ | ⟨_, _, _, _⟩ | ⟨_, _, _, _, _⟩ | ⟨_, _, _⟩ | ⟨_, _⟩ <;>
    rcases other with ⟨_, _, _, _, _⟩ | ⟨_, _, _, _⟩ | ⟨_, _, _, _, _⟩ | ⟨_, _, _⟩ | ⟨_, _⟩ <;>
    simp_all [Props.attributes, innerText?, kind, Kind.tag]

theorem writeCancel {one other : Props} (here : one.Separable) (there : other.Separable) {s t : List Char}
    (same : one.write ++ s = other.write ++ t) : one = other ∧ s = t := by
  have read := blockWritten here s
  rw [same, blockWritten there t] at read
  simp only [Option.some.injEq, Prod.mk.injEq, Element.mk.injEq] at read
  obtain ⟨⟨tags, attributes, texts⟩, rest⟩ := read
  have inner : one.innerText? = other.innerText? := Option.map_injective (fun _ _ => paddedInjective) texts.symm
  exact ⟨propsElement tags.symm attributes.symm inner, rest.symm⟩

end Props

namespace Email

theorem writeContentsCons (props : Props) (rest : List Props) : writeContents (props :: rest) =
    props.write ++ if rest = [] then [] else '\n' :: '\n' :: writeContents rest := by
  cases rest with
  | nil => simp [writeContents]
  | cons next rest => simp [writeContents, List.intercalate_cons_cons]

theorem writeContentsFilled (props : Props) (rest : List Props) : writeContents (props :: rest) ≠ [] := by
  rw [writeContentsCons]
  cases text : props.innerText? <;> simp [Props.write, text]

theorem writeContentsInjective {one other : List Props} (here : ∀ props ∈ one, props.Separable)
    (there : ∀ props ∈ other, props.Separable) (same : writeContents one = writeContents other) : one = other := by
  induction one generalizing other with
  | nil =>
      cases other with
      | nil => rfl
      | cons second other => exact absurd same.symm (writeContentsFilled second other)
  | cons first one ih =>
      cases other with
      | nil => exact absurd same (writeContentsFilled first one)
      | cons second other =>
          rw [writeContentsCons, writeContentsCons] at same
          obtain ⟨rfl, tails⟩ := Props.writeCancel (here first List.mem_cons_self) (there second List.mem_cons_self) same
          -- The same text is left, and it begins with the blank line or is empty on both sides.
          have rest : one = other := by
            refine ih (fun p h => here p (List.mem_cons_of_mem _ h)) (fun p h => there p (List.mem_cons_of_mem _ h)) ?_
            by_cases last : one = [] <;> by_cases last' : other = [] <;> simp_all
          rw [rest]

theorem writesApart {one other : Email} (here : ∀ props ∈ one.contents, props.Unmarked)
    (there : ∀ props ∈ other.contents, props.Unmarked) : one.write = other.write ↔ one.contents = other.contents := by
  constructor
  · intro same
    exact writeContentsInjective (fun props h => (here props h).separable) (fun props h => (there props h).separable)
      (String.ofList_injective same)
  · exact congrArg fun contents => String.ofList (writeContents contents)

def roomyEmail : Email :=
  [⟨.str "a", .text ⟨" x\n\n\"/>", "left", "it's", ">"⟩⟩, ⟨.str "b", .divider ⟨"", "\"' />"⟩⟩]

def tightEmail : Email :=
  [⟨.str "a", .text ⟨"x\n\n\"/>", "left", "it's", ">"⟩⟩, ⟨.str "b", .divider ⟨"#e5e7eb", "\"' />"⟩⟩]

theorem writesApartRoomy : (∀ props ∈ roomyEmail.contents, props.Unmarked) ∧
    (∀ props ∈ tightEmail.contents, props.Unmarked) ∧
    roomyEmail.write ≠ tightEmail.write := by
  have here : ∀ props ∈ roomyEmail.contents, props.Unmarked := by decide
  have there : ∀ props ∈ tightEmail.contents, props.Unmarked := by decide
  have other : roomyEmail.contents ≠ tightEmail.contents := by decide
  exact ⟨here, there, fun same => other ((writesApart here there).mp same)⟩

end Email
end EmailMarkup
