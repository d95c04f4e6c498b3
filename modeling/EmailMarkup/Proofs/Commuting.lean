import EmailMarkup.Proofs.Identity

/-! Two edits of one email. Where no two components share an identity, edits of different ones go into places of their
own: in either order they leave the other components where they are and show the same between them, and only the
identities drawn for what is new may differ. -/
namespace EmailMarkup
open Handle (textsApart numberedApart)

structure Replacement where
  id : Json
  source : String

def Ids.Gave (ids later : Ids) (component : Component) : Prop :=
  ∃ n, ids.next ≤ n ∧ n < later.next ∧ component.id = ids.name n

def Ids.Avoids (ids : Ids) (id : Json) : Prop := ∀ n, ids.next ≤ n → (ids.name n).same id = false

namespace Email

def Has (email : Email) (id : Json) : Prop := ∃ component ∈ email, component.id = id ∧ id.same id = true

def replaceBoth (email : Email) (first second : Replacement) (ids : Ids) : Except EditError (Email × Ids) := do
  let (email, ids) ← email.replace first.id first.source ids
  email.replace second.id second.source ids

def shownWith (email : Email) (a b : Replacement) : List Props :=
  email.flatMap fun component =>
    if component.id.same a.id then contentsOf a.source.toList
    else if component.id.same b.id then contentsOf b.source.toList
    else [component.props]

def others (email : Email) (a b : Replacement) : Email :=
  email.filter fun component => !component.id.same a.id && !component.id.same b.id

/-- Two emails place by place: both have the next of the components that stay, or each has a new one and these show the
same. -/
inductive Alongside (new : Component → Prop) : (stay one other : Email) → Prop where
  | nil : Alongside new [] [] []
  | stays (component : Component) {stay one other} (tail : Alongside new stay one other) :
      Alongside new (component :: stay) (component :: one) (component :: other)
  | differs {left right : Component} {stay one other} (made : new left) (remade : new right)
      (same : left.props = right.props) (tail : Alongside new stay one other) :
      Alongside new stay (left :: one) (right :: other)

namespace Alongside

variable {new : Component → Prop}

theorem refl (email : Email) : Alongside new email email email := by
  induction email with
  | nil => exact .nil
  | cons component rest ih => exact .stays component ih

theorem symm {stay one other : Email} (alike : Alongside new stay one other) : Alongside new stay other one := by
  induction alike with
  | nil => exact .nil
  | stays component _ ih => exact .stays component ih
  | differs made remade same _ ih => exact .differs remade made same.symm ih

theorem append {stay one other stay' one' other' : Email} (front : Alongside new stay one other)
    (back : Alongside new stay' one' other') : Alongside new (stay ++ stay') (one ++ one') (other ++ other') := by
  induction front with
  | nil => exact back
  | stays component _ ih => exact .stays component ih
  | differs made remade same _ ih => exact .differs made remade same ih

theorem fresh {one other : Email} (made : ∀ component ∈ one, new component)
    (remade : ∀ component ∈ other, new component) (same : one.contents = other.contents) :
    Alongside new [] one other := by
  induction one generalizing other with
  | nil =>
      cases other with
      | nil => exact .nil
      | cons right other => simp [contents] at same
  | cons left one ih =>
      cases other with
      | nil => simp [contents] at same
      | cons right other =>
          obtain ⟨props, tail⟩ := List.cons.inj same
          exact .differs (made left List.mem_cons_self) (remade right List.mem_cons_self) props
            (ih (fun c h => made c (List.mem_cons_of_mem left h)) (fun c h => remade c (List.mem_cons_of_mem right h)) tail)

theorem contents {stay one other : Email} (alike : Alongside new stay one other) : one.contents = other.contents := by
  induction alike with
  | nil => rfl
  | stays component _ ih => exact congrArg (component.props :: ·) ih
  | differs _ _ same _ ih => exact congrArg₂ List.cons same ih

theorem length {stay one other : Email} (alike : Alongside new stay one other) : one.length = other.length := by
  simpa [Email.contents] using congrArg List.length alike.contents

end Alongside

theorem readSupply (source : String) (ids : Ids) :
    (Email.read source ids).2 = { ids with next := ids.next + (contentsOf source.toList).length } := by
  rw [readOfContents, ofContentsSupply]

theorem readGave {source : String} {ids start later : Ids} (names : start.name = ids.name)
    (least : ids.next ≤ start.next) (most : (Email.read source start).2.next ≤ later.next) :
    ∀ component ∈ (Email.read source start).1, ids.Gave later component := by
  rw [readSupply] at most
  rw [readOfContents]
  intro component member
  obtain ⟨n, first, last, same⟩ := ofContentsDrawn _ start component member
  exact ⟨n, Nat.le_trans least first, Nat.lt_of_lt_of_le last most, names ▸ same⟩

theorem apartAround {before after : Email} {component : Component} (distinct : (before ++ component :: after).Distinct) :
    ∀ other ∈ before ++ after, other.id.Apart component.id := by
  obtain ⟨_, behind, across⟩ := List.pairwise_append.mp distinct
  obtain ⟨later, _⟩ := List.pairwise_cons.mp behind
  intro other member
  rcases List.mem_append.mp member with left | right
  · exact across other left component List.mem_cons_self
  · exact (later other right).symm

theorem onlyHolder {email : Email} (distinct : email.Distinct) {component holder : Component} (member : component ∈ email)
    (held : holder ∈ email) (same : component.id.same holder.id = true) : component = holder := by
  obtain ⟨before, after, rfl⟩ := List.append_of_mem held
  rcases List.mem_append.mp member with left | here
  · have apart := apartAround distinct component (List.mem_append_left after left)
    simp [apart.1] at same
  · rcases List.mem_cons.mp here with rfl | right
    · rfl
    · have apart := apartAround distinct component (List.mem_append_right before right)
      simp [apart.1] at same

theorem twoPlaces {email : Email} {x y : Component} (here : x ∈ email) (there : y ∈ email) (other : x ≠ y) :
    ∃ before first between second after, email = before ++ first :: (between ++ second :: after) ∧
      (first = x ∧ second = y ∨ first = y ∧ second = x) := by
  obtain ⟨before, after, rfl⟩ := List.append_of_mem here
  rcases List.mem_append.mp there with left | right
  · obtain ⟨front, between, rfl⟩ := List.append_of_mem left
    exact ⟨front, y, between, x, after, by simp, .inr ⟨rfl, rfl⟩⟩
  · have behind : y ∈ after := (List.mem_cons.mp right).resolve_left other.symm
    obtain ⟨between, back, rfl⟩ := List.append_of_mem behind
    exact ⟨before, x, between, y, back, rfl, .inl ⟨rfl, rfl⟩⟩

theorem shownWithSwap {email : Email} {a b : Replacement}
    (never : ∀ component ∈ email, component.id.same a.id = true → component.id.same b.id = false) :
    email.shownWith a b = email.shownWith b a := by
  refine List.flatMap_congr fun component member => ?_
  cases isA : component.id.same a.id with
  | false => rfl
  | true => simp [never component member isA]

theorem othersSwap (email : Email) (a b : Replacement) : email.others a b = email.others b a := by
  simp only [others, Bool.and_comm]

theorem untouched {email : Email} {a b : Replacement}
    (apart : ∀ component ∈ email, component.id.same a.id = false ∧ component.id.same b.id = false) :
    email.shownWith a b = email.contents ∧ email.others a b = email := by
  constructor
  · rw [contents, List.map_eq_flatMap]
    refine List.flatMap_congr fun component member => ?_
    simp [apart component member]
  · refine List.filter_eq_self.mpr fun component member => ?_
    simp [apart component member]

section Places

variable {email before between after : Email} {first second : Component}
  (split : email = before ++ first :: (between ++ second :: after)) (distinct : email.Distinct)
include split distinct

theorem apartBoth : first.id.Apart second.id ∧
    ∀ other ∈ before ++ between ++ after, other.id.Apart first.id ∧ other.id.Apart second.id := by
  subst split
  have aroundFirst := apartAround distinct
  have aroundSecond : ∀ other ∈ (before ++ first :: between) ++ after, other.id.Apart second.id :=
    apartAround (by simpa using distinct)
  refine ⟨aroundSecond first (by simp), fun other member => ⟨aroundFirst other ?_, aroundSecond other ?_⟩⟩
  · simp only [List.mem_append, List.mem_cons] at member ⊢
    tauto
  · simp only [List.mem_append, List.mem_cons] at member ⊢
    tauto

variable (firstFound : first.id.same first.id = true) (secondFound : second.id.same second.id = true) (s t : String)
include firstFound secondFound

theorem replaceForward {ids : Ids} (avoids : ids.Avoids second.id) :
    email.replaceBoth ⟨first.id, s⟩ ⟨second.id, t⟩ ids =
      .ok (before ++ ((Email.read s ids).1 ++ (between ++ ((Email.read t (Email.read s ids).2).1 ++ after))),
        (Email.read t (Email.read s ids).2).2) := by
  obtain ⟨_, outside⟩ := apartBoth split distinct
  have apartFirst : ∀ other ∈ before, other.id.same first.id = false := fun other h => (outside other (by simp [h])).1.1
  have drawn : ∀ component ∈ (Email.read s ids).1, ids.Gave (Email.read s ids).2 component :=
    readGave rfl (Nat.le_refl _) (Nat.le_refl _)
  have apartSecond : ∀ other ∈ before ++ (Email.read s ids).1 ++ between, other.id.same second.id = false := by
    simp only [List.mem_append]
    rintro other ((left | new) | middle)
    · exact (outside other (by simp [left])).2.1
    · obtain ⟨n, least, _, same⟩ := drawn other new
      exact same ▸ avoids n least
    · exact (outside other (by simp [middle])).2.1
  have one := replaceFirst apartFirst firstFound (between ++ second :: after) s ids
  have both := replaceFirst apartSecond secondFound after t (Email.read s ids).2
  simp only [List.append_assoc] at one both
  simp only [split, replaceBoth, one, bind, Except.bind, both]

theorem replaceBackward (ids : Ids) : email.replaceBoth ⟨second.id, t⟩ ⟨first.id, s⟩ ids =
    .ok (before ++ ((Email.read s (Email.read t ids).2).1 ++ (between ++ ((Email.read t ids).1 ++ after))),
      (Email.read s (Email.read t ids).2).2) := by
  obtain ⟨apart, outside⟩ := apartBoth split distinct
  have apartFirst : ∀ other ∈ before, other.id.same first.id = false := fun other h => (outside other (by simp [h])).1.1
  have apartSecond : ∀ other ∈ before ++ first :: between, other.id.same second.id = false := by
    simp only [List.mem_append, List.mem_cons]
    rintro other (left | rfl | middle)
    · exact (outside other (by simp [left])).2.1
    · exact apart.1
    · exact (outside other (by simp [middle])).2.1
  have one := replaceFirst apartSecond secondFound after t ids
  have both := replaceFirst apartFirst firstFound (between ++ (Email.read t ids).1 ++ after) s (Email.read t ids).2
  simp only [List.append_assoc, List.cons_append] at one both
  simp only [split, replaceBoth, one, bind, Except.bind, both]

theorem shownPlaces : email.shownWith ⟨first.id, s⟩ ⟨second.id, t⟩ =
      before.contents ++ (contentsOf s.toList ++ (between.contents ++ (contentsOf t.toList ++ after.contents))) ∧
    email.others ⟨first.id, s⟩ ⟨second.id, t⟩ = before ++ (between ++ after) := by
  obtain ⟨apart, outside⟩ := apartBoth split distinct
  have stays : ∀ part : Email, part ⊆ before ++ between ++ after →
      part.shownWith ⟨first.id, s⟩ ⟨second.id, t⟩ = part.contents ∧ part.others ⟨first.id, s⟩ ⟨second.id, t⟩ = part :=
    fun part inside => untouched fun component member =>
      ⟨(outside component (inside member)).1.1, (outside component (inside member)).2.1⟩
  obtain ⟨shownBefore, keptBefore⟩ := stays before (by simp)
  obtain ⟨shownBetween, keptBetween⟩ := stays between (by simp)
  obtain ⟨shownAfter, keptAfter⟩ := stays after (by simp)
  simp only [shownWith, others] at shownBefore shownBetween shownAfter keptBefore keptBetween keptAfter
  constructor
  · simp [split, shownWith, shownBefore, shownBetween, shownAfter, firstFound, secondFound, apart.2]
  · simp [split, others, keptBefore, keptBetween, keptAfter, firstFound, secondFound]

theorem commutesPlaces {ids : Ids} (avoids : ids.Avoids second.id) : ∃ forward backward later,
    email.replaceBoth ⟨first.id, s⟩ ⟨second.id, t⟩ ids = .ok (forward, later) ∧
    email.replaceBoth ⟨second.id, t⟩ ⟨first.id, s⟩ ids = .ok (backward, later) ∧
    forward.contents = email.shownWith ⟨first.id, s⟩ ⟨second.id, t⟩ ∧
    Alongside (ids.Gave later) (email.others ⟨first.id, s⟩ ⟨second.id, t⟩) forward backward := by
  obtain ⟨shown, kept⟩ := shownPlaces split distinct firstFound secondFound s t
  have forward := replaceForward split distinct firstFound secondFound s t avoids
  have backward := replaceBackward split distinct firstFound secondFound s t ids
  -- Both orders draw one identity for each new component.
  have supply : (Email.read s (Email.read t ids).2).2 = (Email.read t (Email.read s ids).2).2 := by
    simp only [readSupply, Nat.add_right_comm]
  have later : ids.next ≤ (Email.read s ids).2.next ∧ ids.next ≤ (Email.read t ids).2.next := by simp [readSupply]
  refine ⟨_, _, _, forward, supply ▸ backward, ?_, ?_⟩
  · have reads := fun source ids => readContents source ids
    simp only [Email.contents] at reads shown ⊢
    simp only [shown, List.map_append, reads]
  · have newFirst : Alongside (ids.Gave (Email.read t (Email.read s ids).2).2) [] (Email.read s ids).1
        (Email.read s (Email.read t ids).2).1 :=
      .fresh (readGave rfl (Nat.le_refl _) (by simp [readSupply]))
        (readGave (by simp [readSupply]) later.2 (by simp [supply])) (by simp only [readContents])
    have newSecond : Alongside (ids.Gave (Email.read t (Email.read s ids).2).2) []
        (Email.read t (Email.read s ids).2).1 (Email.read t ids).1 :=
      .fresh (readGave (by simp [readSupply]) later.1 (Nat.le_refl _))
        (readGave rfl (Nat.le_refl _) (by simp [readSupply])) (by simp only [readContents])
    rw [kept]
    exact (Alongside.refl before).append (newFirst.append ((Alongside.refl between).append
      (newSecond.append (Alongside.refl after))))

end Places

theorem neverBoth {email : Email} (distinct : email.Distinct) {x y : Component} (here : x ∈ email) (there : y ∈ email)
    (other : x ≠ y) : ∀ component ∈ email, component.id.same x.id = true → component.id.same y.id = false := by
  intro component member isX
  obtain rfl := onlyHolder distinct member here isX
  exact Bool.eq_false_iff.mpr fun isY => other (onlyHolder distinct member there isY)

theorem editsCommute {email : Email} (distinct : email.Distinct) {a b : Replacement} (hasA : email.Has a.id)
    (hasB : email.Has b.id) (other : a.id ≠ b.id) {ids : Ids} (avoidsA : ids.Avoids a.id) (avoidsB : ids.Avoids b.id) :
    ∃ ab ba later, email.replaceBoth a b ids = .ok (ab, later) ∧ email.replaceBoth b a ids = .ok (ba, later) ∧
      ab.contents = email.shownWith a b ∧ ba.contents = email.shownWith a b ∧ ab.length = ba.length ∧
      Alongside (ids.Gave later) (email.others a b) ab ba := by
  obtain ⟨x, here, isA, foundA⟩ := hasA
  obtain ⟨y, there, isB, foundB⟩ := hasB
  obtain ⟨a, s⟩ := a
  obtain ⟨b, t⟩ := b
  subst isA isB
  have apart : x ≠ y := fun same => other (same ▸ rfl)
  obtain ⟨before, first, between, second, after, split, ⟨rfl, rfl⟩ | ⟨rfl, rfl⟩⟩ := twoPlaces here there apart
  · obtain ⟨ab, ba, later, one, two, shown, alike⟩ := commutesPlaces split distinct foundA foundB s t avoidsB
    exact ⟨ab, ba, later, one, two, shown, alike.contents ▸ shown, alike.length, alike⟩
  · obtain ⟨ba, ab, later, two, one, shown, alike⟩ := commutesPlaces split distinct foundB foundA t s avoidsA
    rw [shownWithSwap (neverBoth distinct there here apart.symm)] at shown
    rw [othersSwap] at alike
    exact ⟨ab, ba, later, one, two, alike.contents ▸ shown, shown, alike.symm.length, alike.symm⟩

def crowded : Email := [⟨.str "a", .divider {}⟩, ⟨.str "id2", .text {}⟩, ⟨.str "b", .image {}⟩]

def threefold : Replacement := ⟨.str "b", "<Hr /><Text>x</Text><Hr />"⟩

def single : Replacement := ⟨.str "a", "<Button>Go</Button>"⟩

theorem crowdedDistinct : crowded.Distinct := by
  simp [crowded, Distinct, textsApart]

theorem editsCommuteCrowded :
    crowded.Distinct ∧ crowded.Has threefold.id ∧ crowded.Has single.id ∧ threefold.id ≠ single.id ∧
    Ids.numbered.Avoids threefold.id ∧ Ids.numbered.Avoids single.id ∧
    ∃ one other later, crowded.replaceBoth threefold single Ids.numbered = .ok (one, later) ∧
      crowded.replaceBoth single threefold Ids.numbered = .ok (other, later) ∧
      one.map (·.id) = ["id4", "id2", "id1", "id2", "id3"].map Json.str ∧
      other.map (·.id) = ["id1", "id2", "id2", "id3", "id4"].map Json.str ∧
      one.contents = other.contents ∧
      one.map Component.kind = [.button, .text, .divider, .divider, .text] := by
  have hasB : crowded.Has threefold.id := ⟨_, .tail _ (.tail _ (.head _)), rfl, by decide⟩
  have hasA : crowded.Has single.id := ⟨_, .head _, rfl, by decide⟩
  have avoidsB : Ids.numbered.Avoids threefold.id := fun n _ => (numberedApart (by decide) n).2
  have avoidsA : Ids.numbered.Avoids single.id := fun n _ => (numberedApart (by decide) n).2
  have apart : threefold.id ≠ single.id := by decide
  obtain ⟨one, other, later, forward, backward, _, _, _, alike⟩ :=
    editsCommute crowdedDistinct hasB hasA apart avoidsB avoidsA
  have named : (crowded.replaceBoth threefold single Ids.numbered).toOption.map (·.1.map (·.id)) =
      some (["id4", "id2", "id1", "id2", "id3"].map Json.str) := by decide +kernel
  have renamed : (crowded.replaceBoth single threefold Ids.numbered).toOption.map (·.1.map (·.id)) =
      some (["id1", "id2", "id2", "id3", "id4"].map Json.str) := by decide +kernel
  have kinds : (crowded.replaceBoth threefold single Ids.numbered).toOption.map (·.1.map Component.kind) =
      some [.button, .text, .divider, .divider, .text] := by decide +kernel
  rw [forward] at named kinds
  rw [backward] at renamed
  exact ⟨crowdedDistinct, hasB, hasA, apart, avoidsB, avoidsA, one, other, later, forward, backward,
    Option.some.inj named, Option.some.inj renamed, alike.contents, Option.some.inj kinds⟩

end Email
end EmailMarkup
