import EmailMarkup.Proofs.Handle

/-! Identities while an email is edited. Each component of an edited email was there before or was read since, under an
identity drawn for it. So if a supply never repeats itself and yields none of the identities held, they stay apart, and
an identity that has left the email never comes back. -/
namespace EmailMarkup

def Json.Apart (a b : Json) : Prop := a.same b = false ∧ b.same a = false

theorem Json.Apart.symm {a b : Json} (apart : a.Apart b) : b.Apart a := ⟨apart.2, apart.1⟩

def Email.Distinct (email : Email) : Prop := email.Pairwise fun a b => a.id.Apart b.id

def Ids.Fresh (ids : Ids) : Prop := ∀ m n, ids.next ≤ m → m < n → (ids.name m).Apart (ids.name n)

namespace Email

variable (contents : List Props) (ids : Ids)

theorem ofContentsSupply : (ofContents contents ids).2 = { ids with next := ids.next + contents.length } := by
  induction contents generalizing ids with
  | nil => rfl
  | cons props rest ih =>
      rw [ofContents, ih, Ids.draw, List.length_cons, Nat.add_right_comm, Nat.add_assoc]

theorem ofContentsDrawn : ∀ component ∈ (ofContents contents ids).1,
    ∃ n, ids.next ≤ n ∧ n < ids.next + contents.length ∧ component.id = ids.name n := by
  induction contents generalizing ids with
  | nil => simp [ofContents]
  | cons props rest ih =>
      rw [ofContents, List.forall_mem_cons, List.length_cons]
      refine ⟨⟨ids.next, Nat.le_refl _, by omega, rfl⟩, fun component member => ?_⟩
      obtain ⟨n, least, most, same⟩ := ih ids.draw.2 component member
      simp only [Ids.draw] at least most same
      exact ⟨n, by omega, by omega, same⟩

theorem ofContentsDistinct {ids : Ids} (fresh : ids.Fresh) : (ofContents contents ids).1.Distinct := by
  induction contents generalizing ids with
  | nil => exact List.Pairwise.nil
  | cons props rest ih =>
      have later : ids.draw.2.Fresh := fun m n least => fresh m n (Nat.le_of_succ_le least)
      rw [ofContents]
      refine List.pairwise_cons.mpr ⟨fun component member => ?_, ih later⟩
      obtain ⟨n, least, _, same⟩ := ofContentsDrawn rest ids.draw.2 component member
      rw [same]
      exact fresh ids.next n (Nat.le_refl _) least

theorem spliceDistinct {before gone after new : Email} (distinct : (before ++ gone ++ after).Distinct)
    (fresh : new.Distinct) (apart : ∀ old ∈ before ++ after, ∀ component ∈ new, old.id.Apart component.id) :
    (before ++ new ++ after).Distinct := by
  have stays : (before ++ after).Distinct :=
    distinct.sublist ((List.sublist_append_left before gone).append_right after)
  have all : (before ++ after ++ new).Distinct := List.pairwise_append.mpr ⟨stays, fresh, apart⟩
  have moved : (before ++ after ++ new).Perm (before ++ new ++ after) := by
    rw [List.append_assoc, List.append_assoc]
    exact List.perm_append_comm.append_left before
  exact (moved.pairwise_iff fun apart => apart.symm).mp all

end Email

namespace Handle

/- The identities held are apart from each other and from those still to be drawn, and so are the latter. -/
structure Unique (handle : Handle) : Prop where
  distinct : handle.email.Distinct
  fresh : handle.ids.Fresh
  outside : ∀ component ∈ handle.email, ∀ n, handle.ids.next ≤ n → component.id.Apart (handle.ids.name n)

structure Descends (old new : Handle) : Prop where
  names : new.ids.name = old.ids.name
  later : old.ids.next ≤ new.ids.next
  origin : ∀ component ∈ new.email, component ∈ old.email ∨
    ∃ n, old.ids.next ≤ n ∧ n < new.ids.next ∧ component.id = old.ids.name n

theorem descendsRefl (handle : Handle) : handle.Descends handle := ⟨rfl, Nat.le_refl _, fun _ member => .inl member⟩

theorem Descends.trans {first second third : Handle} (before : first.Descends second) (after : second.Descends third) :
    first.Descends third where
  names := after.names.trans before.names
  later := Nat.le_trans before.later after.later
  origin := by
    intro component member
    rcases after.origin component member with held | ⟨n, least, most, same⟩
    · rcases before.origin component held with old | ⟨n, least, most, same⟩
      · exact .inl old
      · exact .inr ⟨n, least, Nat.lt_of_lt_of_le most after.later, same⟩
    · exact .inr ⟨n, Nat.le_trans before.later least, most, same.trans (congrFun before.names n)⟩

theorem answerDescends (handle : Handle) (call : Call) : handle.Descends (handle.answer call).2 := by
  rcases handle.answerSplices call with same | ⟨source, before, gone, after, split, spliced⟩
  · rw [same]
    exact handle.descendsRefl
  · have drawn := Email.ofContentsDrawn (contentsOf source.toList) handle.ids
    rw [spliced, readOfContents, Email.ofContentsSupply]
    refine ⟨rfl, Nat.le_add_right _ _, fun component member => ?_⟩
    rw [List.mem_append, List.mem_append] at member
    rcases member with (left | new) | right
    · exact .inl (by simp [split, left])
    · exact .inr (drawn component new)
    · exact .inl (by simp [split, right])

theorem answerUnique {handle : Handle} (unique : handle.Unique) (call : Call) : (handle.answer call).2.Unique := by
  rcases handle.answerSplices call with same | ⟨source, before, gone, after, split, spliced⟩
  · rwa [same]
  · obtain ⟨distinct, fresh, outside⟩ := unique
    have drawn := Email.ofContentsDrawn (contentsOf source.toList) handle.ids
    have new := Email.ofContentsDistinct (contentsOf source.toList) fresh
    have stays : ∀ old ∈ before ++ after, old ∈ handle.email := by
      intro old member
      rcases List.mem_append.mp member with left | right
      · simp [split, left]
      · simp [split, right]
    rw [spliced, readOfContents, Email.ofContentsSupply]
    refine ⟨Email.spliceDistinct (split ▸ distinct) new fun old member component made => ?_,
      fun m n least => fresh m n (Nat.le_trans (Nat.le_add_right _ _) least), fun component member n least => ?_⟩
    · obtain ⟨n, least, _, same⟩ := drawn component made
      rw [same]
      exact outside old (stays old member) n least
    · have later : handle.ids.next ≤ n := Nat.le_trans (Nat.le_add_right _ _) least
      rw [List.append_assoc, List.mem_append, List.mem_append, or_left_comm, ← List.mem_append] at member
      rcases member with made | old
      · obtain ⟨m, first, most, same⟩ := drawn component made
        rw [same]
        exact fresh m n first (Nat.lt_of_lt_of_le most least)
      · exact outside component (stays component old) n later

theorem runDescends (handle : Handle) (calls : List Call) : handle.Descends (handle.run calls) := by
  induction calls generalizing handle with
  | nil => exact handle.descendsRefl
  | cons call rest ih => exact (handle.answerDescends call).trans (ih _)

theorem runUnique {handle : Handle} (unique : handle.Unique) (calls : List Call) : (handle.run calls).Unique := by
  induction calls generalizing handle with
  | nil => exact unique
  | cons call rest ih => exact ih (answerUnique unique call)

theorem goneStays {first second third : Handle} (unique : first.Unique) (before : first.Descends second)
    (after : second.Descends third) {held : Component} (member : held ∈ first.email)
    (gone : ∀ other ∈ second.email, other.id.same held.id = false) :
    ∀ other ∈ third.email, other.id.same held.id = false := by
  intro other here
  rcases after.origin other here with old | ⟨n, least, _, same⟩
  · exact gone other old
  · rw [same, before.names]
    exact (unique.outside held member n (Nat.le_trans before.later least)).2

theorem identitiesUnique {handle : Handle} (unique : handle.Unique) (calls : List Call) :
    let reached := handle.run calls
    reached.email.Distinct ∧
    (∀ component ∈ reached.email, component ∈ handle.email ∨
      ∃ n, handle.ids.next ≤ n ∧ n < reached.ids.next ∧ component.id = handle.ids.name n) ∧
    ∀ middle later, ∀ held ∈ reached.email,
      (∀ other ∈ (handle.run (calls ++ middle)).email, other.id.same held.id = false) →
      ∀ other ∈ (handle.run (calls ++ middle ++ later)).email, other.id.same held.id = false := by
  intro reached
  refine ⟨(runUnique unique calls).distinct, (handle.runDescends calls).origin, fun middle later held member gone => ?_⟩
  rw [runAppend] at gone
  rw [runAppend, runAppend]
  exact goneStays (runUnique unique calls) (reached.runDescends middle) (runDescends _ later) member gone

def youngPair : Handle := ⟨[⟨.str "a", .divider {}⟩, ⟨.str "b", .text {}⟩], Ids.numbered⟩

theorem textsApart {s t : String} (other : s ≠ t) : (Json.str s).Apart (.str t) := by
  simp [Json.Apart, Json.same, Json.sameItem, other, Ne.symm other]

theorem numberedFresh : Ids.numbered.Fresh := by
  intro m n _ less
  refine textsApart fun same => Nat.ne_of_lt less ?_
  have digits : Nat.toDigits 10 m = Nat.toDigits 10 n := by
    simpa [Nat.repr_eq_ofList_toDigits] using congrArg String.toList same
  rw [← Nat.ofDigitChars_ten_toDigits (n := m), digits, Nat.ofDigitChars_ten_toDigits]

theorem numberedApart {s : String} (other : s.toList.head? ≠ some 'i') (n : Nat) :
    (Json.str s).Apart (Ids.numbered.name n) := by
  refine textsApart fun same => other ?_
  rw [same, String.toList_append]
  rfl

theorem youngPairUnique : youngPair.Unique := by
  refine ⟨?_, numberedFresh, ?_⟩
  · simpa [youngPair, Email.Distinct] using textsApart (by decide)
  · simp only [youngPair, List.forall_mem_cons, List.not_mem_nil, false_implies, implies_true, and_true]
    exact ⟨fun n _ => numberedApart (by decide) n, fun n _ => numberedApart (by decide) n⟩

def growing : List Call := [.edit "<Hr /><Text>x</Text>" (some (.str "b")) true]

def shrinking : List Call := [.edit "<Text>" none true, .edit "" (some (.str "id1")) false]

def renewing : List Call := [.edit "<Img /><Hr />" none false]

theorem identitiesYoungPair : youngPair.Unique ∧
    (youngPair.run growing).email.map (·.id) = [.str "a", .str "id1", .str "id2"] ∧
    (youngPair.run (growing ++ shrinking)).email.map (·.id) = [.str "a", .str "id2"] ∧
    ∀ other ∈ (youngPair.run (growing ++ shrinking ++ renewing)).email, other.id.same (.str "id1") = false := by
  have grown : (youngPair.run growing).email.map (·.id) = [.str "a", .str "id1", .str "id2"] := by decide +kernel
  have shrunk : (youngPair.run (growing ++ shrinking)).email.map (·.id) = [.str "a", .str "id2"] := by decide +kernel
  obtain ⟨_, _, gone⟩ := identitiesUnique youngPairUnique growing
  obtain ⟨held, member, same⟩ : ∃ held ∈ (youngPair.run growing).email, held.id = .str "id1" :=
    List.mem_map.mp (by rw [grown]; simp)
  have left : ∀ other ∈ (youngPair.run (growing ++ shrinking)).email, other.id.same held.id = false := by
    have apart : ∀ id ∈ [Json.str "a", Json.str "id2"], id.same (.str "id1") = false := by decide
    rw [same]
    exact fun other here => apart other.id (shrunk ▸ List.mem_map_of_mem here)
  have stays := gone shrinking renewing held member left
  rw [same] at stays
  exact ⟨youngPairUnique, grown, shrunk, stays⟩

end Handle
end EmailMarkup
