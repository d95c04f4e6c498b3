import EmailMarkup.Proofs.Editing
import EmailMarkup.Query
import Mathlib.Algebra.GroupWithZero.Nat

/-! Questions about an email agree with one another. Whatever looks for an identity comes to the first component that
holds it, or else there is none and every search says so in its own way. A search by a test keeps the order and the places
of the whole email, and the kinds part an email so that each component is counted once. -/
namespace EmailMarkup.Email

section Identity

variable {email : Email} {id : Json}

theorem indexFromMissed (absent : ∀ other ∈ email, other.id.same id = false) (place : Int) :
    indexFrom id place email = -1 := by
  induction email generalizing place with
  | nil => rfl
  | cons first rest ih =>
      rw [List.forall_mem_cons] at absent
      rw [indexFrom, if_neg (by simp [absent.1]), ih absent.2]

theorem indexFromFirst {before : Email} {component : Component} (apart : ∀ other ∈ before, other.id.same id = false)
    (same : component.id.same id = true) (after : Email) (place : Int) :
    indexFrom id place (before ++ component :: after) = place + before.length := by
  -- The place is counted on from the given one, whatever that is.
  induction before generalizing place with
  | nil => simp [indexFrom, same]
  | cons first rest ih =>
      rw [List.forall_mem_cons] at apart
      rw [List.cons_append, indexFrom, if_neg (by simp [apart.1]), ih apart.2, List.length_cons]
      omega

theorem findIndexMissed (absent : ∀ other ∈ email, other.id.same id = false) :
    email.findIndex id = .error (.notFound id) := by
  have none : email.indexOf? id = none := List.findIdx?_eq_none_iff.mpr absent
  rw [findIndex, none]

theorem byIdMissed (absent : ∀ other ∈ email, other.id.same id = false) : email.byId? id = none := by
  simpa [byId?] using absent

theorem byIdFirst {before : Email} {component : Component} (apart : ∀ other ∈ before, other.id.same id = false)
    (same : component.id.same id = true) (after : Email) :
    (before ++ component :: after).byId? id = some component :=
  List.find?_eq_some_iff_append.mpr ⟨same, before, after, rfl, by simpa using apart⟩

theorem byIndexFirst (before : Email) (component : Component) (after : Email) :
    (before ++ component :: after).byIndex? before.length = some component := by
  simp [byIndex?]

structure Missed (email : Email) (id : Json) : Prop where
  absent : ∀ other ∈ email, other.id.same id = false
  index : email.indexById id = -1
  raised : email.findIndex id = .error (.notFound id)
  unheld : email.holds id = false
  unknown : email.byId? id = none

structure Found (email : Email) (id : Json) (before : Email) (component : Component) (after : Email) : Prop where
  split : email = before ++ component :: after
  apart : ∀ other ∈ before, other.id.same id = false
  same : component.id.same id = true
  index : email.indexById id = before.length
  place : email.findIndex id = .ok before.length
  held : email.holds id = true
  known : email.byId? id = some component
  there : email.byIndex? (email.indexById id) = some component

theorem sought (email : Email) (id : Json) :
    email.Missed id ∨ ∃ before component after, email.Found id before component after := by
  by_cases held : ∃ component ∈ email, component.id.same id = true
  · obtain ⟨before, component, after, rfl, apart, same⟩ := firstHeld held
    have index : indexById (before ++ component :: after) id = before.length := by
      rw [indexById, indexFromFirst apart same after, Int.zero_add]
    refine .inr ⟨before, component, after, rfl, apart, same, index, findFirst apart same after, ?_,
      byIdFirst apart same after, ?_⟩
    · rw [holds, index, bne_iff_ne]
      omega
    · rw [index, byIndexFirst]
  · have absent : ∀ other ∈ email, other.id.same id = false := by simpa using held
    have index : email.indexById id = -1 := indexFromMissed absent 0
    exact .inl ⟨absent, index, findIndexMissed absent, by rw [holds, index]; rfl, byIdMissed absent⟩

end Identity

theorem searchEntries (email : Email) (test : Component → Nat → Bool) :
    email.search test = (email.zipIdx.filter fun entry => test entry.1 entry.2).map Prod.fst := rfl

theorem searchPlaces (email : Email) (test : Component → Nat → Bool) : ∃ places : List Nat,
    places.Pairwise (· < ·) ∧
    (∀ place, place ∈ places ↔ ∃ component, email[place]? = some component ∧ test component place = true) ∧
    (email.search test).map some = places.map (email[·]?) := by
  refine ⟨(email.zipIdx.filter fun entry => test entry.1 entry.2).map Prod.snd, ?_, fun place => ?_, ?_⟩
  · refine List.Pairwise.sublist (List.filter_sublist.map Prod.snd) ?_
    rw [List.zipIdx_map_snd]
    exact List.pairwise_lt_range'
  · simp [List.mem_zipIdx_iff_getElem?]
  · rw [searchEntries, List.map_map, List.map_map]
    refine List.map_congr_left fun entry kept => ?_
    have held := List.mem_zipIdx_iff_getElem?.mp (List.mem_filter.mp kept).1
    exact held.symm

theorem searchOnePlaced {email : Email} {test : Component → Nat → Bool} {places : List Nat}
    (shown : (email.search test).map some = places.map (email[·]?)) :
    email.searchOne? test = places.head?.bind (email[·]?) := by
  have first := congrArg List.head? shown
  rw [List.head?_map, List.head?_map] at first
  rw [searchOne?]
  cases places with
  | nil => simpa using first
  | cons place rest =>
      obtain ⟨component, head, held⟩ : ∃ component, (email.search test).head? = some component ∧
          some component = email[place]? := by simpa using first
      rw [head, held]
      rfl

theorem searchSublist (email : Email) (test : Component → Nat → Bool) : (email.search test).Sublist email := by
  have within := (List.filter_sublist (p := fun entry => test entry.1 entry.2) (l := email.zipIdx)).map Prod.fst
  rwa [List.zipIdx_map_fst, ← searchEntries] at within

theorem byKindMember {email : Email} {kind : Kind} {component : Component} :
    component ∈ email.byKind kind ↔ component ∈ email ∧ component.kind = kind := by
  simp [byKind]

theorem byKindParts (email : Email) {kinds : List Kind} (distinct : kinds.Nodup) :
    (kinds.flatMap email.byKind).Perm (email.filter (·.kind ∈ kinds)) := by
  -- One kind is taken off the others: its components are told apart from the rest by their kind.
  induction kinds with
  | nil => simp
  | cons kind rest ih =>
      obtain ⟨apart, distinct⟩ := List.nodup_cons.mp distinct
      have here : (email.filter (·.kind ∈ kind :: rest)).filter (·.kind == kind) = email.byKind kind := by
        rw [List.filter_filter, byKind]
        refine List.filter_congr fun component _ => ?_
        by_cases same : component.kind = kind <;> simp [same]
      have others : (email.filter (·.kind ∈ kind :: rest)).filter (!·.kind == kind) = email.filter (·.kind ∈ rest) := by
        rw [List.filter_filter]
        refine List.filter_congr fun component _ => ?_
        by_cases same : component.kind = kind <;> simp [same, apart]
      have both := List.filter_append_perm (·.kind == kind) (email.filter (·.kind ∈ kind :: rest))
      rw [here, others] at both
      exact ((ih distinct).append_left _).trans both

theorem kindsDistinct : Kind.all.Nodup := by decide

theorem kindListed (kind : Kind) : kind ∈ Kind.all := by cases kind <;> decide

theorem byKindWhole (email : Email) : (Kind.all.flatMap email.byKind).Perm email := by
  have parts := email.byKindParts kindsDistinct
  rwa [List.filter_eq_self.mpr fun component _ => decide_eq_true (kindListed component.kind)] at parts

theorem byKindCons (component : Component) (rest : Email) (kind : Kind) : (byKind (component :: rest) kind).length =
    (if kind = component.kind then 1 else 0) + (byKind rest kind).length := by
  by_cases same : kind = component.kind
  · subst same
    simp [byKind, Nat.add_comm]
  · simp [byKind, same, Ne.symm same]

theorem tallyFrom (email : Email) (start : Kind → Nat) :
    email.foldl (fun counts component => tally counts component.kind) (Kind.all.map fun kind => (kind, start kind)) =
      Kind.all.map fun kind => (kind, start kind + (email.byKind kind).length) := by
  induction email generalizing start with
  | nil => rfl
  | cons component rest ih =>
      have one : tally (Kind.all.map fun kind => (kind, start kind)) component.kind =
          Kind.all.map fun kind => (kind, start kind + if kind = component.kind then 1 else 0) := by
        rw [tally, List.map_map]
        refine List.map_congr_left fun kind _ => ?_
        by_cases same : kind = component.kind <;> simp [same]
      rw [List.foldl_cons, one, ih]
      refine List.map_congr_left fun kind _ => ?_
      rw [byKindCons, Nat.add_assoc]

theorem countLengths (email : Email) :
    email.countByKind = Kind.all.map fun kind => (kind, (email.byKind kind).length) := by
  rw [countByKind, tallyFrom email fun _ => 0]
  exact List.map_congr_left fun kind _ => by rw [Nat.zero_add]

theorem countTotal (email : Email) : (email.countByKind.map Prod.snd).sum = email.length := by
  rw [countLengths, List.map_map, ← email.byKindWhole.length_eq, List.length_flatMap]
  rfl

theorem queriesAgree (email : Email) :
    (∀ id, (email.indexById id = -1 ↔ ∀ component ∈ email, component.id.same id = false) ∧
      (email.indexById id = -1 ↔ email.findIndex id = .error (.notFound id)) ∧
      (email.indexById id = -1 ↔ email.holds id = false) ∧ (email.indexById id = -1 ↔ email.byId? id = none) ∧
      (email.indexById id ≠ -1 → ∃ before component after, email.Found id before component after)) ∧
    (∀ test, ∃ places : List Nat, places.Pairwise (· < ·) ∧
      (∀ place, place ∈ places ↔ ∃ component, email[place]? = some component ∧ test component place = true) ∧
      (email.search test).map some = places.map (email[·]?) ∧ (email.search test).Sublist email ∧
      email.searchOne? test = places.head?.bind (email[·]?)) ∧
    (∀ kind, (email.byKind kind).Sublist email ∧
      ∀ component, component ∈ email.byKind kind ↔ component ∈ email ∧ component.kind = kind) ∧
    (Kind.all.Nodup ∧ (∀ kind, kind ∈ Kind.all) ∧ (Kind.all.flatMap email.byKind).Perm email) ∧
    email.countByKind = (Kind.all.map fun kind => (kind, (email.byKind kind).length)) ∧
    (email.metadata.counts = email.countByKind ∧ (email.metadata.counts.map Prod.snd).sum = email.metadata.total ∧
      email.metadata.total = email.length ∧ email.metadata.ids.length = email.length ∧
      email.metadata.kinds.length = email.length ∧
      ∀ (place : Nat) (component : Component), email[place]? = some component →
        email.metadata.ids[place]? = some component.id ∧ email.metadata.kinds[place]? = some component.kind) := by
  refine ⟨fun id => ?_, fun test => ?_, fun kind => ⟨List.filter_sublist, fun _ => byKindMember⟩,
    ⟨kindsDistinct, kindListed, email.byKindWhole⟩, email.countLengths, rfl, email.countTotal, rfl, List.length_map _,
    List.length_map _, fun place component held => ?_⟩
  · obtain missed | ⟨before, component, after, found⟩ := email.sought id
    · exact ⟨iff_of_true missed.index missed.absent, iff_of_true missed.index missed.raised,
        iff_of_true missed.index missed.unheld, iff_of_true missed.index missed.unknown,
        fun other => absurd missed.index other⟩
    · have other : ¬ email.indexById id = -1 := by
        rw [found.index]
        omega
      have member : component ∈ email := found.split ▸ List.mem_append_right _ List.mem_cons_self
      refine ⟨iff_of_false other fun absent => ?_, iff_of_false other ?_, iff_of_false other ?_, iff_of_false other ?_,
        fun _ => ⟨before, component, after, found⟩⟩
      · exact Bool.noConfusion (found.same.symm.trans (absent component member))
      · simp [found.place]
      · simp [found.held]
      · simp [found.known]
  · obtain ⟨places, ordered, exactly, shown⟩ := email.searchPlaces test
    exact ⟨places, ordered, exactly, shown, email.searchSublist test, searchOnePlaced shown⟩
  · simp [metadata, held]

def pairedEmail : Email :=
  [⟨.str "a", .divider {}⟩, ⟨.str "b", .text { text := "x" }⟩, ⟨.str "b", .text { text := "y" }⟩]

theorem queriesAgreePaired : pairedEmail.indexById (.str "b") ≠ -1 ∧
    (∃ before component after, pairedEmail.Found (.str "b") before component after ∧ before.length = 1 ∧
      component.props = .text { text := "x" }) ∧
    pairedEmail.findIndex (.str "c") = .error (.notFound (.str "c")) ∧
    (pairedEmail.metadata.counts.map Prod.snd).sum = 3 ∧ pairedEmail.metadata.ids[2]? = some (.str "b") := by
  obtain ⟨sought, -, -, -, -, -, sum, total, -, -, aligned⟩ := queriesAgree pairedEmail
  have held : pairedEmail.indexById (.str "b") ≠ -1 := by decide
  obtain ⟨before, component, after, found⟩ := (sought (.str "b")).2.2.2.2 held
  have first : pairedEmail.byId? (.str "b") = some ⟨.str "b", .text { text := "x" }⟩ := by rfl
  have place : (before.length : Int) = 1 := found.index.symm.trans (by decide)
  refine ⟨held, ⟨before, component, after, found, by omega, ?_⟩, (sought (.str "c")).2.1.mp (by decide),
    sum.trans total, (aligned 2 _ rfl).1⟩
  rw [← Option.some.inj (first.symm.trans found.known)]

end EmailMarkup.Email
