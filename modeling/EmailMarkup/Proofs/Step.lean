import EmailMarkup.Proofs.Identity
import EmailMarkup.Proofs.Rescan

/-! Sessions step by step. A step that reads a component replaces the email, reports it once and answers that it is
parsed. Any other step reports nothing and draws no identity, and unless it is a reset it leaves the email alone. So the
email is the latest reading since the last reset, and after a reset a session goes on as a new one would. -/
namespace EmailMarkup.Stream

structure Step where
  event : Event
  session : Session
  ids : Ids

namespace Step

def outcome (step : Step) : Outcome :=
  match step.event with
  | .append chunk => step.session.append chunk step.ids
  | .finalize => step.session.finalize step.ids
  | .reset => ⟨{}, none, step.ids⟩

def returned (step : Step) : Option Status := if step.event = .reset then none else some step.outcome.session.status

def chunk (step : Step) : String :=
  match step.event with
  | .append chunk => chunk
  | _ => ""

def source (step : Step) : String :=
  match step.event with
  | .append _ => step.outcome.session.wellFormed
  | .finalize => String.ofList step.outcome.session.buffer
  | .reset => ""

def reading (step : Step) : Email := (Email.read step.source step.ids).1

def Parsed (step : Step) : Prop := step.returned = some .parsed
instance (step) : Decidable (Parsed step) := by unfold Parsed; infer_instance

/- What can come of a step. -/
inductive Course (step : Step) : Prop where
  | reads (parsed : step.Parsed) (email : step.outcome.session.email = step.reading)
      (update : step.outcome.update = some ⟨step.chunk, step.reading⟩)
      (ids : step.outcome.ids = (Email.read step.source step.ids).2)
  | idles (running : step.event ≠ .reset) (unparsed : ¬ step.Parsed)
      (email : step.outcome.session.email = step.session.email) (update : step.outcome.update = none)
      (ids : step.outcome.ids = step.ids)
  | clears (reset : step.event = .reset)

end Step

theorem readNothing {source : String} {ids : Ids} (none : (Email.read source ids).1 = []) :
    (Email.read source ids).2 = ids := by
  have contents := readContents source ids
  rw [none] at contents
  rw [readOfContents, ← contents]
  rfl

namespace Session

theorem settleReads {read : Email × Ids} (some : read.1 ≠ []) (session : Session) (chunk : String)
    (otherwise : Status) : session.settle chunk read otherwise =
      ⟨{ session with email := read.1, status := .parsed }, .some ⟨chunk, read.1⟩, read.2⟩ :=
  if_neg (by simpa using some)

theorem settleIdles {read : Email × Ids} (none : read.1 = []) (session : Session) (chunk : String)
    (otherwise : Status) : session.settle chunk read otherwise = ⟨{ session with status := otherwise }, .none, read.2⟩ :=
  if_pos (by simpa using none)

end Session

namespace Step

variable {step : Step}

theorem returnedRunning (running : step.event ≠ .reset) : step.returned = some step.outcome.session.status :=
  if_neg running

section Running

variable (running : step.event ≠ .reset) (received : Session) {otherwise : Status} (unparsed : otherwise ≠ .parsed)
  (email : received.email = step.session.email)
include running unparsed email

theorem courseIdles (outcome : step.outcome = ⟨{ received with status := otherwise }, none, step.ids⟩) :
    step.Course := by
  have returned := returnedRunning running
  rw [outcome] at returned
  refine .idles running ?_ (by rw [outcome]; exact email) (by rw [outcome]) (by rw [outcome])
  rw [Parsed, returned]
  exact fun same => unparsed (Option.some.inj same)

theorem courseSettles
    (outcome : step.outcome = received.settle step.chunk (Email.read step.source step.ids) otherwise) :
    step.Course := by
  by_cases none : (Email.read step.source step.ids).1 = []
  · rw [Session.settleIdles none, readNothing none] at outcome
    exact courseIdles running received unparsed email outcome
  · have returned := returnedRunning running
    rw [Session.settleReads none] at outcome
    rw [outcome] at returned
    exact .reads returned (by rw [outcome, reading]) (by rw [outcome, reading]) (by rw [outcome])

end Running

theorem course (step : Step) : step.Course := by
  obtain ⟨event, session, ids⟩ := step
  cases event with
  | reset => exact .clears rfl
  | finalize =>
      have buffer := (session.settleFrame "" (Email.read (String.ofList session.buffer) ids) .invalid).2.2
      have source : Step.source ⟨.finalize, session, ids⟩ = String.ofList session.buffer := by
        rw [Step.source, Step.outcome, Session.finalize, buffer]
      have unparsed : Status.invalid ≠ .parsed := by simp
      refine courseSettles (by simp) session unparsed rfl ?_
      rw [source]
      rfl
  | append chunk =>
      by_cases blank : (session.receive chunk.toList).kept.text.isEmpty
      · have unparsed : Status.pending ≠ .parsed := by simp
        exact courseIdles (by simp) (session.receive chunk.toList) unparsed rfl (Session.appendBlank blank ids)
      · have source : Step.source ⟨.append chunk, session, ids⟩ = (session.receive chunk.toList).wellFormed := by
          rw [Step.source, Step.outcome, Session.wellFormed, Session.appendKept, ← Session.wellFormed]
        have outcome := Session.appendFilled blank ids
        rw [← source] at outcome
        have unparsed :
            (if (session.receive chunk.toList).kept.stack.isEmpty then Status.invalid else .pending) ≠ .parsed := by
          split <;> simp
        exact courseSettles (by simp) (session.receive chunk.toList) unparsed rfl outcome

theorem unparsedReset (reset : step.event = .reset) : ¬ step.Parsed := by
  rw [Parsed, returned, if_pos reset]
  simp

theorem outcomeReset (reset : step.event = .reset) : step.outcome = ⟨{}, none, step.ids⟩ := by rw [outcome, reset]

theorem reported (step : Step) :
    step.outcome.update = if step.Parsed then some ⟨step.chunk, step.outcome.session.email⟩ else none := by
  cases step.course with
  | reads parsed email update _ => rw [if_pos parsed, email, update]
  | idles _ unparsed _ update _ => rw [if_neg unparsed, update]
  | clears reset => rw [if_neg (unparsedReset reset), outcomeReset reset]

theorem unmoved {status : Status} (returned : step.returned = some status) (other : status ≠ .parsed) :
    step.outcome.update = none ∧ step.outcome.session.email = step.session.email ∧ step.outcome.ids = step.ids := by
  cases step.course with
  | reads parsed _ _ _ => exact absurd (Option.some.inj (returned.symm.trans parsed)) other
  | idles _ _ email update ids => exact ⟨update, email, ids⟩
  | clears reset =>
      rw [Step.returned, if_pos reset] at returned
      contradiction

end Step

theorem verdictPending {kept : Kept} (pending : verdict kept = .pending) : kept.text = [] ∨ kept.stack ≠ [] := by
  unfold verdict at pending
  split at pending
  · exact .inl (List.isEmpty_iff.mp ‹_›)
  · split at pending <;> try contradiction
    split at pending <;> try contradiction
    exact .inr fun shut => ‹¬ _› (List.isEmpty_iff.mpr shut)

theorem verdictInvalid {kept : Kept} (invalid : verdict kept = .invalid) : kept.text ≠ [] ∧ kept.stack = [] := by
  unfold verdict at invalid
  split at invalid <;> try contradiction
  rename_i filled
  split at invalid <;> try contradiction
  split at invalid <;> try contradiction
  exact ⟨fun blank => filled (List.isEmpty_iff.mpr blank), List.isEmpty_iff.mp ‹_›⟩

theorem Session.wellFormedBlank (session : Session) : session.wellFormed = "" ↔ session.kept.text = [] := by
  rw [wellFormed, ← String.toList_eq_nil_iff, String.toList_ofList]

theorem Kept.openTagsShut (kept : Kept) : kept.openTags = [] ↔ kept.stack = [] := List.reverse_eq_nil_iff

namespace Step

variable {step : Step}

theorem statusAppend {chunk : String} (event : step.event = .append chunk) :
    step.returned = some (verdict step.outcome.session.kept) := by
  have running : step.event ≠ .reset := by simp [event]
  have outcome : step.outcome = step.session.append chunk step.ids := by rw [Step.outcome, event]
  rw [returnedRunning running, outcome, Session.appendStatus, Session.appendKept]

def all (state : Session × Ids) : List Event → List Step
  | [] => []
  | event :: rest => ⟨event, state.1, state.2⟩ :: all (Session.step state event) rest

theorem next (state : Session × Ids) (event : Event) :
    Session.step state event = ((⟨event, state.1, state.2⟩ : Step).outcome.session,
      (⟨event, state.1, state.2⟩ : Step).outcome.ids) := by
  cases event <;> rfl

theorem allSnoc (state : Session × Ids) (events : List Event) (event : Event) :
    all state (events ++ [event]) =
      all state events ++ [⟨event, (Session.run state events).1, (Session.run state events).2⟩] := by
  induction events generalizing state with
  | nil => rfl
  | cons first rest ih => exact congrArg (⟨first, state.1, state.2⟩ :: ·) (ih (Session.step state first))

def latest? (trace : List Step) : Option Step :=
  (trace.reverse.takeWhile fun step => step.event ≠ .reset).find? fun step => step.Parsed

theorem latestSnoc (trace : List Step) (step : Step) : latest? (trace ++ [step]) =
    if step.event = .reset then none else if step.Parsed then some step else latest? trace := by
  unfold latest?
  rw [List.reverse_concat, List.takeWhile_cons]
  by_cases reset : step.event = .reset
  · simp [reset]
  · by_cases parsed : step.Parsed <;> simp [reset, parsed]

theorem emailLatest (ids : Ids) (events : List Event) :
    (Session.run ({}, ids) events).1.email = (latest? (all ({}, ids) events)).elim [] reading := by
  induction events using List.reverseRecOn with
  | nil => rfl
  | append_singleton events event ih =>
      generalize reached : Session.run ({}, ids) events = state at ih
      have last : Session.run ({}, ids) (events ++ [event]) = Session.step state event := by
        rw [← reached, Session.run, List.foldl_append]
        rfl
      have after := congrArg (·.1.email) (next state event)
      rw [allSnoc, reached, latestSnoc, last]
      refine after.trans ?_
      cases course ⟨event, state.1, state.2⟩ with
      | reads parsed email _ _ =>
          have running : event ≠ .reset := fun reset => unparsedReset reset parsed
          rw [if_neg running, if_pos parsed, email]
          rfl
      | idles running unparsed email _ _ => rw [if_neg running, if_neg unparsed, email, ih]
      | clears reset =>
          rw [if_pos reset, outcomeReset reset]
          rfl

theorem supply (step : Step) : step.outcome.ids.name = step.ids.name ∧ step.ids.next ≤ step.outcome.ids.next := by
  cases step.course with
  | reads _ _ _ ids =>
      rw [ids, readOfContents, Email.ofContentsSupply]
      exact ⟨rfl, Nat.le_add_right _ _⟩
  | idles _ _ _ _ ids => exact ⟨congrArg Ids.name ids, (congrArg Ids.next ids).ge⟩
  | clears reset =>
      rw [outcomeReset reset]
      exact ⟨rfl, Nat.le_refl _⟩

theorem drawn (parsed : step.Parsed) : ∀ component ∈ step.outcome.session.email,
    ∃ n, step.ids.next ≤ n ∧ n < step.outcome.ids.next ∧ component.id = step.ids.name n := by
  cases step.course with
  | reads _ email _ ids =>
      rw [email, reading, ids, readOfContents, Email.ofContentsSupply]
      exact Email.ofContentsDrawn _ _
  | idles _ unparsed _ _ _ => exact absurd parsed unparsed
  | clears reset => exact absurd parsed (unparsedReset reset)

theorem allLater (state : Session × Ids) (events : List Event) :
    ∀ later ∈ all state events, later.ids.name = state.2.name ∧ state.2.next ≤ later.ids.next := by
  induction events generalizing state with
  | nil => simp [all]
  | cons event rest ih =>
      have here := supply ⟨event, state.1, state.2⟩
      have after := congrArg Prod.snd (next state event)
      dsimp only at after
      refine List.forall_mem_cons.mpr ⟨⟨rfl, Nat.le_refl _⟩, fun later h => ?_⟩
      obtain ⟨name, least⟩ := ih _ later h
      rw [after] at name least
      exact ⟨name.trans here.1, Nat.le_trans here.2 least⟩

theorem readingsApart {state : Session × Ids} (fresh : state.2.Fresh) (events : List Event) :
    (all state events).Pairwise fun earlier later => earlier.Parsed → later.Parsed →
      ∀ a ∈ earlier.outcome.session.email, ∀ b ∈ later.outcome.session.email, a.id.Apart b.id := by
  induction events generalizing state with
  | nil => exact .nil
  | cons event rest ih =>
      have here := supply ⟨event, state.1, state.2⟩
      have after := congrArg Prod.snd (next state event)
      dsimp only at here after
      refine List.pairwise_cons.mpr ⟨fun later h first second a ha b hb => ?_, ih ?_⟩
      · obtain ⟨m, least, most, named⟩ := drawn first a ha
        obtain ⟨n, behind, _, other⟩ := drawn second b hb
        obtain ⟨name, grown⟩ := allLater _ rest later h
        rw [after] at name grown
        rw [named, other, name, here.1]
        exact fresh m n least (Nat.lt_of_lt_of_le most (Nat.le_trans grown behind))
      · intro m n least
        rw [after] at least ⊢
        rw [here.1]
        exact fresh m n (Nat.le_trans here.2 least)

end Step

def Update.shown (update : Update) : String × List Props := (update.chunk, update.email.contents)

structure Session.Alike (s t : Session) : Prop where
  settled : s.settled = t.settled
  lastLine : s.lastLine = t.lastLine
  buffer : s.buffer = t.buffer
  status : s.status = t.status
  contents : s.email.contents = t.email.contents

structure Outcome.Alike (a b : Outcome) : Prop where
  session : a.session.Alike b.session
  update : a.update.map Update.shown = b.update.map Update.shown

namespace Session.Alike

variable {s t : Session} (alike : s.Alike t)
include alike

theorem kept : s.kept = t.kept := by rw [Session.kept, Session.kept, alike.settled, alike.lastLine]

theorem wellFormed : s.wellFormed = t.wellFormed := by rw [Session.wellFormed, Session.wellFormed, alike.kept]

theorem receive (chunk : List Char) : (s.receive chunk).Alike (t.receive chunk) where
  settled := by simp only [Session.receive, alike.settled, alike.lastLine]
  lastLine := by simp only [Session.receive, alike.lastLine]
  buffer := by simp only [Session.receive, alike.buffer]
  status := alike.status
  contents := alike.contents

theorem settle (chunk source : String) (otherwise : Status) (ids others : Ids) :
    (s.settle chunk (Email.read source ids) otherwise).Alike (t.settle chunk (Email.read source others) otherwise) := by
  have same : (Email.read source ids).1.contents = (Email.read source others).1.contents := by
    rw [readContents, readContents]
  by_cases none : (Email.read source ids).1 = []
  · have nothing : (Email.read source others).1 = [] := by
      rw [none] at same
      exact List.map_eq_nil_iff.mp same.symm
    rw [settleIdles none, settleIdles nothing]
    exact ⟨⟨alike.settled, alike.lastLine, alike.buffer, rfl, alike.contents⟩, rfl⟩
  · have filled : (Email.read source others).1 ≠ [] := by
      intro nothing
      rw [nothing] at same
      exact none (List.map_eq_nil_iff.mp same)
    rw [settleReads none, settleReads filled]
    exact ⟨⟨alike.settled, alike.lastLine, alike.buffer, rfl, same⟩,
      congrArg (fun contents => some (chunk, contents)) same⟩

theorem append (chunk : String) (ids others : Ids) : (s.append chunk ids).Alike (t.append chunk others) := by
  have received := alike.receive chunk.toList
  by_cases blank : (s.receive chunk.toList).kept.text.isEmpty
  · have other := blank
    rw [received.kept] at other
    rw [appendBlank blank, appendBlank other]
    exact ⟨⟨received.settled, received.lastLine, received.buffer, rfl, received.contents⟩, rfl⟩
  · have other := blank
    rw [received.kept] at other
    rw [appendFilled blank, appendFilled other, received.wellFormed, received.kept]
    exact received.settle _ _ _ _ _

theorem finalize (ids others : Ids) : (s.finalize ids).Alike (t.finalize others) := by
  rw [Session.finalize, Session.finalize, alike.buffer]
  exact alike.settle _ _ _ _ _

end Session.Alike

structure View where
  returned : Option Status
  update : Option (String × List Props)
  status : Status
  contents : List Props
  openTags : List (List Char)
  wellFormed : String
  buffer : List Char
  deriving DecidableEq, Repr

namespace Step

def view (step : Step) : View :=
  let session := step.outcome.session
  ⟨step.returned, step.outcome.update.map Update.shown, session.status, session.email.contents, session.kept.openTags,
    session.wellFormed, session.buffer⟩

variable {s t : Session}

theorem outcomeAlike (alike : s.Alike t) (event : Event) (ids others : Ids) :
    (⟨event, s, ids⟩ : Step).outcome.Alike (⟨event, t, others⟩ : Step).outcome := by
  cases event with
  | append chunk => exact alike.append chunk ids others
  | finalize => exact alike.finalize ids others
  | reset => exact ⟨⟨rfl, rfl, rfl, rfl, rfl⟩, rfl⟩

theorem viewAlike (alike : s.Alike t) (event : Event) (ids others : Ids) :
    (⟨event, s, ids⟩ : Step).view = (⟨event, t, others⟩ : Step).view := by
  obtain ⟨session, update⟩ := outcomeAlike alike event ids others
  rw [view, view, returned, returned, update, session.status, session.contents, session.kept, session.wellFormed,
    session.buffer]

theorem viewsAlike {first second : Session × Ids} (alike : first.1.Alike second.1) (events : List Event) :
    (all first events).map view = (all second events).map view := by
  induction events generalizing first second with
  | nil => rfl
  | cons event rest ih =>
      have after := (outcomeAlike alike event first.2 second.2).session
      have tail : (all (Session.step first event) rest).map view = (all (Session.step second event) rest).map view := by
        refine ih ?_
        rw [next, next]
        exact after
      rw [all, all, List.map_cons, List.map_cons, viewAlike alike event first.2 second.2, tail]

end Step

namespace Session

theorem runsByStep (ids : Ids) (events : List Event) :
    (∀ step ∈ Step.all ({}, ids) events,
      step.outcome.update =
        (if step.returned = some .parsed then some ⟨step.chunk, step.outcome.session.email⟩ else none) ∧
      (step.returned = some .pending ∨ step.returned = some .invalid →
        step.outcome.update = none ∧ step.outcome.session.email = step.session.email) ∧
      ∀ chunk, step.event = .append chunk →
        (step.returned = some .pending →
          step.outcome.session.wellFormed = "" ∨ step.outcome.session.kept.openTags ≠ []) ∧
        (step.returned = some .invalid →
          step.outcome.session.wellFormed ≠ "" ∧ step.outcome.session.kept.openTags = [])) ∧
    (run ({}, ids) events).1.email = (Step.latest? (Step.all ({}, ids) events)).elim [] Step.reading ∧
    (ids.Fresh → (Step.all ({}, ids) events).Pairwise fun earlier later =>
      earlier.returned = some .parsed → later.returned = some .parsed →
      ∀ a ∈ earlier.outcome.session.email, ∀ b ∈ later.outcome.session.email, a.id.Apart b.id) ∧
    ∀ (later : List Event) (others : Ids),
      (Step.all (run ({}, ids) (events ++ [.reset])) later).map Step.view =
        (Step.all ({}, others) later).map Step.view := by
  refine ⟨fun step _ => ⟨step.reported, ?_, fun chunk event => ?_⟩, Step.emailLatest ids events,
    fun fresh => Step.readingsApart fresh events, fun later others => ?_⟩
  · rintro (pending | invalid)
    · exact ⟨(Step.unmoved pending (by simp)).1, (Step.unmoved pending (by simp)).2.1⟩
    · exact ⟨(Step.unmoved invalid (by simp)).1, (Step.unmoved invalid (by simp)).2.1⟩
  · rw [Step.statusAppend event]
    refine ⟨fun pending => ?_, fun invalid => ?_⟩
    · rw [wellFormedBlank, ne_eq, Kept.openTagsShut]
      exact verdictPending (Option.some.inj pending)
    · rw [ne_eq, wellFormedBlank, Kept.openTagsShut]
      exact verdictInvalid (Option.some.inj invalid)
  · have reset : (run ({}, ids) (events ++ [.reset])).1 = {} := by
      rw [run, List.foldl_append]
      rfl
    refine Step.viewsAlike ?_ later
    rw [reset]
    exact ⟨rfl, rfl, rfl, rfl, rfl⟩

def mixedEvents : List Event :=
  [.append "<Text>a\n", .append "</Text>", .finalize, .reset, .append "<Bold/>"]

theorem runsMixedByStep : (Step.all ({}, Ids.numbered) mixedEvents).map Step.returned =
      [some .pending, some .parsed, some .parsed, none, some .invalid] ∧
    (Step.all ({}, Ids.numbered) mixedEvents).map (·.outcome.update.isSome) = [false, true, true, false, false] ∧
    (run ({}, Ids.numbered) mixedEvents).1.email = [] ∧
    (∀ a ∈ (run ({}, Ids.numbered) (mixedEvents.take 2)).1.email,
      ∀ b ∈ (run ({}, Ids.numbered) (mixedEvents.take 3)).1.email, a.id.Apart b.id) := by
  have statuses : (Step.all ({}, Ids.numbered) mixedEvents).map Step.returned =
      [some .pending, some .parsed, some .parsed, none, some .invalid] := by decide +kernel
  obtain ⟨steps, latest, apart, _⟩ := runsByStep Ids.numbered mixedEvents
  have updates : (Step.all ({}, Ids.numbered) mixedEvents).map (·.outcome.update.isSome) =
      ((Step.all ({}, Ids.numbered) mixedEvents).map Step.returned).map (decide <| · = some Status.parsed) := by
    rw [List.map_map]
    refine List.map_congr_left fun step member => ?_
    rw [(steps step member).1]
    by_cases parsed : step.returned = some .parsed <;> simp [parsed]
  have readings := List.pairwise_iff_getElem.mp (apart Handle.numberedFresh) 1 2 (by decide) (by decide) (by decide)
  refine ⟨statuses, ?_, latest.trans (by decide +kernel), readings (by decide +kernel) (by decide +kernel)⟩
  rw [updates, statuses]
  decide

end Session
end EmailMarkup.Stream
