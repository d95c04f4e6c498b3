import EmailMarkup.Proofs.Block
import EmailMarkup.Stream.Session

/-! Sessions as runs of events. What a session keeps between chunks stands for the text received so far: its settled
lines are the complete lines of the text, and its last line is what follows them. So a run ends where one reading of
the whole text ends, wherever the chunks were cut. -/
namespace EmailMarkup.Stream
open Text (lines linesSnoc linesAppend linesNonempty)

inductive Event where
  | append (chunk : String)
  | finalize
  | reset
  deriving DecidableEq, Repr

def receivedFrom : List Char → List Event → List Char
  | s, [] => s
  | s, .append chunk :: rest => receivedFrom (s ++ chunk.toList) rest
  | s, .finalize :: rest => receivedFrom s rest
  | _, .reset :: rest => receivedFrom [] rest

def received (events : List Event) : List Char := receivedFrom [] events

def verdict (kept : Kept) : Status :=
  if kept.text.isEmpty then .pending
  else if (contentsOf kept.text).isEmpty then (if kept.stack.isEmpty then .invalid else .pending)
  else .parsed

theorem verdictParsed (kept : Kept) : verdict kept = .parsed ↔ ¬ (contentsOf kept.text).isEmpty := by
  unfold verdict
  split
  · rename_i blank
    have nothing : contentsOf [] = [] := rfl
    simp [List.isEmpty_iff.mp blank, nothing]
  · cases contentsOf kept.text <;> simp
    split <;> simp

namespace Session

def step (state : Session × Ids) : Event → Session × Ids
  | .append chunk => ((state.1.append chunk state.2).session, (state.1.append chunk state.2).ids)
  | .finalize => ((state.1.finalize state.2).session, (state.1.finalize state.2).ids)
  | .reset => ({}, state.2)

def run (state : Session × Ids) (events : List Event) : Session × Ids := events.foldl step state

def Follows (session : Session) : Prop :=
  session.settled = Kept.empty.run (lines session.buffer).dropLast ∧
  session.lastLine = (lines session.buffer).getLast?.getD []

theorem freshFollows : Follows {} := ⟨rfl, rfl⟩

theorem followsKept {session : Session} (follows : session.Follows) :
    session.kept = Kept.empty.run (lines session.buffer) := by
  have whole := Kept.runAppend Kept.empty (lines session.buffer).dropLast [session.lastLine]
  rw [follows.2, ← linesSnoc, ← follows.1] at whole
  rw [whole, kept, follows.2]
  rfl

theorem receiveFollows {session : Session} (follows : session.Follows) (chunk : List Char) :
    (session.receive chunk).Follows := by
  have some := linesNonempty (session.lastLine ++ chunk)
  have whole : lines (session.buffer ++ chunk) =
      (lines session.buffer).dropLast ++ lines (session.lastLine ++ chunk) := by
    rw [linesAppend, ← follows.2]
  constructor
  · change session.settled.run (lines (session.lastLine ++ chunk)).dropLast =
      Kept.empty.run (lines (session.buffer ++ chunk)).dropLast
    rw [whole, List.dropLast_append_of_ne_nil some, Kept.runAppend, ← follows.1]
  · change (lines (session.lastLine ++ chunk)).getLast?.getD [] =
      (lines (session.buffer ++ chunk)).getLast?.getD []
    rw [whole, List.getLast?_append, List.getLast?_eq_some_getLast some]
    rfl

theorem settleFrame (session : Session) (chunk : String) (read : Email × Ids) (otherwise : Status) :
    (session.settle chunk read otherwise).session.settled = session.settled ∧
    (session.settle chunk read otherwise).session.lastLine = session.lastLine ∧
    (session.settle chunk read otherwise).session.buffer = session.buffer := by
  unfold settle
  split <;> exact ⟨rfl, rfl, rfl⟩

theorem appendFrame (session : Session) (chunk : String) (ids : Ids) :
    (session.append chunk ids).session.settled = (session.receive chunk.toList).settled ∧
    (session.append chunk ids).session.lastLine = (session.receive chunk.toList).lastLine ∧
    (session.append chunk ids).session.buffer = session.buffer ++ chunk.toList := by
  unfold append
  dsimp only
  split
  · exact ⟨rfl, rfl, rfl⟩
  · exact settleFrame _ _ _ _

theorem appendFollows {session : Session} (follows : session.Follows) (chunk : String) (ids : Ids) :
    (session.append chunk ids).session.Follows := by
  obtain ⟨settled, lastLine, buffer⟩ := session.appendFrame chunk ids
  have next := receiveFollows follows chunk.toList
  exact ⟨by rw [settled, buffer]; exact next.1, by rw [lastLine, buffer]; exact next.2⟩

theorem appendKept (session : Session) (chunk : String) (ids : Ids) :
    (session.append chunk ids).session.kept = (session.receive chunk.toList).kept := by
  obtain ⟨settled, lastLine, _⟩ := session.appendFrame chunk ids
  rw [kept, settled, lastLine, kept]

theorem finalizeFollows {session : Session} (follows : session.Follows) (ids : Ids) :
    (session.finalize ids).session.Follows := by
  obtain ⟨settled, lastLine, buffer⟩ :=
    session.settleFrame "" (Email.read (String.ofList session.buffer) ids) .invalid
  exact ⟨by rw [finalize, settled, buffer]; exact follows.1, by rw [finalize, lastLine, buffer]; exact follows.2⟩

theorem stepAppend (state : Session × Ids) (chunk : String) :
    (step state (.append chunk)).1 = (state.1.append chunk state.2).session := by rw [step]

theorem stepFinalize (state : Session × Ids) :
    (step state .finalize).1 = (state.1.finalize state.2).session := by rw [step]

theorem stepFollows {state : Session × Ids} (follows : state.1.Follows) (event : Event) :
    (step state event).1.Follows := by
  cases event with
  | append chunk =>
      rw [stepAppend]
      exact appendFollows follows chunk state.2
  | finalize =>
      rw [stepFinalize]
      exact finalizeFollows follows state.2
  | reset => exact freshFollows

theorem runFollows {state : Session × Ids} (follows : state.1.Follows) (events : List Event) :
    (run state events).1.Follows := by
  induction events generalizing state with
  | nil => exact follows
  | cons event rest ih => exact ih (stepFollows follows event)

theorem runBuffer (state : Session × Ids) (events : List Event) :
    (run state events).1.buffer = receivedFrom state.1.buffer events := by
  induction events generalizing state with
  | nil => rfl
  | cons event rest ih =>
      refine (ih (step state event)).trans ?_
      cases event with
      | append chunk => rw [stepAppend, (state.1.appendFrame chunk state.2).2.2, receivedFrom]
      | finalize =>
          have same := (state.1.settleFrame "" (Email.read (String.ofList state.1.buffer) state.2) .invalid).2.2
          rw [stepFinalize, finalize, same, receivedFrom]
      | reset => rfl

theorem readEmpty (source : String) (ids : Ids) :
    (Email.read source ids).1.isEmpty = (contentsOf source.toList).isEmpty := by
  rw [← readContents source ids, Email.contents]
  cases (Email.read source ids).1 <;> rfl

theorem settleStatus (session : Session) (chunk : String) (read : Email × Ids) (otherwise : Status) :
    (session.settle chunk read otherwise).session.status = if read.1.isEmpty then otherwise else .parsed := by
  unfold settle
  split <;> rfl

theorem settleEmail (session : Session) (chunk : String) (read : Email × Ids) (otherwise : Status) :
    (session.settle chunk read otherwise).session.email = if read.1.isEmpty then session.email else read.1 := by
  unfold settle
  split <;> rfl

theorem appendBlank {session : Session} {chunk : String} (blank : (session.receive chunk.toList).kept.text.isEmpty)
    (ids : Ids) :
    session.append chunk ids = ⟨{ session.receive chunk.toList with status := .pending }, none, ids⟩ := by
  rw [append]
  exact if_pos blank

theorem appendFilled {session : Session} {chunk : String}
    (filled : ¬ (session.receive chunk.toList).kept.text.isEmpty) (ids : Ids) :
    session.append chunk ids = (session.receive chunk.toList).settle chunk
      (Email.read (session.receive chunk.toList).wellFormed ids)
      (if (session.receive chunk.toList).kept.stack.isEmpty then .invalid else .pending) := by
  rw [append]
  exact if_neg filled

theorem wellFormedEmpty (session : Session) (ids : Ids) :
    (Email.read session.wellFormed ids).1.isEmpty = (contentsOf session.kept.text).isEmpty := by
  rw [readEmpty, wellFormed, String.toList_ofList]

theorem appendStatus (session : Session) (chunk : String) (ids : Ids) :
    (session.append chunk ids).session.status = verdict (session.receive chunk.toList).kept := by
  unfold verdict
  split
  · rename_i blank
    rw [appendBlank blank]
  · rename_i filled
    rw [appendFilled filled, settleStatus, wellFormedEmpty]

/- The email is the reading of the kept lines exactly when their verdict says so. -/
theorem appendContents (session : Session) (chunk : String) (ids : Ids) :
    (session.append chunk ids).session.email.contents =
      if verdict (session.receive chunk.toList).kept = .parsed then contentsOf (session.receive chunk.toList).kept.text
      else session.email.contents := by
  have read := readContents (session.receive chunk.toList).wellFormed ids
  rw [wellFormed, String.toList_ofList, ← wellFormed] at read
  unfold verdict
  split
  · rename_i blank
    rw [appendBlank blank]
    rfl
  · rename_i filled
    rw [appendFilled filled, settleEmail, wellFormedEmpty]
    split
    · split <;> rfl
    · exact read

theorem finalizeContents (session : Session) (ids : Ids) :
    (session.finalize ids).session.email.contents =
      if (contentsOf session.buffer).isEmpty then session.email.contents else contentsOf session.buffer := by
  have read := readContents (String.ofList session.buffer) ids
  rw [finalize, settleEmail, readEmpty, String.toList_ofList]
  rw [String.toList_ofList] at read
  split
  · rfl
  · exact read

structure After (session : Session) (text : List Char) (before : List Props) : Prop where
  kept : session.kept = Kept.empty.run (lines text)
  buffer : session.buffer = text
  status : session.status = verdict (Kept.empty.run (lines text))
  contents : session.email.contents =
    if verdict (Kept.empty.run (lines text)) = .parsed then contentsOf (Kept.empty.run (lines text)).text else before

theorem appendAfter {session : Session} (follows : session.Follows) (chunk : String) (ids : Ids) :
    After (session.append chunk ids).session (session.buffer ++ chunk.toList) session.email.contents := by
  have kept := followsKept (receiveFollows follows chunk.toList)
  have status := session.appendStatus chunk ids
  have contents := session.appendContents chunk ids
  rw [kept] at status contents
  exact ⟨(session.appendKept chunk ids).trans kept, (session.appendFrame chunk ids).2.2, status, contents⟩

theorem runAfter (events : List Event) (last : String) (ids : Ids) :
    After (run ({}, ids) (events ++ [.append last])).1 (received events ++ last.toList)
      (run ({}, ids) events).1.email.contents := by
  have snoc : (run ({}, ids) (events ++ [.append last])).1 =
      ((run ({}, ids) events).1.append last (run ({}, ids) events).2).session := by
    rw [run, List.foldl_append, List.foldl_cons, List.foldl_nil, stepAppend, ← run]
  have fresh : (({}, ids) : Session × Ids).1.Follows := freshFollows
  have after := appendAfter (runFollows fresh events) last (run ({}, ids) events).2
  rwa [← snoc, runBuffer] at after

theorem rescansBuffer (events : List Event) (last : String) (ids others : Ids) :
    let text := received events ++ last.toList
    let session := (run ({}, ids) (events ++ [.append last])).1
    let once := (({} : Session).append (String.ofList text) others).session
    session.kept = Kept.empty.run (lines text) ∧ session.buffer = text ∧ once.buffer = text ∧
    session.kept.lines = once.kept.lines ∧ session.kept.openTags = once.kept.openTags ∧
    session.wellFormed = once.wellFormed ∧ session.status = once.status ∧
    (session.status = .parsed → session.email.contents = once.email.contents) := by
  intro text session once
  have many : After session text _ := runAfter events last ids
  have one : After once ([] ++ (String.ofList text).toList) [] := appendAfter freshFollows _ others
  rw [List.nil_append, String.toList_ofList] at one
  have kept : session.kept = once.kept := many.kept.trans one.kept.symm
  refine ⟨many.kept, many.buffer, one.buffer, by rw [kept], by rw [kept], by rw [wellFormed, kept, wellFormed],
    many.status.trans one.status.symm, fun parsed => ?_⟩
  rw [many.status] at parsed
  rw [many.contents, one.contents, if_pos parsed, if_pos parsed]

def cutDivider : List Event :=
  [.append "sale\n<Hr borderCol", .finalize, .append "or=\"red\" border", .append "", .append "Width='1px' /"]

theorem rescansCutDivider :
    (run ({}, Ids.numbered) (cutDivider ++ [.append ">\n"])).1.status = .parsed ∧
    (run ({}, Ids.numbered) (cutDivider ++ [.append ">\n"])).1.email.contents = [.divider ⟨"red", "1px"⟩] := by
  have parsed : (run ({}, Ids.numbered) (cutDivider ++ [.append ">\n"])).1.status = .parsed := by decide +kernel
  obtain ⟨_, _, _, _, _, _, _, contents⟩ := rescansBuffer cutDivider ">\n" Ids.numbered Ids.numbered
  refine ⟨parsed, (contents parsed).trans ?_⟩
  decide +kernel

end Session
end EmailMarkup.Stream
