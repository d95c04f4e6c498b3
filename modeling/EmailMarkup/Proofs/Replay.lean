import EmailMarkup.Proofs.Rescan
import EmailMarkup.Stream.Replay
import Mathlib.Data.List.Infix

/-! Where a replay ends. A chunk replaces the email only if the lines kept so far show a component, and so does the
whole text in the end. What a replay hands back is therefore the last reading that showed any: that of the whole text,
if it has a component, and else one made along the way. -/
namespace EmailMarkup.Stream
open Text (lines)

def seen (text : List Char) : List Props := contentsOf (Kept.empty.run (lines text)).text

def lastShown (readings : List (List Props)) : List Props :=
  (readings.filter fun reading => !reading.isEmpty).getLast?.getD []

def readings (chunks : List (List Char)) : List (List Props) := chunks.inits.map fun taken => seen taken.flatten

theorem lastShownSnoc (readings : List (List Props)) (reading : List Props) :
    lastShown (readings ++ [reading]) = if reading.isEmpty then lastShown readings else reading := by
  unfold lastShown
  rw [List.filter_append]
  cases reading <;> simp

theorem readingsSnoc (chunks : List (List Char)) (chunk : List Char) :
    readings (chunks ++ [chunk]) = readings chunks ++ [seen (chunks.flatten ++ chunk)] := by
  simp [readings, List.inits_append]

namespace Session

def arrivals (chunks : List (List Char)) : List Event := chunks.map fun chunk => .append (String.ofList chunk)

theorem receivedArrivals (chunks : List (List Char)) (s : List Char) :
    receivedFrom s (arrivals chunks) = s ++ chunks.flatten := by
  induction chunks generalizing s with
  | nil => simp [arrivals, receivedFrom]
  | cons chunk rest ih => simpa [arrivals, receivedFrom] using ih (s ++ chunk)

theorem arrivedContents (chunks : List (List Char)) (ids : Ids) :
    (run ({}, ids) (arrivals chunks)).1.email.contents = lastShown (readings chunks) := by
  induction chunks using List.reverseRecOn with
  | nil => rfl
  | append_singleton chunks chunk ih =>
      have next : arrivals (chunks ++ [chunk]) = arrivals chunks ++ [.append (String.ofList chunk)] := by
        simp [arrivals]
      have after := (runAfter (arrivals chunks) (String.ofList chunk) ids).contents
      rw [received, receivedArrivals, String.toList_ofList, List.nil_append] at after
      rw [next, after, if_congr (verdictParsed _) rfl rfl, ite_not, readingsSnoc, lastShownSnoc, ih]
      rfl

end Session

namespace Replay
open Session (arrivals)

theorem chunksWithJoin {size fuel : Nat} (positive : 0 < size) {s : List Char} (enough : s.length ≤ fuel) :
    (chunksWith size fuel s).flatten = s := by
  induction fuel generalizing s with
  | zero =>
      rw [List.length_eq_zero_iff.mp (Nat.le_zero.mp enough)]
      rfl
  | succ fuel ih =>
      cases s with
      | nil => rfl
      | cons c s =>
          have shorter : ((c :: s).drop size).length ≤ fuel := by
            simp only [List.length_drop, List.length_cons] at enough ⊢
            omega
          rw [chunksWith, List.flatten_cons, ih shorter, List.take_append_drop]
          exact List.cons_ne_nil c s

theorem chunksJoin {size : Nat} (positive : 0 < size) (s : List Char) : (chunks size s).flatten = s :=
  chunksWithJoin positive (Nat.le_refl _)

theorem chunksText {size : Nat} (positive : 0 < size) (source : String) :
    String.join ((chunks size source.toList).map String.ofList) = source := by
  rw [← String.toList_inj, String.toList_join, List.flatMap_map]
  simp only [String.toList_ofList]
  rw [List.flatMap_id', chunksJoin positive]

theorem playChunks {pause : Int} (free : pauseError? pause = none) (chunks : List (List Char)) (session : Session)
    (ids : Ids) :
    (play pause chunks session ids).progress.map Progress.chunk = chunks.map String.ofList ∧
    (play pause chunks session ids).result = .ok
      ((Session.run (session, ids) (arrivals chunks)).1.finalize
        (Session.run (session, ids) (arrivals chunks)).2).session.email := by
  induction chunks generalizing session ids with
  | nil =>
      have still : Session.run (session, ids) (arrivals []) = (session, ids) := rfl
      rw [play, finish, still]
      exact ⟨rfl, rfl⟩
  | cons chunk rest ih =>
      have step : Session.run (session, ids) (arrivals (chunk :: rest)) =
          Session.run ((session.append (String.ofList chunk) ids).session,
            (session.append (String.ofList chunk) ids).ids) (arrivals rest) := by
        rw [arrivals, List.map_cons, Session.run, List.foldl_cons, Session.step, ← Session.run, ← arrivals]
      obtain ⟨progress, result⟩ := ih (session.append (String.ofList chunk) ids).session
        (session.append (String.ofList chunk) ids).ids
      rw [play, free, step]
      exact ⟨by simp [progress], result⟩

theorem runEnds {size : Int} (positive : 1 ≤ size) {pause : Int} (free : pauseError? pause = none) (source : String)
    (ids : Ids) :
    (run source size pause ids).progress.map Progress.chunk =
      (chunks size.toNat source.toList).map String.ofList ∧
    ∃ email, (run source size pause ids).result = .ok email ∧
      email.contents =
        lastShown (readings (chunks size.toNat source.toList) ++ [contentsOf source.toList]) := by
  have start : run source size pause ids = play pause (chunks size.toNat source.toList) {} ids := by
    rw [run, if_neg (by omega)]
  obtain ⟨progress, result⟩ := playChunks free (chunks size.toNat source.toList) {} ids
  rw [start]
  refine ⟨progress, _, result, ?_⟩
  have buffer := Session.runBuffer ({}, ids) (arrivals (chunks size.toNat source.toList))
  rw [Session.receivedArrivals, chunksJoin (by omega)] at buffer
  rw [Session.finalizeContents, buffer, Session.arrivedContents, lastShownSnoc]
  rfl

theorem endsRead {size : Int} (positive : 1 ≤ size) {pause : Int} (free : pauseError? pause = none) (source : String)
    (ids later : Ids) :
    String.join ((run source size pause ids).progress.map Progress.chunk) = source ∧
    ∃ email, (run source size pause ids).result = .ok email ∧
      email.contents = lastShown
        (readings (chunks size.toNat source.toList) ++ [(Email.read source later).1.contents]) ∧
      ((Email.read source later).1 ≠ [] →
        email.contents = (Email.read source later).1.contents ∧
        ∀ other : Int, 1 ≤ other → ∃ same, (run source other pause later).result = .ok same ∧
          same.contents = email.contents) := by
  obtain ⟨progress, email, result, contents⟩ := runEnds positive free source ids
  rw [← readContents source later] at contents
  refine ⟨by rw [progress, chunksText (by omega)], email, result, contents, fun some => ?_⟩
  have shown : ¬ (Email.read source later).1.contents.isEmpty := by simpa [Email.contents] using some
  rw [lastShownSnoc, if_neg shown] at contents
  refine ⟨contents, fun other atLeast => ?_⟩
  obtain ⟨_, same, ended, whole⟩ := runEnds atLeast free source later
  rw [← readContents source later, lastShownSnoc, if_neg shown] at whole
  exact ⟨same, ended, whole.trans contents.symm⟩

def quotedEnd : String := "<Hr a=\"/>\">"

theorem outlivesText :
    (Email.read quotedEnd Ids.numbered).1.contents = [] ∧
    (run quotedEnd 9 50 Ids.numbered).result.toOption.map Email.contents = some [.divider {}] ∧
    (run quotedEnd 12 50 Ids.numbered).result.toOption.map Email.contents = some [] := by
  decide +kernel

def quotedColor : String := "<Hr borderColor=\"/>\" />"

theorem endsQuotedColor :
    String.join ((run quotedColor 5 50 Ids.numbered).progress.map Progress.chunk) = quotedColor ∧
    ∃ email, (run quotedColor 5 50 Ids.numbered).result = .ok email ∧
      email.contents = [.divider { borderColor := "/>" }] := by
  have positive : (1 : Int) ≤ 5 := by decide
  have free : pauseError? 50 = none := by decide +kernel
  have read : (Email.read quotedColor Ids.numbered).1.contents = [.divider { borderColor := "/>" }] := by
    decide +kernel
  obtain ⟨text, email, result, _, whole⟩ := endsRead positive free quotedColor Ids.numbered Ids.numbered
  have some : (Email.read quotedColor Ids.numbered).1 ≠ [] := by
    intro none
    simp [none, Email.contents] at read
  exact ⟨text, email, result, (whole some).1.trans read⟩

end Replay
end EmailMarkup.Stream
