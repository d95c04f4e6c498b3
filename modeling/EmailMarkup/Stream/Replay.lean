import EmailMarkup.Number.Binary64
import EmailMarkup.Stream.Session

/-! A finished text played through a session in chunks of one size, with a pause after each. -/
namespace EmailMarkup.Stream

inductive ReplayError where
  | chunkSize (size : Int)
  | negativePause
  | longPause
  | pauseOutOfRange
  deriving DecidableEq, Repr

def ReplayError.message : ReplayError → String
  | .chunkSize size => "chunk_size must be positive, got " ++ toString size
  | .negativePause => "sleep length must be non-negative"
  | .longPause => "timestamp too large to convert to C _PyTime_t"
  | .pauseOutOfRange => "integer division result too large for a float"

/-- What is wrong with a pause of so many milliseconds. In seconds it must be a floating-point number, and in
nanoseconds one of 63 bits and a sign; only then its sign is looked at. -/
def pauseError? (pause : Int) : Option ReplayError :=
  match Number.Binary64.ofFraction false pause.natAbs 1000 with
  | .infinity _ => some .pauseOutOfRange
  | _ =>
      if 0x8000000000000000 ≤ pause.natAbs * 1000000 then some .longPause
      else if pause < 0 then some .negativePause
      else none

structure Progress where
  chunk : String
  count : Nat
  deriving DecidableEq, Repr

structure Replay where
  progress : List Progress
  result : Except ReplayError Email
  ids : Ids
  records : Journal

namespace Replay

def chunksWith (size : Nat) : Nat → List Char → List (List Char)
  | 0, _ => []
  | _ + 1, [] => []
  | fuel + 1, s => s.take size :: chunksWith size fuel (s.drop size)

def chunks (size : Nat) (s : List Char) : List (List Char) := chunksWith size s.length s

def finish (session : Session) (ids : Ids) : Replay :=
  let outcome := session.finalize ids
  ⟨[], .ok outcome.session.email, outcome.ids, session.finalizeRecords ids⟩

/-- A pause that cannot be made fails after the chunk has been taken in and reported. -/
def play (pause : Int) : List (List Char) → Session → Ids → Replay
  | [], session, ids => finish session ids
  | chunk :: rest, session, ids =>
      let text := String.ofList chunk
      let outcome := session.append text ids
      let records := session.appendRecords text
      let progress := ⟨text, outcome.session.email.length⟩
      match pauseError? pause with
      | some error => ⟨[progress], .error error, outcome.ids, records⟩
      | none =>
          let tail := play pause rest outcome.session outcome.ids
          { tail with progress := progress :: tail.progress, records := records ++ tail.records }

def run (source : String) (size pause : Int) (ids : Ids) : Replay :=
  if size < 1 then ⟨[], .error (.chunkSize size), ids, []⟩
  else play pause (chunks size.toNat source.toList) {} ids

end Replay
end EmailMarkup.Stream
