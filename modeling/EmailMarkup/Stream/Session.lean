import EmailMarkup.Component.Markup
import EmailMarkup.Stream.Lines

/-! A session that follows a markup text arriving in chunks. Lines that are complete are judged once; the line still
being written is judged afresh after every chunk. The kept lines are read after every chunk, and the email is
replaced whenever the reading yields a component. -/
namespace EmailMarkup.Stream
open Text (lines)

inductive Status where
  | pending
  | parsed
  | invalid
  deriving DecidableEq, Repr

def Status.name : Status → String
  | .pending => "pending"
  | .parsed => "parsed"
  | .invalid => "invalid"

structure Session where
  settled : Kept := Kept.empty
  lastLine : List Char := []
  buffer : List Char := []
  email : Email := []
  status : Status := .pending
  deriving Repr

structure Update where
  chunk : String
  email : Email
  deriving Repr

structure Outcome where
  session : Session
  update : Option Update
  ids : Ids

namespace Session

def kept (session : Session) : Kept := session.settled.step session.lastLine

def receive (session : Session) (chunk : List Char) : Session :=
  let pieces := lines (session.lastLine ++ chunk)
  { session with
    settled := session.settled.run pieces.dropLast
    lastLine := pieces.getLast?.getD []
    buffer := session.buffer ++ chunk }

def wellFormed (session : Session) : String := String.ofList session.kept.text

def settle (session : Session) (chunk : String) (read : Email × Ids) (otherwise : Status) : Outcome :=
  if read.1.isEmpty then ⟨{ session with status := otherwise }, none, read.2⟩
  else ⟨{ session with email := read.1, status := .parsed }, some ⟨chunk, read.1⟩, read.2⟩

/-- A chunk that leaves nothing to read, or nothing to show for it while a tag is open, leaves the session pending. -/
def append (session : Session) (chunk : String) (ids : Ids) : Outcome :=
  let session := session.receive chunk.toList
  if session.kept.text.isEmpty then ⟨{ session with status := .pending }, none, ids⟩
  else session.settle chunk (Email.read session.wellFormed ids)
    (if session.kept.stack.isEmpty then .invalid else .pending)

def finalize (session : Session) (ids : Ids) : Outcome :=
  session.settle "" (Email.read (String.ofList session.buffer) ids) .invalid

def appendRecords (session : Session) (chunk : String) : Journal :=
  let session := session.receive chunk.toList
  if session.kept.text.isEmpty then [] else Email.readRecords session.wellFormed

def finalizeRecords (session : Session) (ids : Ids) : Journal :=
  let source := String.ofList session.buffer
  Email.readRecords source ++
    if (Email.read source ids).1.isEmpty then
      [⟨.warning, .streaming, [.plain "Failed to finalize parse: no components in ",
        .plain (toString source.length), .plain " buffered characters"]⟩]
    else []

end Session
end EmailMarkup.Stream
