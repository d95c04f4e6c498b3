import EmailMarkup.Files.Access
import EmailMarkup.Text.Lines

/-! Template texts in files. They are stored as they are, in UTF-8. On reading, one byte order mark at the front is
dropped and every newline convention becomes a line feed. -/
namespace EmailMarkup.Files

inductive ContentError where
  | file (error : FileError)
  | encoding
  deriving DecidableEq, Repr

/-- The bytes behind a byte order mark. A mark that breaks off counts as one if nothing else is there. -/
def withoutMark (bytes : ByteArray) : ByteArray :=
  match bytes.toList with
  | [0xef] => .empty
  | [0xef, 0xbb] => .empty
  | 0xef :: 0xbb :: 0xbf :: _ => bytes.extract 3 bytes.size
  | _ => bytes

def decode (bytes : ByteArray) : Option String :=
  (String.fromUTF8? bytes).map fun text => String.ofList (Text.foldNewlines text.toList)

def World.readWith (world : World) (path : String) (prepare : ByteArray → ByteArray) :
    Except ContentError String :=
  match world.readBytes path with
  | .error fault => .error (.file ⟨fault, path⟩)
  | .ok bytes =>
      match decode (prepare bytes) with
      | some text => .ok text
      | none => .error .encoding

def World.read (world : World) (path : String) : Except ContentError String := world.readWith path withoutMark

def World.readMarked (world : World) (path : String) : Except ContentError String :=
  world.readWith (Path.ofText path).text id

def World.write (world : World) (path : String) (text : String) : World.Attempt :=
  let path := Path.ofText path
  let folders := world.ensure path.parent
  if folders.failure.isSome then folders else folders.world.writeBytes path text.toUTF8

end EmailMarkup.Files
