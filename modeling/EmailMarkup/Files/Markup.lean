import EmailMarkup.Component.Markup
import EmailMarkup.Files.Content

/-! Elements of template files. -/
namespace EmailMarkup.Files
open Markup (Element)

def World.elements (world : World) (path : String) : Except ContentError (List Element) :=
  (world.readMarked path).map Markup.elements

/-- A file that cannot be opened leaves a record. One that is not in UTF-8 leaves none, nor does an impossible
name. -/
def World.elementRecords (world : World) (path : String) : Journal :=
  match world.readMarked path with
  | .ok source => [Email.parsedRecord source]
  | .error (.file ⟨.zeroByte, _⟩) => []
  | .error (.file error) =>
      [⟨.error, .parsing,
        [.plain "Error reading JSX file ", .plain error.path, .plain ": ", .plain error.message]⟩]
  | .error .encoding => []

end EmailMarkup.Files
