import EmailMarkup.Markup.Head

/-! Attributes: a name, an equals sign and a closed value. Reading takes them out of an attribute span wherever
they stand; writing picks the first form of quoting that the value leaves free. -/
namespace EmailMarkup.Markup
open Text (word)

abbrev Attributes := List (String × String)

def Attributes.put (attributes : Attributes) (name value : String) : Attributes :=
  match attributes with
  | [] => [(name, value)]
  | (other, old) :: rest => if other = name then (name, value) :: rest else (other, old) :: put rest name value

def Attributes.ofPairs (pairs : List (String × String)) : Attributes :=
  pairs.foldl (fun attributes pair => attributes.put pair.1 pair.2) []

def attribute? : Reader (String × String) := fun s =>
  match word s with
  | ([], _) => none
  | (name, '=' :: opener :: rest) => do
      let close ← closer? opener
      let (value, after) ← until? [close] rest
      some ((String.ofList name, String.ofList value), after)
  | _ => none

def attributes (span : List Char) : Attributes := Attributes.ofPairs (sweep attribute? span).items

def enclose (name opener value closer : List Char) : List Char := name ++ ['='] ++ opener ++ value ++ closer

def withoutDoubleQuotes (value : List Char) : List Char :=
  value.flatMap fun c => if c = '"' then "&quot;".toList else [c]

def writeAttribute (name value : String) : List Char :=
  let body := value.toList
  if '"' ∉ body then enclose name.toList ['"'] body ['"']
  else if '\'' ∉ body then enclose name.toList ['\''] body ['\'']
  else if '}' ∉ body then enclose name.toList ['{'] body ['}']
  else enclose name.toList ['"'] (withoutDoubleQuotes body) ['"']

def writeAttributes (pairs : List (String × String)) : List Char :=
  [' '].intercalate (pairs.map fun pair => writeAttribute pair.1 pair.2)

end EmailMarkup.Markup
