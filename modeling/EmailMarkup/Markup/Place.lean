import EmailMarkup.Markup.Head
import EmailMarkup.Text.Blank

/-! What stands at the places of a text, without taking anything out of it. -/
namespace EmailMarkup.Markup
open Text (word isBlank)

variable {α : Type}

def places (test : List Char → Option α) : List Char → List α
  | [] => []
  | c :: rest => (test (c :: rest)).toList ++ places test rest

def named? : List Char → Option (List Char)
  | '<' :: rest => if (word rest).1.isEmpty then none else some (word rest).1
  | _ => none

def opening? (atEnd : Bool) : List Char → Option (List Char)
  | '<' :: rest =>
      match word rest with
      | ([], _) => none
      | (name, c :: _) => if isBlank c || c == '>' then some name else none
      | (name, []) => if atEnd then some name else none
  | _ => none

end EmailMarkup.Markup
