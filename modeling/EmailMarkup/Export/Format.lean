import EmailMarkup.Component.Markup
import EmailMarkup.Export.Html
import EmailMarkup.Export.React

/-! The formats an email is exported in. -/
namespace EmailMarkup

inductive Format where
  | html
  | react
  | markup
  deriving DecidableEq, Repr

namespace Format

def all : List Format := [.html, .react, .markup]

def name : Format → String
  | .html => "html"
  | .react => "react-email"
  | .markup => "jsx"

def ofName? (name : String) : Option Format := all.find? (·.name == name)

def names : List String := all.map Format.name

def defaultTitle : String := "Email Template"

end Format

namespace Email

def html (email : Email) (title : String) : String := String.ofList (Export.Html.write title email.contents)

def react (email : Email) : String := String.ofList (Export.React.write email.contents)

def rendered (email : Email) : Format → String
  | .html => email.html Format.defaultTitle
  | .react => email.react
  | .markup => email.write

structure UnknownFormat where
  name : String
  deriving DecidableEq, Repr

def UnknownFormat.message (unknown : UnknownFormat) : String :=
  "Unknown export format: " ++ unknown.name ++ ". Use one of: " ++ ", ".intercalate Format.names

def exportAs (email : Email) (name : String) : Except UnknownFormat String :=
  match Format.ofName? name with
  | some format => .ok (email.rendered format)
  | none => .error ⟨name⟩

def exportRecord (email : Email) (name : String) : Record :=
  ⟨.info, .exporting,
    [.plain "Exporting ", .plain (toString email.length), .plain " components as ", .plain name]⟩

end Email
end EmailMarkup
