import EmailMarkup.Component.Basic

/-! Content rules for an email that is well formed and may still show badly. At most one issue is raised for a
component. -/
namespace EmailMarkup

inductive Flaw where
  | buttonAddress
  | missingAlt
  | longText
  deriving DecidableEq, Repr

inductive Issue where
  | flaw (index : Nat) (flaw : Flaw)
  | empty
  deriving DecidableEq, Repr

namespace Issue

def index : Issue → Int
  | .flaw index _ => index
  | .empty => -1

def message : Issue → String
  | .flaw index kind =>
      let rule := match kind with
        | .buttonAddress => "Button URL should start with http:// or https://"
        | .missingAlt => "Image missing alt text (accessibility issue)"
        | .longText => "Text block too long (may be truncated in some email clients)"
      "Component " ++ toString (index + 1) ++ ": " ++ rule
  | .empty => "Email is empty - add some content!"

end Issue

namespace Lint

def flaw? (limit : Int) : Props → Option Flaw
  | .button b => if "http".toList.isPrefixOf b.href.toList then none else some .buttonAddress
  | .image i => if i.alt = "" then some .missingAlt else none
  | .text t => if limit < t.text.length then some .longText else none
  | _ => none

def issuesFrom (limit : Int) : Nat → List Props → List Issue
  | _, [] => []
  | index, props :: rest =>
      ((flaw? limit props).map (Issue.flaw index)).toList ++ issuesFrom limit (index + 1) rest

def issues (limit : Int) (email : Email) : List Issue :=
  if email.isEmpty then [.empty] else issuesFrom limit 0 email.contents

end Lint
end EmailMarkup
