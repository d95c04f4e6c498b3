import EmailMarkup.Component.Form
import EmailMarkup.Gate
import EmailMarkup.Lint
import EmailMarkup.Starter

/-! What judgements and starters look like as JSON. -/
namespace EmailMarkup

def Json.texts (values : List String) : Json := .list (values.map .str)

def Gate.verdict (source : String) : Json :=
  .object [("valid", .bool (admits source)), ("errors", .texts ((faults source).map Fault.message))]

def Issue.toJson (issue : Issue) : Json :=
  .object [("message", .str issue.message), ("componentIndex", .int issue.index)]

def Starter.members (starter : Starter) : List (String × Json) :=
  [("key", .str starter.key), ("name", .str starter.name), ("description", .str starter.description),
    ("jsx", .str starter.source)]

def Starter.toJson (starter : Starter) : Json := .object starter.members

end EmailMarkup
