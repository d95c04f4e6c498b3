import EmailMarkup.Component.Markup
import EmailMarkup.Gate
import EmailMarkup.Json.Display
import EmailMarkup.Json.Same

/-! A handle on an email for reading it as markup and editing it, as a whole or one component at a time. An edit that
fails changes nothing and draws no identity. -/
namespace EmailMarkup

inductive EditError where
  | notFound (id : Json)
  | rejected (faults : List Fault)

def EditError.message : EditError → String
  | .notFound id => "Component with id \"" ++ id.text .absent ++ "\" not found"
  | .rejected faults => "Invalid JSX: " ++ ", ".intercalate (faults.map Fault.message)

namespace Email

def indexOf? (email : Email) (id : Json) : Option Nat := email.findIdx? (·.id.same id)

def findIndex (email : Email) (id : Json) : Except EditError Nat :=
  match email.indexOf? id with
  | some index => .ok index
  | none => .error (.notFound id)

def replace (email : Email) (id : Json) (source : String) (ids : Ids) : Except EditError (Email × Ids) := do
  let index ← email.findIndex id
  let (replacement, ids) := Email.read source ids
  .ok (email.take index ++ replacement ++ email.drop (index + 1), ids)

def edit (email : Email) (source : String) (id : Option Json) (strict : Bool) (ids : Ids) :
    Except EditError (Email × Ids) :=
  if strict && !Gate.admits source then .error (.rejected (Gate.faults source))
  else match id with
    | some id => email.replace id source ids
    | none => .ok (Email.read source ids)

def writeNode (email : Email) (id : Option Json) : Except EditError String :=
  match id with
  | some id => do
      let index ← email.findIndex id
      .ok (Email.write (email[index]?).toList)
  | none => .ok email.write

def replaceRecords (email : Email) (id : Json) (source : String) : Journal :=
  if (email.indexOf? id).isSome then Email.readRecords source else []

def editRecords (email : Email) (source : String) (id : Option Json) (strict : Bool) : Journal :=
  if strict && !Gate.admits source then
    let messages := (Gate.faults source).map fun fault => Json.str fault.message
    [⟨.info, .editing, [.plain "Rejected JSX: ", .plain ((Json.list messages).shown .absent)]⟩]
  else match id with
    | some id => email.replaceRecords id source
    | none => Email.readRecords source

end Email

structure Handle where
  email : Email
  ids : Ids

namespace Handle

/-- Work on a handle may fail half-way, and then what it has done to the handle stays done. -/
abbrev Action (α : Type) := EStateM EditError Handle α

def orFail {α : Type} : Except EditError α → Action α
  | .ok a => pure a
  | .error error => throw error

def read (source : String) : Action Email :=
  modifyGet fun handle =>
    let (email, ids) := Email.read source handle.ids
    (email, { handle with ids })

def replaced (id : Json) (source : String) : Action Email := do
  let email := (← get).email
  let index ← orFail (email.findIndex id)
  let replacement ← read source
  return email.take index ++ replacement ++ email.drop (index + 1)

def edit (source : String) (id : Option Json) (strict : Bool) : Action Email := do
  if strict && !Gate.admits source then throw (.rejected (Gate.faults source))
  let email ← match id with
    | some id => replaced id source
    | none => read source
  modify ({ · with email })
  return email

def write (id : Option Json) : Action String := do
  orFail ((← get).email.writeNode id)

end Handle

inductive Call where
  | write (id : Option Json)
  | edit (source : String) (id : Option Json) (strict : Bool)
  | components

inductive Answer where
  | markup (source : String)
  | components (email : Email)
  | failed (error : EditError)

def Answer.ofResult {α : Type} (shown : α → Answer) : EStateM.Result EditError Handle α → Answer × Handle
  | .ok a handle => (shown a, handle)
  | .error error handle => (.failed error, handle)

def Handle.answer (handle : Handle) : Call → Answer × Handle
  | .write id => Answer.ofResult .markup (write id handle)
  | .edit source id strict => Answer.ofResult .components (edit source id strict handle)
  | .components => (.components handle.email, handle)

end EmailMarkup
