import EmailMarkup.Editor
import EmailMarkup.Export.Format
import EmailMarkup.Number.Numeral
import EmailMarkup.Report
import EmailMarkup.Settings
import EmailMarkup.Stream.Replay

/-! The endpoints that take a JSON body. Each checks its members in a fixed order, and the first that does not fit is
the error. -/
namespace EmailMarkup.Http
open Number (Numeral.read NumeralError Binary64)
open EmailMarkup.Stream (Replay ReplayError Progress)

inductive ApiError where
  | deepList
  | deepObject
  | notObject
  | notText (key : String)
  | noComponents
  | notComponents
  | unknownFormat (value : Json)
  | chunkNumeral (text : String) (error : NumeralError)
  | chunkNan
  | chunkInfinite
  | chunkKind (value : Json)
  | form (error : FormError)
  | edit (error : EditError)
  | replay (error : ReplayError)

namespace ApiError

def numeralMessage (halves : Text.Halves) (text : String) : NumeralError → String
  | .malformed =>
      "invalid literal for int() with base 10: " ++ String.ofList ((Text.quotedIn halves text).toList.take 200)
  | .tooManyDigits count =>
      "Exceeds the limit (4300 digits) for integer string conversion: value has " ++ toString count ++
        " digits; use sys.set_int_max_str_digits() to increase the limit"

def depthMessage (container : String) : String :=
  "maximum recursion depth exceeded while decoding a JSON " ++ container ++ " from a unicode string"

def message (halves : Text.Halves) : ApiError → String
  | .deepList => depthMessage "array"
  | .deepObject => depthMessage "object"
  | .notObject => "Request body must be a JSON object"
  | .notText key => "'" ++ key ++ "' must be a string"
  | .noComponents => "Provide either 'jsx' or a 'components' list"
  | .notComponents => "Each component must be a JSON object"
  | .unknownFormat value => "Unknown export format: " ++ value.text halves
  | .chunkNumeral text error => numeralMessage halves text error
  | .chunkNan => "cannot convert float NaN to integer"
  | .chunkInfinite => "cannot convert float infinity to integer"
  | .chunkKind value =>
      "int() argument must be a string, a bytes-like object or a real number, not '" ++ value.kindName ++ "'"
  | .form error => error.message halves
  | .edit error => error.message
  | .replay error => error.message

def status : ApiError → Nat
  | .deepList => 500
  | .deepObject => 500
  | .chunkInfinite => 500
  | .chunkKind _ => 500
  | .form (.notObject _) => 500
  | .edit (.notFound _) => 404
  | _ => 400

def toJson (halves : Text.Halves) (error : ApiError) : Json :=
  match error with
  | .edit (.rejected faults) =>
      .object [("error", .str (error.message halves)), ("errors", .texts (faults.map Fault.message))]
  | error => .object [("error", .str (error.message halves))]

end ApiError

abbrev Members := List (String × Json)

def membersOf : Json → Except ApiError Members
  | .object members => .ok members
  | _ => .error .notObject

def textAt (members : Members) (key : String) : Except ApiError String :=
  match members.lookup key with
  | some (.str text) => .ok text
  | _ => .error (.notText key)

def isObject : Json → Bool
  | .object _ => true
  | _ => false

def listed (halves : Text.Halves) (members : Members) (ids : Ids) : Except ApiError (Email × Ids) :=
  match members.lookup "components" with
  | some (.list items) =>
      if items.all isObject then (Email.ofJsons halves items ids).mapError .form else .error .notComponents
  | _ => .error .noComponents

def emailAt (halves : Text.Halves) (members : Members) (ids : Ids) : Except ApiError (Email × Ids) :=
  if (members.lookup "jsx").isSome then do
    let source ← textAt members "jsx"
    .ok (Email.read source ids)
  else listed halves members ids

def emailRecords (members : Members) : Journal :=
  match members.lookup "jsx" with
  | some (.str source) => Email.readRecords source
  | _ => []

def chunkSize (members : Members) (settings : Settings) : Except ApiError Int :=
  match members.lookup "chunk_size" with
  | none => .ok settings.chunkSize
  | some (.int n) => .ok n
  | some (.bool b) => .ok (if b then 1 else 0)
  | some (.float (.finite negative significand exponent)) =>
      .ok (Binary64.truncate negative significand exponent)
  | some (.float .nan) => .error .chunkNan
  | some (.float (.infinity _)) => .error .chunkInfinite
  | some (.str text) => (Numeral.read text).mapError (.chunkNumeral text)
  | some value => .error (.chunkKind value)

def formatAt (members : Members) : Except ApiError Format :=
  match members.lookup "format" with
  | none => .ok .html
  | some value =>
      match value with
      | .str name =>
          match Format.ofName? name with
          | some format => .ok format
          | none => .error (.unknownFormat value)
      | _ => .error (.unknownFormat value)

inductive Endpoint where
  | parse
  | validate
  | serialize
  | lint
  | render
  | replace
  | stream
  deriving DecidableEq, Repr

def componentsJson (email : Email) : Json := .object [("components", email.toJson)]

def strictAt (members : Members) (initial : Bool) : Bool :=
  match members.lookup "strict" with
  | some value => value.isTruthy
  | none => initial

structure Replacement where
  email : Email
  ids : Ids
  source : String
  node : String
  strict : Bool

def replacementAt (halves : Text.Halves) (members : Members) (ids : Ids) : Except ApiError Replacement := do
  let (email, ids) ← listed halves members ids
  let source ← textAt members "jsx"
  let node ← textAt members "node_id"
  .ok ⟨email, ids, source, node, strictAt members true⟩

def replayAt (members : Members) (settings : Settings) (ids : Ids) : Except ApiError Replay := do
  let size ← chunkSize members settings
  let source ← textAt members "jsx"
  .ok (Replay.run source size 0 ids)

def progressJson (progress : Progress) : Json :=
  .object [("chunk", .str progress.chunk), ("componentCount", .int progress.count)]

namespace Endpoint

def name : Endpoint → String
  | .parse => "parse"
  | .validate => "validate"
  | .serialize => "serialize"
  | .lint => "lint"
  | .render => "export"
  | .replace => "replace"
  | .stream => "stream"

def all : List Endpoint := [.parse, .validate, .serialize, .lint, .render, .replace, .stream]

def ofName? (name : String) : Option Endpoint := all.find? (·.name == name)

def handle (endpoint : Endpoint) (settings : Settings) (halves : Text.Halves) (body : Json) (ids : Ids) :
    Except ApiError Json := do
  let members ← membersOf body
  match endpoint with
  | .parse =>
      let source ← textAt members "jsx"
      let (email, _) ← (Email.edit [] source none (strictAt members false) ids).mapError .edit
      .ok (componentsJson email)
  | .validate =>
      let source ← textAt members "jsx"
      .ok (Gate.verdict source)
  | .serialize =>
      let (email, _) ← emailAt halves members ids
      .ok (.object [("jsx", .str email.write)])
  | .lint =>
      let (email, _) ← emailAt halves members ids
      .ok (.object [("issues", .list ((Lint.issues settings.maxTextLength email).map Issue.toJson))])
  | .render =>
      let format ← formatAt members
      let (email, _) ← emailAt halves members ids
      .ok (.object [("format", .str format.name), ("content", .str (email.rendered format))])
  | .replace =>
      let edit ← replacementAt halves members ids
      let (email, _) ← (edit.email.edit edit.source (some (.str edit.node)) edit.strict edit.ids).mapError .edit
      .ok (componentsJson email)
  | .stream =>
      let replay ← replayAt members settings ids
      let email ← replay.result.mapError .replay
      .ok (.object [("updates", .list (replay.progress.map progressJson)), ("components", email.toJson)])

def memberRecords (endpoint : Endpoint) (settings : Settings) (halves : Text.Halves) (members : Members)
    (ids : Ids) : Journal :=
  match endpoint with
  | .parse =>
      match textAt members "jsx" with
      | .ok source => Email.editRecords [] source none (strictAt members false)
      | .error _ => []
  | .validate => []
  | .serialize => emailRecords members
  | .lint => emailRecords members
  | .render =>
      match formatAt members with
      | .ok format =>
          emailRecords members ++
            match emailAt halves members ids with
            | .ok (email, _) => [email.exportRecord format.name]
            | .error _ => []
      | .error _ => []
  | .replace =>
      match replacementAt halves members ids with
      | .ok edit => edit.email.editRecords edit.source (some (.str edit.node)) edit.strict
      | .error _ => []
  | .stream =>
      match replayAt members settings ids with
      | .ok replay => replay.records
      | .error _ => []

end Endpoint
end EmailMarkup.Http
