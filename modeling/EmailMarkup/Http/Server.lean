import EmailMarkup.Http.Api
import EmailMarkup.Http.Body
import EmailMarkup.Http.Path
import EmailMarkup.Json.Writer
import EmailMarkup.Text.Case

/-! Requests and their answers. A route is found by the segments of the path and must allow the method; pages of
the server itself are HTML, all other answers are JSON. There is a folder for assets, which holds none. -/
namespace EmailMarkup.Http

structure Request where
  method : String
  target : String
  contentType : Option String
  body : String
  deriving DecidableEq, Repr

structure Answer where
  status : Nat
  mediaType : String
  body : Option Json
  records : Journal := []

inductive Route where
  | health
  | starters
  | starter (key : String)
  | endpoint (endpoint : Endpoint)
  | asset
  deriving DecidableEq, Repr

namespace Route

def isAsset : List Char → Bool
  | [] => false
  | c :: rest => c != '/' && !rest.contains '\n'

def ofSegments? : List String → Option Route
  | ["health"] => some .health
  | ["api", "templates"] => some .starters
  | ["api", "templates", key] => if key = "" then none else some (.starter key)
  | ["api", name] => (Endpoint.ofName? name).map .endpoint
  | "static" :: names => if isAsset ("/".intercalate names).toList then some .asset else none
  | _ => none

def methods : Route → List String
  | .endpoint _ => ["POST", "OPTIONS"]
  | _ => ["GET", "HEAD", "OPTIONS"]

end Route

def page (status : Nat) : Answer := { status, mediaType := "text/html", body := none }

def json (status : Nat) (body : Json) : Answer := { status, mediaType := "application/json", body := some body }

def isGap (c : Char) : Bool := c == ' ' || c == '\t'

def trim (s : List Char) : List Char := ((s.dropWhile isGap).reverse.dropWhile isGap).reverse

def mediaType (contentType : String) : List Char :=
  Text.lower (trim (contentType.toList.takeWhile (· != ';')))

def isJsonType (contentType : String) : Bool :=
  let media := mediaType contentType
  media == "application/json".toList ||
    ("application/".toList.isPrefixOf media && "+json".toList.isSuffixOf media)

def Request.path (request : Request) : List Char := '/' :: (decodePath request.target).dropWhile (· == '/')

/-- What stands for halves of pairs in the body: characters that the request does not hold. -/
def Request.halves (request : Request) : Text.Halves := .apartFrom (request.path ++ bodyChars request.body)

/-- The value of a body that is declared to be JSON. One that is not JSON after all counts as missing, unless it is
nested too deep. -/
def Request.value (request : Request) : Except ApiError Json :=
  if request.contentType.any isJsonType then
    match readBody request.halves request.body with
    | .ok value => .ok value
    | .error .malformed => .ok .null
    | .error .deepList => .error .deepList
    | .error .deepObject => .error .deepObject
  else .ok .null

def Request.unhandled (request : Request) (error : ApiError) : Journal :=
  if error.status = 500 then
    [⟨.error, .serving, [.plain "Unhandled error on ", .plain (String.ofList request.path), .plain ": ",
      .plain (error.message request.halves)]⟩]
  else []

def answerEndpoint (endpoint : Endpoint) (request : Request) (settings : Settings) (ids : Ids) : Answer :=
  let halves := request.halves
  let kept := match request.value.bind membersOf with
    | .ok members => endpoint.memberRecords settings halves members ids
    | .error _ => []
  match request.value.bind (endpoint.handle settings halves · ids) with
  | .ok value => { json 200 value with records := kept }
  | .error error =>
      { json error.status (error.toJson halves) with records := kept ++ request.unhandled error }

def answerRoute (route : Route) (request : Request) (settings : Settings) (ids : Ids) : Answer :=
  match route with
  | .health => json 200 (.object [("status", .str "ok")])
  | .starters => json 200 (.object [("templates", .list (Starter.all.map Starter.toJson))])
  | .starter key =>
      match Starter.find? key with
      | some starter =>
          { json 200 (.object (starter.members ++ [("components", (Email.read starter.source ids).1.toJson)])) with
            records := Email.readRecords starter.source }
      | none => json 404 (.object [("error", .str ("Unknown template: " ++ key))])
  | .endpoint endpoint => answerEndpoint endpoint request settings ids
  | .asset => page 404

def headed (method : String) (answer : Answer) : Answer :=
  if method = "HEAD" then { answer with body := none } else answer

def answer (request : Request) (settings : Settings) (ids : Ids) : Answer :=
  let method := String.ofList (Text.upper request.method.toList)
  let path := request.path
  match Route.ofSegments? (segments path) with
  | some route =>
      if method ∉ route.methods then page 405
      else if method = "OPTIONS" then page 200
      else headed method (answerRoute route request settings ids)
  | none =>
      match Route.ofSegments? (segments (mergeSlashes path)) with
      | some route => if method ∈ route.methods then page 308 else page 405
      | none => page 404

end EmailMarkup.Http
