import EmailMarkup.Http.Server
import EmailMarkup.Proofs.Form
import EmailMarkup.Proofs.Lint

/-! The two ways of giving an email to an endpoint: as markup, or as the components that were read from it. Endpoints
that only look at what an email shows answer both in the same way, since the components survive their JSON form. -/
namespace EmailMarkup

theorem writeShown {email other : Email} (same : email.contents = other.contents) : email.write = other.write := by
  rw [Email.write, same, Email.write]

theorem renderedShown {email other : Email} (same : email.contents = other.contents) (format : Format) :
    email.rendered format = other.rendered format := by
  cases format with
  | html => simp only [Email.rendered, Email.html, same]
  | react => simp only [Email.rendered, Email.react, same]
  | markup => exact writeShown same

namespace Http

structure Sent (request : Request) (endpoint : Endpoint) : Prop where
  method : String.ofList (Text.upper request.method.toList) = "POST"
  route : Route.ofSegments? (segments request.path) = some (.endpoint endpoint)

structure Posts (request : Request) (endpoint : Endpoint) (members : Members) : Prop where
  method : String.ofList (Text.upper request.method.toList) = "POST"
  route : Route.ofSegments? (segments request.path) = some (.endpoint endpoint)
  value : request.value = .ok (.object members)

theorem endpointRoute {endpoint : Endpoint} {request : Request} (target : request.target = "/api/" ++ endpoint.name) :
    Route.ofSegments? (segments request.path) = some (.endpoint endpoint) := by
  rw [Request.path, target]
  cases endpoint <;> decide +kernel

theorem answerSent {request : Request} {endpoint : Endpoint} (sent : Sent request endpoint) (settings : Settings)
    (ids : Ids) : answer request settings ids = answerEndpoint endpoint request settings ids := by
  have allowed : "POST" ∈ (Route.endpoint endpoint).methods := by simp [Route.methods]
  unfold answer
  simp only [sent.route, sent.method]
  simp [allowed, headed, answerRoute]

theorem answerHandled {request : Request} {endpoint : Endpoint} {members : Members}
    (posts : Posts request endpoint members) {settings : Settings} {ids : Ids} {body : Json}
    (handled : endpoint.handle settings request.halves (.object members) ids = .ok body) :
    (answer request settings ids).status = 200 ∧ (answer request settings ids).body = some body := by
  rw [answerSent ⟨posts.method, posts.route⟩, answerEndpoint]
  simp [posts.value, Except.bind, handled, json]

section Chains

variable (settings : Settings) (halves : Text.Halves) (members : Members) (ids : Ids)

theorem parseChain : Endpoint.parse.handle settings halves (.object members) ids =
    (textAt members "jsx").bind fun source =>
    ((Email.edit [] source none (strictAt members false) ids).mapError ApiError.edit).bind fun edited =>
    .ok (componentsJson edited.1) := rfl

theorem serializeChain : Endpoint.serialize.handle settings halves (.object members) ids =
    (emailAt halves members ids).bind fun read => .ok (.object [("jsx", .str read.1.write)]) := rfl

theorem lintChain : Endpoint.lint.handle settings halves (.object members) ids =
    (emailAt halves members ids).bind fun read =>
    .ok (.object [("issues", .list ((Lint.issues settings.maxTextLength read.1).map Issue.toJson))]) := rfl

theorem renderChain : Endpoint.render.handle settings halves (.object members) ids =
    (formatAt members).bind fun format => (emailAt halves members ids).bind fun read =>
    .ok (.object [("format", .str format.name), ("content", .str (read.1.rendered format))]) := rfl

end Chains

section Given

variable (halves : Text.Halves) {members : Members}

theorem emailOfMarkup {source : String} (markup : members.lookup "jsx" = some (.str source)) (ids : Ids) :
    emailAt halves members ids = .ok (Email.read source ids) := by
  have text : textAt members "jsx" = .ok source := by rw [textAt, markup]
  have steps : (do
      let source ← textAt members "jsx"
      .ok (Email.read source ids)) = (.ok (Email.read source ids) : Except ApiError (Email × Ids)) := by
    rw [text]
    rfl
  rw [emailAt, if_pos (by rw [markup]; rfl), steps]

theorem emailOfList {items : List Json} (free : members.lookup "jsx" = none)
    (list : members.lookup "components" = some (.list items)) (objects : items.all isObject = true) {email : Email}
    {ids later : Ids} (read : Email.ofJsons halves items ids = .ok (email, later)) :
    emailAt halves members ids = .ok (email, later) := by
  rw [emailAt, free, listed, list]
  simp [objects, read, Except.mapError]

variable {ids later : Ids} {email : Email} (given : emailAt halves members ids = .ok (email, later))
  (settings : Settings)
include given

theorem handleSerialize :
    Endpoint.serialize.handle settings halves (.object members) ids = .ok (.object [("jsx", .str email.write)]) := by
  rw [serializeChain, given, Except.bind]

theorem handleLint :
    Endpoint.lint.handle settings halves (.object members) ids =
      .ok (.object [("issues", .list ((Lint.issues settings.maxTextLength email).map Issue.toJson))]) := by
  rw [lintChain, given, Except.bind]

theorem handleRender {format : Format} (asked : formatAt members = .ok format) :
    Endpoint.render.handle settings halves (.object members) ids =
      .ok (.object [("format", .str format.name), ("content", .str (email.rendered format))]) := by
  rw [renderChain, asked, Except.bind, given, Except.bind]

end Given

theorem handleShown {endpoint : Endpoint} (looks : endpoint ∈ [Endpoint.serialize, .lint, .render])
    (settings : Settings) {halves others : Text.Halves} {members fields : Members} {ids more rest left : Ids}
    {email other : Email} (first : emailAt halves members ids = .ok (email, rest))
    (second : emailAt others fields more = .ok (other, left)) (same : email.contents = other.contents)
    (asked : endpoint = .render → ∃ format, formatAt members = .ok format ∧ formatAt fields = .ok format) :
    ∃ body, endpoint.handle settings halves (.object members) ids = .ok body ∧
      endpoint.handle settings others (.object fields) more = .ok body := by
  simp only [List.mem_cons, List.not_mem_nil, or_false] at looks
  rcases looks with rfl | rfl | rfl
  · exact ⟨_, handleSerialize halves first settings, by rw [handleSerialize others second, writeShown same]⟩
  · exact ⟨_, handleLint halves first settings, by rw [handleLint others second, Lint.issuesShown same]⟩
  · obtain ⟨format, here, there⟩ := asked rfl
    exact ⟨_, handleRender halves first settings here,
      by rw [handleRender others second settings there, renderedShown same]⟩

theorem handleParse {members : Members} {source : String} (markup : members.lookup "jsx" = some (.str source))
    (gentle : strictAt members false = false) (settings : Settings) (halves : Text.Halves) (ids : Ids) :
    Endpoint.parse.handle settings halves (.object members) ids = .ok (componentsJson (Email.read source ids).1) := by
  have text : textAt members "jsx" = .ok source := by rw [textAt, markup]
  rw [parseChain, text, Except.bind, gentle]
  rfl

structure Forms (source : String) (items : List Json) (members fields : Members) : Prop where
  markup : members.lookup "jsx" = some (.str source)
  free : fields.lookup "jsx" = none
  list : fields.lookup "components" = some (.list items)

theorem formsRead {source : String} {ids : Ids} (named : ∀ n, (ids.name n).isTruthy = true)
    {members fields : Members}
    (forms : Forms source ((Email.read source ids).1.map Component.toJson) members fields)
    (halves others : Text.Halves) (start more : Ids) :
    emailAt halves members start = .ok (Email.read source start) ∧
    emailAt others fields more = .ok ((Email.read source ids).1, more) := by
  have objects : ((Email.read source ids).1.map Component.toJson).all isObject = true := by
    rw [List.all_map, List.all_eq_true]
    exact fun _ _ => rfl
  exact ⟨emailOfMarkup halves forms.markup start,
    emailOfList others forms.free forms.list objects (Email.readsForm others source named more)⟩

theorem formsAgree (source : String) {ids : Ids} (named : ∀ n, (ids.name n).isTruthy = true) (settings : Settings)
    {parse : Request} {parsed : Members} (posts : Posts parse .parse parsed)
    (markup : parsed.lookup "jsx" = some (.str source)) (gentle : strictAt parsed false = false) :
    ∃ items, (answer parse settings ids).status = 200 ∧
      (answer parse settings ids).body = some (.object [("components", .list items)]) ∧
      (∀ halves later, Email.ofJsons halves items later = .ok ((Email.read source ids).1, later)) ∧
      ∀ endpoint ∈ [Endpoint.serialize, .lint, .render], ∀ (first second : Request) (members fields : Members),
        Posts first endpoint members → Posts second endpoint fields → Forms source items members fields →
        (endpoint = .render → ∃ format, formatAt members = .ok format ∧ formatAt fields = .ok format) →
        ∀ start more, (answer first settings start).status = 200 ∧ (answer second settings more).status = 200 ∧
          (answer first settings start).body = (answer second settings more).body := by
  obtain ⟨status, body⟩ := answerHandled posts (handleParse markup gentle settings parse.halves ids)
  refine ⟨(Email.read source ids).1.map Component.toJson, status, body,
    fun halves later => Email.readsForm halves source named later, ?_⟩
  intro endpoint looks first second members fields here there forms asked start more
  obtain ⟨read, listed⟩ := formsRead named forms first.halves second.halves start more
  have same : (Email.read source start).1.contents = (Email.read source ids).1.contents := by
    rw [readContents, readContents]
  obtain ⟨shown, one, other⟩ := handleShown looks settings read listed same asked
  obtain ⟨fine, answered⟩ := answerHandled here one
  obtain ⟨fineToo, answeredToo⟩ := answerHandled there other
  exact ⟨fine, fineToo, answered.trans answeredToo.symm⟩

def redMarkup : String := "<Foo/><Divider color='red'/>"

def redList : List Json :=
  [.object [("id", .str "id1"), ("type", .str "divider"),
    ("props", .object [("borderColor", .str "red"), ("borderWidth", .str "1px")])]]

def post (endpoint : Endpoint) (members : String) : Request :=
  ⟨"POST", "/api/" ++ endpoint.name, some "application/json", "\x7b" ++ members ++ "\x7d"⟩

theorem postPosts {endpoint : Endpoint} {text : String} {members : Members}
    (read : (post endpoint text).value.toOption = some (.object members)) :
    Posts (post endpoint text) endpoint members where
  method := by
    change String.ofList (Text.upper "POST".toList) = "POST"
    decide +kernel
  route := endpointRoute rfl
  value := by
    cases h : (post endpoint text).value with
    | error error => simp [h, Except.toOption] at read
    | ok value =>
        rw [h] at read
        exact congrArg Except.ok (Option.some.inj read)

def parseMarkup : Request := post .parse "\"jsx\": \"<Foo/><Divider color='red'/>\""

def exportMarkup : Request :=
  post .render "\"jsx\": \"<Foo/><Divider color='red'/>\", \"format\": \"react-email\""

def exportList : Request :=
  post .render ("\"format\": \"react-email\", \"components\": [\x7b\"id\": \"id1\", \"type\": \"divider\", " ++
    "\"props\": \x7b\"borderColor\": \"red\", \"borderWidth\": \"1px\"\x7d\x7d]")

theorem formsAgreeRed :
    (answer parseMarkup {} Ids.numbered).body = some (.object [("components", .list redList)]) ∧
    (answer exportMarkup {} Ids.numbered).status = 200 ∧
    (answer exportList {} Ids.numbered).status = 200 ∧
    (answer exportMarkup {} Ids.numbered).body = (answer exportList {} Ids.numbered).body := by
  have named : ∀ n, (Ids.numbered.name n).isTruthy = true := by
    intro n
    simp [Ids.numbered, Json.isTruthy]
  have posts : Posts parseMarkup .parse [("jsx", .str redMarkup)] := postPosts (by decide +kernel)
  have first : Posts exportMarkup .render [("jsx", .str redMarkup), ("format", .str "react-email")] :=
    postPosts (by decide +kernel)
  have second : Posts exportList .render [("format", .str "react-email"), ("components", .list redList)] :=
    postPosts (by decide +kernel)
  obtain ⟨items, _, body, _, agree⟩ := formsAgree redMarkup named {} posts rfl rfl
  have read : (answer parseMarkup {} Ids.numbered).body = some (.object [("components", .list redList)]) := by
    decide +kernel
  obtain rfl : items = redList := by simpa using body.symm.trans read
  have forms : Forms redMarkup redList [("jsx", .str redMarkup), ("format", .str "react-email")]
      [("format", .str "react-email"), ("components", .list redList)] := ⟨rfl, rfl, rfl⟩
  exact ⟨read, agree .render (by simp) exportMarkup exportList _ _ first second forms
    (fun _ => ⟨.react, rfl, rfl⟩) Ids.numbered Ids.numbered⟩

end Http
end EmailMarkup
