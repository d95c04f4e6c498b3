import EmailMarkup.Proofs.Depth
import EmailMarkup.Proofs.Endpoint
import EmailMarkup.Proofs.WellFormed

/-! The status of the answer to a posted body. An endpoint checks its members in a fixed order, and the first check that
fails settles the status. Of each check it is said what makes it fail with which status, and so of each endpoint. Two
checks fail in a way that no rule foresees, and a body can be nested too deep to be read at all. -/
namespace EmailMarkup

theorem Format.ofNameName (format : Format) : ofName? format.name = some format := by cases format <;> rfl

namespace Component

def Typed (members : List (String × Json)) : Prop := ∃ kind : Kind, members.lookup "type" = some (.str kind.name)

def Loose (members : List (String × Json)) : Prop :=
  ∃ value, members.lookup "props" = some value ∧ value.isTruthy = true ∧ ∀ inner, value ≠ .object inner

def Fits (item : Json) : Prop := ∃ members, item = .object members ∧ Typed members ∧ ¬ Loose members

def Misfits (item : Json) : Prop := ∃ members, item = .object members ∧ Typed members ∧ Loose members

theorem fitsNotMisfits {item : Json} (fits : Fits item) : ¬ Misfits item := by
  rintro ⟨members, rfl, _, loose⟩
  obtain ⟨_, same, _, tight⟩ := fits
  cases same
  exact tight loose

theorem kindTyped (members : List (String × Json)) :
    (∃ kind, kindOf ((members.lookup "type").getD .null) = .ok kind ∧ Typed members) ∨
    kindOf ((members.lookup "type").getD .null) = .error (.unknownKind ((members.lookup "type").getD .null)) ∧
      ¬ Typed members := by
  cases h : kindOf ((members.lookup "type").getD .null) with
  | ok kind =>
      refine .inl ⟨kind, rfl, kind, ?_⟩
      have named := kindNamed h
      cases given : members.lookup "type" with
      | none => rw [given] at named; contradiction
      | some value => rw [← named, given, Option.getD_some]
  | error error =>
      have untyped : ¬ Typed members := by
        rintro ⟨kind, given⟩
        rw [given, Option.getD_some, kindOf, Kind.ofNameName] at h
        contradiction
      unfold kindOf at h
      split at h
      · split at h
        · contradiction
        · exact .inr ⟨h.symm, untyped⟩
      · exact .inr ⟨h.symm, untyped⟩

theorem propsLoose (halves : Text.Halves) (kind : Kind) (members : List (String × Json)) :
    (∃ props, Props.ofJson halves kind ((members.lookup "props").getD .null) = .ok props ∧ ¬ Loose members) ∨
    ∃ value, Props.ofJson halves kind ((members.lookup "props").getD .null) = .error (.notObject value) ∧
      members.lookup "props" = some value ∧ Loose members := by
  cases given : members.lookup "props" with
  | none => exact .inl ⟨_, rfl, by simp [Loose, given]⟩
  | some value =>
      have only : Loose members ↔ value.isTruthy = true ∧ ∀ inner, value ≠ .object inner := by
        simp [Loose, given]
      rw [Option.getD_some, only]
      unfold Props.ofJson
      split
      · exact .inl ⟨_, rfl, fun loose => loose.2 _ rfl⟩
      · rename_i apart
        by_cases truthy : value.isTruthy = true
        · exact .inr ⟨value, if_pos truthy, rfl, truthy, apart⟩
        · exact .inl ⟨_, if_neg truthy, fun loose => truthy loose.1⟩

theorem ofJsonObject (halves : Text.Halves) (members : List (String × Json)) (ids : Ids) :
    ofJson halves (.object members) ids =
      (kindOf ((members.lookup "type").getD .null)).bind fun kind =>
      (Props.ofJson halves kind ((members.lookup "props").getD .null)).bind fun props =>
      if ((members.lookup "id").getD .null).isTruthy then .ok (⟨(members.lookup "id").getD .null, props⟩, ids)
      else .ok (⟨ids.draw.1, props⟩, ids.draw.2) := rfl

/- The kind is looked at first, so properties are at fault only if it is known. -/
theorem ofJsonCases (halves : Text.Halves) (members : List (String × Json)) (ids : Ids) :
    (∃ read, ofJson halves (.object members) ids = .ok read ∧ Fits (.object members)) ∨
    (∃ value, ofJson halves (.object members) ids = .error (.notObject value) ∧
      members.lookup "props" = some value ∧ Misfits (.object members)) ∨
    ofJson halves (.object members) ids = .error (.unknownKind ((members.lookup "type").getD .null)) ∧
      ¬ Typed members := by
  rw [ofJsonObject]
  rcases kindTyped members with ⟨kind, known, typed⟩ | ⟨unknown, untyped⟩
  · rw [known, Except.bind]
    rcases propsLoose halves kind members with ⟨props, read, tight⟩ | ⟨value, refused, given, loose⟩
    · rw [read, Except.bind]
      refine .inl ?_
      split <;> exact ⟨_, rfl, members, rfl, typed, tight⟩
    · rw [refused, Except.bind]
      exact .inr (.inl ⟨value, rfl, given, members, rfl, typed, loose⟩)
  · rw [unknown, Except.bind]
    exact .inr (.inr ⟨rfl, untyped⟩)

end Component

namespace Email

def Jams (items : List Json) : Prop :=
  ∃ before item after, items = before ++ item :: after ∧ (∀ other ∈ before, Component.Fits other) ∧
    Component.Misfits item

theorem jamsCons (item : Json) (rest : List Json) :
    Jams (item :: rest) ↔ Component.Misfits item ∨ Component.Fits item ∧ Jams rest := by
  constructor
  · rintro ⟨before, found, after, parts, fits, misfits⟩
    rcases before with _ | ⟨first, before⟩
    · obtain ⟨rfl, rfl⟩ := List.cons.inj parts
      exact .inl misfits
    · obtain ⟨rfl, rfl⟩ := List.cons.inj parts
      rw [List.forall_mem_cons] at fits
      exact .inr ⟨fits.1, before, found, after, rfl, fits.2, misfits⟩
  · rintro (misfits | ⟨fits, before, found, after, rfl, others, misfits⟩)
    · exact ⟨[], item, rest, rfl, by simp, misfits⟩
    · exact ⟨item :: before, found, after, rfl, List.forall_mem_cons.mpr ⟨fits, others⟩, misfits⟩

theorem jamsUnfit {items : List Json} (jams : Jams items) : ¬ ∀ item ∈ items, Component.Fits item := by
  obtain ⟨before, item, after, rfl, _, misfits⟩ := jams
  exact fun all => Component.fitsNotMisfits (all item (by simp)) misfits

/- Reading a list stops at the first item that it cannot read, so that item settles what is wrong with the list. -/
theorem ofJsonsCases (halves : Text.Halves) {items : List Json} (objects : items.all Http.isObject = true) (ids : Ids) :
    (∃ read, ofJsons halves items ids = .ok read ∧ ∀ item ∈ items, Component.Fits item) ∨
    (∃ value, ofJsons halves items ids = .error (.notObject value) ∧ Jams items) ∨
    ∃ value, ofJsons halves items ids = .error (.unknownKind value) ∧ ¬ Jams items ∧
      ¬ ∀ item ∈ items, Component.Fits item := by
  induction items generalizing ids with
  | nil => exact .inl ⟨_, rfl, by simp⟩
  | cons item rest ih =>
      rw [List.all_cons, Bool.and_eq_true] at objects
      obtain ⟨members, rfl⟩ : ∃ members, item = .object members := by
        cases item <;> simp [Http.isObject] at objects
        exact ⟨_, rfl⟩
      have steps : ofJsons halves (.object members :: rest) ids =
          (Component.ofJson halves (.object members) ids).bind fun read =>
          (ofJsons halves rest read.2).bind fun tail => .ok (read.1 :: tail.1, tail.2) := rfl
      rw [steps, jamsCons, List.forall_mem_cons]
      rcases Component.ofJsonCases halves members ids with
        ⟨read, ok, fits⟩ | ⟨value, refused, _, misfits⟩ | ⟨refused, untyped⟩
      · rw [ok, Except.bind]
        rcases ih objects.2 read.2 with ⟨tail, more, all⟩ | ⟨value, more, jams⟩ | ⟨value, more, free, some⟩
        · exact .inl ⟨_, by rw [more, Except.bind], fits, all⟩
        · exact .inr (.inl ⟨value, by rw [more, Except.bind], .inr ⟨fits, jams⟩⟩)
        · refine .inr (.inr ⟨value, by rw [more, Except.bind], ?_, fun all => some all.2⟩)
          rintro (misfits | ⟨_, jams⟩)
          · exact Component.fitsNotMisfits fits misfits
          · exact free jams
      · exact .inr (.inl ⟨value, by rw [refused, Except.bind], .inl misfits⟩)
      · refine .inr (.inr ⟨_, by rw [refused, Except.bind], ?_, ?_⟩)
        · rintro (⟨_, same, typed, _⟩ | ⟨⟨_, same, typed, _⟩, _⟩) <;> cases same <;> exact untyped typed
        · rintro ⟨⟨_, same, typed, _⟩, _⟩
          cases same
          exact untyped typed

end Email

namespace Http

def FailsWith {α : Type} (status : Nat) (outcome : Except ApiError α) : Prop :=
  ∃ error, outcome = .error error ∧ error.status = status

theorem failsOk {α : Type} {n : Nat} {a : α} : ¬ FailsWith n (.ok a) := fun ⟨_, same, _⟩ => nomatch same

theorem failsError {α : Type} {n : Nat} {error : ApiError} :
    FailsWith n (.error error : Except ApiError α) ↔ error.status = n := by
  simp [FailsWith]

theorem failsRejected {α : Type} {n : Nat} (other : n ≠ 400) {error : ApiError} (rejected : error.status = 400) :
    ¬ FailsWith n (.error error : Except ApiError α) :=
  fun fails => other ((failsError.mp fails).symm.trans rejected)

theorem failsBind {α β : Type} {n : Nat} {first : Except ApiError α} {next : α → Except ApiError β} :
    FailsWith n (first.bind next) ↔ FailsWith n first ∨ ∃ a, first = .ok a ∧ FailsWith n (next a) := by
  cases first with
  | error error => simp [Except.bind, FailsWith]
  | ok a => simp [Except.bind, failsOk]

theorem bindAssoc {ε α β γ : Type} (first : Except ε α) (next : α → Except ε β) (last : β → Except ε γ) :
    (first.bind next).bind last = first.bind fun a => (next a).bind last := by
  cases first <;> rfl

theorem errorListed (error : ApiError) : error.status ∈ [400, 404, 500] := by
  unfold ApiError.status
  split <;> decide

theorem errorText (halves : Text.Halves) (error : ApiError) :
    ∃ members text, error.toJson halves = .object members ∧ members.lookup "error" = some (.str text) := by
  unfold ApiError.toJson
  split <;> exact ⟨_, _, rfl, rfl⟩

def Sizeless : Json → Prop
  | .null | .list _ | .object _ | .float (.infinity _) => True
  | _ => False

section Checks

variable {halves : Text.Halves} {members : Members} {settings : Settings} {ids : Ids}

theorem textOk {key text : String} : textAt members key = .ok text ↔ members.lookup key = some (.str text) := by
  unfold textAt
  split
  · rename_i found
    simp [found]
  · rename_i other
    exact iff_of_false nofun fun found => other text found

def FormatNamed (members : Members) : Prop :=
  members.lookup "format" = none ∨ ∃ format : Format, members.lookup "format" = some (.str format.name)

theorem formatOk : (∃ format, formatAt members = .ok format) ↔ FormatNamed members := by
  unfold formatAt
  split
  · rename_i absent
    exact iff_of_true ⟨_, rfl⟩ (.inl absent)
  · rename_i value given
    have named : FormatNamed members ↔ ∃ format : Format, value = .str format.name := by simp [FormatNamed, given]
    rw [named]
    split
    · rename_i name
      split
      · rename_i format found
        have same : format.name = name := by simpa using List.find?_some found
        exact iff_of_true ⟨_, rfl⟩ ⟨format, congrArg Json.str same.symm⟩
      · rename_i unknown
        refine iff_of_false nofun ?_
        rintro ⟨format, same⟩
        rw [Json.str.inj same, Format.ofNameName] at unknown
        contradiction
    · rename_i apart
      exact iff_of_false nofun fun ⟨format, same⟩ => apart _ same

def Jammed (members : Members) : Prop :=
  ∃ items, members.lookup "components" = some (.list items) ∧ items.all isObject = true ∧ Email.Jams items

theorem listedOk {read : Email × Ids} : listed halves members ids = .ok read ↔
    ∃ items, members.lookup "components" = some (.list items) ∧ (∀ item ∈ items, Component.Fits item) ∧
      Email.ofJsons halves items ids = .ok read := by
  unfold listed
  split
  · rename_i items given
    simp only [given, Option.some.injEq, Json.list.injEq, exists_eq_left']
    split
    · rename_i objects
      rcases Email.ofJsonsCases halves objects ids with ⟨found, ok, fits⟩ | ⟨value, refused, _⟩ | ⟨value, refused, _⟩
      · rw [ok]
        exact ⟨fun same => ⟨fits, congrArg Except.ok (Except.ok.inj same)⟩,
          fun read => congrArg Except.ok (Except.ok.inj read.2)⟩
      · rw [refused]
        exact iff_of_false nofun nofun
      · rw [refused]
        exact iff_of_false nofun nofun
    · rename_i mixed
      refine iff_of_false nofun fun read => mixed (List.all_eq_true.mpr fun item member => ?_)
      obtain ⟨_, rfl, _⟩ := read.1 item member
      rfl
  · rename_i none
    exact iff_of_false nofun fun ⟨items, given, _⟩ => none items given

variable {n : Nat} (other : n ≠ 400)
include other

theorem textFails (key : String) : ¬ FailsWith n (textAt members key) := by
  unfold textAt
  split
  · exact failsOk
  · exact failsRejected other rfl

theorem formatFails : ¬ FailsWith n (formatAt members) := by
  unfold formatAt
  split
  · exact failsOk
  · split
    · split
      · exact failsOk
      · exact failsRejected other rfl
    · exact failsRejected other rfl

theorem sizeFails : FailsWith n (chunkSize members settings) ↔
    n = 500 ∧ ∃ value, members.lookup "chunk_size" = some value ∧ Sizeless value := by
  cases given : members.lookup "chunk_size" with
  | none => simp [chunkSize, given, failsOk]
  | some value =>
      simp only [chunkSize, given, Option.some.injEq, exists_eq_left', @eq_comm _ n]
      cases value with
      | null => simp [failsError, ApiError.status, Sizeless]
      | bool b => simp [failsOk, Sizeless]
      | int i => simp [failsOk, Sizeless]
      | float x => cases x <;> simp [failsOk, failsError, ApiError.status, Sizeless, other.symm]
      | str text =>
          have fine : ¬ FailsWith n ((Number.Numeral.read text).mapError (ApiError.chunkNumeral text)) := by
            cases Number.Numeral.read text with
            | ok i => exact failsOk
            | error error => exact failsRejected other rfl
          simp [fine, Sizeless]
      | list items => simp [failsError, ApiError.status, Sizeless]
      | object inner => simp [failsError, ApiError.status, Sizeless]

theorem listedFails : FailsWith n (listed halves members ids) ↔ n = 500 ∧ Jammed members := by
  unfold listed
  split
  · rename_i items given
    have jammed : Jammed members ↔ items.all isObject = true ∧ Email.Jams items := by simp [Jammed, given]
    rw [jammed]
    split
    · rename_i objects
      rcases Email.ofJsonsCases halves objects ids with
        ⟨read, ok, fits⟩ | ⟨value, refused, jams⟩ | ⟨value, refused, free, _⟩
      · rw [ok]
        exact iff_of_false failsOk fun jams => Email.jamsUnfit jams.2.2 fits
      · rw [refused]
        exact failsError.trans ⟨fun same => ⟨same.symm, objects, jams⟩, fun same => same.1.symm⟩
      · rw [refused]
        exact iff_of_false (failsRejected other rfl) fun jams => free jams.2.2
    · rename_i mixed
      exact iff_of_false (failsRejected other rfl) fun jams => mixed jams.2.1
  · rename_i none
    exact iff_of_false (failsRejected other rfl) fun ⟨_, items, given, _⟩ => none items given

theorem emailFails : FailsWith n (emailAt halves members ids) ↔
    n = 500 ∧ members.lookup "jsx" = none ∧ Jammed members := by
  unfold emailAt
  split
  · rename_i given
    have free : members.lookup "jsx" ≠ none := Option.isSome_iff_ne_none.mp given
    refine iff_of_false (fun fails => ?_) fun jams => free jams.2.1
    rcases failsBind.mp fails with fails | ⟨source, _, fails⟩
    · exact textFails other "jsx" fails
    · exact failsOk fails
  · rename_i free
    rw [listedFails other]
    simp [Option.not_isSome_iff_eq_none.mp free]

end Checks

def Lists (members : Members) : Endpoint → Prop
  | .serialize | .lint => members.lookup "jsx" = none
  | .render => members.lookup "jsx" = none ∧ FormatNamed members
  | .replace => True
  | _ => False

def Unforeseen (endpoint : Endpoint) (members : Members) : Prop :=
  (endpoint = .stream ∧ ∃ value, members.lookup "chunk_size" = some value ∧ Sizeless value) ∨
    Lists members endpoint ∧ Jammed members

def Missing (halves : Text.Halves) (members : Members) (ids : Ids) : Prop :=
  ∃ items email later source node, members.lookup "components" = some (.list items) ∧
    (∀ item ∈ items, Component.Fits item) ∧ Email.ofJsons halves items ids = .ok (email, later) ∧
    members.lookup "jsx" = some (.str source) ∧ members.lookup "node_id" = some (.str node) ∧
    ((∃ value, members.lookup "strict" = some value ∧ value.isTruthy = false) ∨ Gate.admits source = true) ∧
    ∀ component ∈ email, component.id ≠ .str node

theorem sameText (id : Json) (node : String) : id.same (.str node) = false ↔ id ≠ .str node := by
  cases id with
  | str text => simp [Json.same, Json.sameItem]
  | float x => cases x <;> exact iff_of_true rfl nofun
  | _ => exact iff_of_true rfl nofun

theorem passedIff (members : Members) (source : String) : ¬ Refused source (strictAt members true) ↔
    (∃ value, members.lookup "strict" = some value ∧ value.isTruthy = false) ∨ Gate.admits source = true := by
  rw [Refused, not_and_or, Bool.not_eq_true, Bool.not_eq_false]
  refine or_congr_left ?_
  cases given : members.lookup "strict" with
  | none => simp [strictAt, given]
  | some value => simp [strictAt, given]

section Endpoints

variable {halves : Text.Halves} {members : Members} {settings : Settings} {ids : Ids} {n : Nat} (other : n ≠ 400)
include other

theorem editFails {email : Email} {source : String} {node : Option Json} {strict : Bool} :
    FailsWith n ((email.edit source node strict ids).mapError .edit) ↔
      n = 404 ∧ ¬ Refused source strict ∧ ∃ id, node = some id ∧ ∀ component ∈ email, component.id.same id = false := by
  by_cases refused : Refused source strict
  · rw [Email.editRefused email ids refused]
    exact iff_of_false (failsRejected other rfl) fun missed => missed.2.1 refused
  · cases node with
    | none =>
        rw [Email.editWhole email ids refused]
        exact iff_of_false failsOk nofun
    | some id =>
        rw [Email.editNode email ids refused]
        by_cases absent : ∀ component ∈ email, component.id.same id = false
        · rw [Email.replaceMissed email ids absent]
          exact failsError.trans ⟨fun same => ⟨same.symm, refused, id, rfl, absent⟩, fun missed => missed.1.symm⟩
        · have held : ∃ component ∈ email, component.id.same id = true := by simpa using absent
          obtain ⟨before, component, after, rfl, apart, same⟩ := Email.firstHeld held
          rw [Email.replaceFirst apart same after source ids]
          refine iff_of_false failsOk fun missed => ?_
          obtain ⟨_, _, _, some, free⟩ := missed
          cases some
          exact absent free

theorem parseFails : ¬ FailsWith n (Endpoint.parse.handle settings halves (.object members) ids) := by
  simp [parseChain, failsBind, textFails other, editFails other, failsOk]

theorem validateFails : ¬ FailsWith n (Endpoint.validate.handle settings halves (.object members) ids) := by
  have steps : Endpoint.validate.handle settings halves (.object members) ids =
      (textAt members "jsx").bind fun source => .ok (Gate.verdict source) := rfl
  simp [steps, failsBind, textFails other, failsOk]

theorem serializeFails : FailsWith n (Endpoint.serialize.handle settings halves (.object members) ids) ↔
    n = 500 ∧ members.lookup "jsx" = none ∧ Jammed members := by
  simp [serializeChain, failsBind, emailFails other, failsOk]

theorem lintFails : FailsWith n (Endpoint.lint.handle settings halves (.object members) ids) ↔
    n = 500 ∧ members.lookup "jsx" = none ∧ Jammed members := by
  simp [lintChain, failsBind, emailFails other, failsOk]

theorem renderFails : FailsWith n (Endpoint.render.handle settings halves (.object members) ids) ↔
    n = 500 ∧ (members.lookup "jsx" = none ∧ FormatNamed members) ∧ Jammed members := by
  have failing : FailsWith n (Endpoint.render.handle settings halves (.object members) ids) ↔
      (∃ format, formatAt members = .ok format) ∧ FailsWith n (emailAt halves members ids) := by
    simp [renderChain, failsBind, formatFails other, failsOk]
  rw [failing, formatOk, emailFails other]
  tauto

theorem replaceFails : FailsWith n (Endpoint.replace.handle settings halves (.object members) ids) ↔
    n = 500 ∧ Jammed members ∨ n = 404 ∧ Missing halves members ids := by
  have steps : Endpoint.replace.handle settings halves (.object members) ids =
      (replacementAt halves members ids).bind fun edit =>
      ((edit.email.edit edit.source (some (.str edit.node)) edit.strict edit.ids).mapError ApiError.edit).bind
        fun edited => .ok (componentsJson edited.1) := rfl
  have first : replacementAt halves members ids = (listed halves members ids).bind fun read =>
      (textAt members "jsx").bind fun source => (textAt members "node_id").bind fun node =>
      .ok ⟨read.1, read.2, source, node, strictAt members true⟩ := rfl
  simp only [steps, first, bindAssoc, failsBind, listedFails other, textFails other, editFails other, failsOk, false_or,
    or_false, and_false, exists_false, Except.ok.injEq, Option.some.injEq, exists_eq_left', textOk, passedIff]
  refine or_congr Iff.rfl ⟨?_, ?_⟩
  · rintro ⟨⟨email, later⟩, read, source, markup, node, asked, rfl, passed, absent⟩
    obtain ⟨items, given, fits, read⟩ := listedOk.mp read
    exact ⟨rfl, items, email, later, source, node, given, fits, read, markup, asked, passed,
      fun component member => (sameText _ _).mp (absent component member)⟩
  · rintro ⟨rfl, items, email, later, source, node, given, fits, read, markup, asked, passed, absent⟩
    exact ⟨(email, later), listedOk.mpr ⟨items, given, fits, read⟩, source, markup, node, asked, rfl, passed,
      fun component member => (sameText _ _).mpr (absent component member)⟩

theorem streamFails : FailsWith n (Endpoint.stream.handle settings halves (.object members) ids) ↔
    n = 500 ∧ ∃ value, members.lookup "chunk_size" = some value ∧ Sizeless value := by
  have steps : Endpoint.stream.handle settings halves (.object members) ids =
      (replayAt members settings ids).bind fun replay => (replay.result.mapError ApiError.replay).bind fun email =>
      .ok (.object [("updates", .list (replay.progress.map progressJson)), ("components", email.toJson)]) := rfl
  have first : replayAt members settings ids = (chunkSize members settings).bind fun size =>
      (textAt members "jsx").bind fun source => .ok (Stream.Replay.run source size 0 ids) := rfl
  have played : ∀ replay : Stream.Replay, ¬ FailsWith n (replay.result.mapError ApiError.replay) := by
    intro replay
    cases replay.result with
    | ok email => exact failsOk
    | error error => exact failsRejected other rfl
  simp [steps, first, failsBind, sizeFails other, textFails other, played, failsOk]

theorem handleFails (endpoint : Endpoint) : FailsWith n (endpoint.handle settings halves (.object members) ids) ↔
    n = 404 ∧ endpoint = .replace ∧ Missing halves members ids ∨ n = 500 ∧ Unforeseen endpoint members := by
  cases endpoint with
  | parse => simp [Unforeseen, Lists, parseFails other]
  | validate => simp [Unforeseen, Lists, validateFails other]
  | serialize => simp [Unforeseen, Lists, serializeFails other]
  | lint => simp [Unforeseen, Lists, lintFails other]
  | render => simp [Unforeseen, Lists, renderFails other]
  | replace => simp [Unforeseen, Lists, replaceFails other, or_comm]
  | stream => simp [Unforeseen, Lists, streamFails other]

end Endpoints

def Stopped (request : Request) : Prop :=
  request.contentType.any isJsonType = true ∧ Json.Deep (readBody request.halves request.body)

theorem valueFails (request : Request) {n : Nat} : FailsWith n request.value ↔ n = 500 ∧ Stopped request := by
  unfold Request.value Stopped
  by_cases declared : request.contentType.any isJsonType = true
  · rw [if_pos declared]
    cases readBody request.halves request.body with
    | ok value => exact iff_of_false failsOk fun deep => nomatch deep.2.2
    | error error =>
        cases error with
        | malformed => exact iff_of_false failsOk fun deep => nomatch deep.2.2
        | deepList => exact failsError.trans ⟨fun same => ⟨same.symm, declared, .list⟩, fun deep => deep.1.symm⟩
        | deepObject => exact failsError.trans ⟨fun same => ⟨same.symm, declared, .object⟩, fun deep => deep.1.symm⟩
  · rw [if_neg declared]
    exact iff_of_false failsOk fun deep => declared deep.2.1

theorem readOn {request : Request} {value : Json} (read : request.value = .ok value) : ¬ Stopped request := by
  intro stopped
  obtain ⟨error, failed, _⟩ := (valueFails request).mpr ⟨rfl, stopped⟩
  rw [failed] at read
  contradiction

structure Carries (request : Request) (value : Json) : Prop where
  declared : request.contentType.any isJsonType = true
  holds : Holds request.halves request.body value

def TooDeep (request : Request) : Prop := DeepBody request.halves request.body

theorem carriesValue {request : Request} {value : Json} (carries : Carries request value) :
    request.value = .ok value ∧ ¬ TooDeep request ∨ Stopped request ∧ TooDeep request := by
  refine (readHolds carries.holds).imp (fun ⟨read, shallow⟩ => ⟨?_, shallow⟩) fun ⟨deep, nested⟩ =>
    ⟨⟨carries.declared, deep⟩, nested⟩
  rw [Request.value, if_pos carries.declared, read]

theorem objectCarried {request : Request} {members : Members} (read : request.value = .ok (.object members)) :
    Carries request (.object members) := by
  unfold Request.value readBody at read
  split at read
  · rename_i declared
    split at read <;> cases read
    rename_i found
    split at found
    · exact ⟨declared, _, _, ‹_›, found⟩
    · contradiction
  · cases read

theorem outcomeFails (request : Request) (endpoint : Endpoint) (settings : Settings) (ids : Ids) {n : Nat}
    (other : n ≠ 400) :
    FailsWith n (request.value.bind (endpoint.handle settings request.halves · ids)) ↔
      n = 500 ∧ Stopped request ∨ ∃ members, request.value = .ok (.object members) ∧
        (n = 404 ∧ endpoint = .replace ∧ Missing request.halves members ids ∨ n = 500 ∧ Unforeseen endpoint members) := by
  rw [failsBind, valueFails]
  refine or_congr_right ⟨?_, ?_⟩
  · rintro ⟨value, read, fails⟩
    cases value with
    | object members => exact ⟨members, read, (handleFails other endpoint).mp fails⟩
    | _ => exact absurd fails (failsRejected other rfl)
  · rintro ⟨members, read, fails⟩
    exact ⟨_, read, (handleFails other endpoint).mpr fails⟩

section Answers

variable {request : Request} {endpoint : Endpoint} (sent : Sent request endpoint) (settings : Settings) (ids : Ids)
include sent

theorem answerOutcome :
    (∃ body, request.value.bind (endpoint.handle settings request.halves · ids) = .ok body ∧
      (answer request settings ids).status = 200) ∨
    ∃ error, request.value.bind (endpoint.handle settings request.halves · ids) = .error error ∧
      (answer request settings ids).status = error.status ∧
      (answer request settings ids).body = some (error.toJson request.halves) := by
  rw [answerSent sent, answerEndpoint]
  cases request.value.bind (endpoint.handle settings request.halves · ids) with
  | ok body => exact .inl ⟨body, rfl, rfl⟩
  | error error => exact .inr ⟨error, rfl, rfl, rfl⟩

theorem statusFails {n : Nat} (failed : n ≠ 200) (other : n ≠ 400) : (answer request settings ids).status = n ↔
    n = 500 ∧ Stopped request ∨ ∃ members, request.value = .ok (.object members) ∧
      (n = 404 ∧ endpoint = .replace ∧ Missing request.halves members ids ∨ n = 500 ∧ Unforeseen endpoint members) := by
  rw [← outcomeFails request endpoint settings ids other]
  rcases answerOutcome sent settings ids with ⟨body, ok, status⟩ | ⟨error, refused, status, _⟩
  · rw [ok, status]
    exact iff_of_false failed.symm failsOk
  · rw [refused, status, failsError]

theorem statusListed : (answer request settings ids).status ∈ [200, 400, 404, 500] := by
  rcases answerOutcome sent settings ids with ⟨_, _, status⟩ | ⟨error, _, status, _⟩
  · rw [status]
    exact List.mem_cons_self
  · rw [status]
    exact List.mem_cons_of_mem _ (errorListed error)

theorem statusNothing (nothing : ¬ ∃ value, Carries request value) :
    (answer request settings ids).status = 400 ∨ (answer request settings ids).status = 500 ∧ TooDeep request := by
  have absent (members : Members) : request.value ≠ .ok (.object members) :=
    fun read => nothing ⟨_, objectCarried read⟩
  have stopped {n : Nat} (failed : n ≠ 200) (other : n ≠ 400) :
      (answer request settings ids).status = n ↔ n = 500 ∧ Stopped request := by
    rw [statusFails sent settings ids failed other]
    simp [absent]
  have fine : (answer request settings ids).status ≠ 200 := by
    intro status
    rcases answerOutcome sent settings ids with ⟨body, ok, _⟩ | ⟨error, _, failed, _⟩
    · cases read : request.value with
      | error error => rw [read] at ok; contradiction
      | ok value =>
          rw [read] at ok
          cases value with
          | object members => exact absent members read
          | _ => contradiction
    · have listed := errorListed error
      rw [← failed, status] at listed
      exact absurd listed (by decide)
  have listed := statusListed sent settings ids
  simp only [List.mem_cons, List.not_mem_nil, or_false, fine, false_or] at listed
  rcases listed with rejected | missing | broken
  · exact .inl rejected
  · exact absurd ((stopped (by decide) (by decide)).mp missing).1 (by decide)
  · exact .inr ⟨broken, bodyDeep ((stopped (by decide) (by decide)).mp broken).2.2⟩

variable {value : Json} (carries : Carries request value)
include carries

theorem statusMissing : (answer request settings ids).status = 404 ↔
    ¬ TooDeep request ∧ endpoint = .replace ∧ ∃ members, value = .object members ∧
      Missing request.halves members ids := by
  rw [statusFails sent settings ids (by decide) (by decide)]
  rcases carriesValue carries with ⟨read, shallow⟩ | ⟨stopped, deep⟩
  · simp [read, shallow, and_left_comm]
  · obtain ⟨error, failed, _⟩ := (valueFails request).mpr ⟨rfl, stopped⟩
    simp [failed, deep]

theorem statusUnforeseen : (answer request settings ids).status = 500 ↔
    TooDeep request ∨ ∃ members, value = .object members ∧ Unforeseen endpoint members := by
  rw [statusFails sent settings ids (by decide) (by decide)]
  rcases carriesValue carries with ⟨read, shallow⟩ | ⟨stopped, deep⟩
  · simp [read, shallow, readOn read]
  · exact iff_of_true (.inl ⟨rfl, stopped⟩) (.inl deep)

end Answers

def deepPost : Request :=
  ⟨"POST", "/api/" ++ Endpoint.parse.name, some "application/json", String.ofList (Json.brackets 1000)⟩

def nullSize : Request := post .stream "\"chunk_size\": null"

def nobodyThere : Request := post .replace "\"components\": [], \"jsx\": \"<Hr/>\", \"node_id\": \"b\""

end Http
end EmailMarkup
