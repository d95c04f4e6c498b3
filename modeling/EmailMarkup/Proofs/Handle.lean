import EmailMarkup.Proofs.Editing

/-! Runs of calls on a handle. An edit is refused by the gate, or else misses its component, or else puts what was read
in the place of the whole email or of one component. Whatever fails is found out before an identity is drawn, so a
handle is changed by the edits that succeed and by nothing else. -/
namespace EmailMarkup

def Refused (source : String) (strict : Bool) : Prop := strict = true ∧ Gate.admits source = false
instance (source strict) : Decidable (Refused source strict) := by unfold Refused; infer_instance

/- What an edit answers and the handle that it leaves. The four cases exclude each other. -/
inductive Edited (handle : Handle) (source : String) (strict : Bool) : Option Json → Answer × Handle → Prop where
  | refused {id} (refused : Refused source strict) :
      Edited handle source strict id (.failed (.rejected (Gate.faults source)), handle)
  | missed {id} (passed : ¬ Refused source strict) (absent : ∀ other ∈ handle.email, other.id.same id = false) :
      Edited handle source strict (some id) (.failed (.notFound id), handle)
  | whole (passed : ¬ Refused source strict) :
      Edited handle source strict none (.components (Email.read source handle.ids).1,
        ⟨(Email.read source handle.ids).1, (Email.read source handle.ids).2⟩)
  | node {id before component after} (passed : ¬ Refused source strict)
      (split : handle.email = before ++ component :: after) (apart : ∀ other ∈ before, other.id.same id = false)
      (same : component.id.same id = true) :
      Edited handle source strict (some id) (.components (before ++ (Email.read source handle.ids).1 ++ after),
        ⟨before ++ (Email.read source handle.ids).1 ++ after, (Email.read source handle.ids).2⟩)

namespace Email

variable {source : String} {strict : Bool} (email : Email) (ids : Ids)

theorem editRefused (refused : Refused source strict) (id : Option Json) :
    email.edit source id strict ids = .error (.rejected (Gate.faults source)) :=
  if_pos (by simp [refused.1, refused.2])

theorem editWhole (passed : ¬ Refused source strict) :
    email.edit source none strict ids = .ok (Email.read source ids) :=
  if_neg (by simpa [Refused] using passed)

theorem editNode (passed : ¬ Refused source strict) (id : Json) :
    email.edit source (some id) strict ids = email.replace id source ids :=
  if_neg (by simpa [Refused] using passed)

theorem replaceMissed {id : Json} (absent : ∀ other ∈ email, other.id.same id = false) (source : String) :
    email.replace id source ids = .error (.notFound id) := by
  have none : email.indexOf? id = none := List.findIdx?_eq_none_iff.mpr absent
  rw [replace, findIndex, none]
  rfl

end Email

namespace Handle

theorem bindRun {α β : Type} (first : Action α) (next : α → Action β) (handle : Handle) :
    (first >>= next) handle = match first handle with
      | .ok a after => next a after
      | .error error after => .error error after := by
  change EStateM.bind first next handle = _
  unfold EStateM.bind
  cases first handle <;> rfl

def settle (handle : Handle) : Except EditError (Email × Ids) → EStateM.Result EditError Handle Email
  | .ok (email, ids) => .ok email ⟨email, ids⟩
  | .error error => .error error handle

theorem replacedRun (handle : Handle) (id : Json) (source : String) : replaced id source handle =
    match handle.email.replace id source handle.ids with
    | .ok (email, ids) => .ok email { handle with ids }
    | .error error => .error error handle := by
  have start : (get : Action Handle) handle = .ok handle handle := rfl
  rw [replaced, bindRun, start, Email.replace]
  dsimp only
  rw [bindRun]
  cases handle.email.findIndex id <;> rfl

theorem editRun (handle : Handle) (source : String) (id : Option Json) (strict : Bool) :
    edit source id strict handle = handle.settle (handle.email.edit source id strict handle.ids) := by
  unfold edit Email.edit
  cases strict && !Gate.admits source with
  | true => rfl
  | false =>
      cases id with
      | none => rfl
      | some id =>
          change (replaced id source >>= _) handle = handle.settle (handle.email.replace id source handle.ids)
          rw [bindRun, replacedRun]
          cases handle.email.replace id source handle.ids <;> rfl

theorem answerWrite (handle : Handle) (id : Option Json) : (handle.answer (.write id)).2 = handle := by
  change (Answer.ofResult .markup (orFail (handle.email.writeNode id) handle)).2 = handle
  cases handle.email.writeNode id <;> rfl

theorem answerEdit (handle : Handle) (source : String) (id : Option Json) (strict : Bool) :
    handle.answer (.edit source id strict) =
      Answer.ofResult .components (handle.settle (handle.email.edit source id strict handle.ids)) := by
  rw [answer, editRun]

theorem answerEdited {handle : Handle} {source : String} {strict : Bool} {id : Option Json} {outcome : Answer × Handle}
    (edited : Edited handle source strict id outcome) : handle.answer (.edit source id strict) = outcome := by
  rw [answerEdit]
  cases edited with
  | refused refused =>
      rw [Email.editRefused _ _ refused]
      rfl
  | missed passed absent =>
      rw [Email.editNode _ _ passed, Email.replaceMissed _ _ absent]
      rfl
  | whole passed =>
      rw [Email.editWhole _ _ passed]
      rfl
  | node passed split apart same =>
      rw [Email.editNode _ _ passed, split, Email.replaceFirst apart same]
      rfl

theorem someEdited (handle : Handle) (source : String) (strict : Bool) (id : Option Json) :
    ∃ outcome, Edited handle source strict id outcome := by
  by_cases refused : Refused source strict
  · exact ⟨_, .refused refused⟩
  · cases id with
    | none => exact ⟨_, .whole refused⟩
    | some id =>
        by_cases held : ∃ component ∈ handle.email, component.id.same id = true
        · obtain ⟨before, component, after, split, apart, same⟩ := Email.firstHeld held
          exact ⟨_, .node refused split apart same⟩
        · exact ⟨_, .missed refused (by simpa using held)⟩

theorem answerIff (handle : Handle) (source : String) (strict : Bool) (id : Option Json) (outcome : Answer × Handle) :
    handle.answer (.edit source id strict) = outcome ↔ Edited handle source strict id outcome := by
  refine ⟨?_, answerEdited⟩
  rintro rfl
  obtain ⟨outcome, edited⟩ := handle.someEdited source strict id
  rwa [answerEdited edited]

def changes (handle : Handle) : Call → Bool
  | .edit source id strict =>
      match (handle.answer (.edit source id strict)).1 with
      | .failed _ => false
      | _ => true
  | _ => false

theorem answerUnchanged {handle : Handle} {call : Call} (none : handle.changes call = false) :
    (handle.answer call).2 = handle := by
  cases call with
  | write id => exact handle.answerWrite id
  | components => rfl
  | edit source id strict =>
      obtain ⟨outcome, edited⟩ := handle.someEdited source strict id
      rw [changes, answerEdited edited] at none
      rw [answerEdited edited]
      cases edited with
      | refused _ => rfl
      | missed _ _ => rfl
      | whole _ => contradiction
      | node _ _ _ _ => contradiction

theorem answerSplices (handle : Handle) (call : Call) : (handle.answer call).2 = handle ∨
    ∃ source before gone after, handle.email = before ++ gone ++ after ∧
      (handle.answer call).2 = ⟨before ++ (Email.read source handle.ids).1 ++ after, (Email.read source handle.ids).2⟩ := by
  cases call with
  | write id => exact .inl (handle.answerWrite id)
  | components => exact .inl rfl
  | edit source id strict =>
      obtain ⟨outcome, edited⟩ := handle.someEdited source strict id
      rw [answerEdited edited]
      cases edited with
      | refused _ => exact .inl rfl
      | missed _ _ => exact .inl rfl
      | whole _ => exact .inr ⟨source, [], handle.email, [], by simp, by simp⟩
      | @node _ before component after _ split _ _ =>
          exact .inr ⟨source, before, [component], after, by simpa using split, rfl⟩

def run (handle : Handle) (calls : List Call) : Handle := calls.foldl (fun handle call => (handle.answer call).2) handle

theorem runCons (handle : Handle) (call : Call) (rest : List Call) :
    handle.run (call :: rest) = (handle.answer call).2.run rest := rfl

theorem runAppend (handle : Handle) (a b : List Call) : handle.run (a ++ b) = (handle.run a).run b := by
  simp [run]

def effective : Handle → List Call → List Call
  | _, [] => []
  | handle, call :: rest =>
      if handle.changes call then call :: effective (handle.answer call).2 rest
      else effective (handle.answer call).2 rest

theorem runEffective (handle : Handle) (calls : List Call) : handle.run (handle.effective calls) = handle.run calls := by
  induction calls generalizing handle with
  | nil => rfl
  | cons call rest ih =>
      rw [effective, runCons, ← ih]
      split
      · rw [runCons]
      · rename_i none
        rw [answerUnchanged (Bool.not_eq_true _ ▸ none)]

theorem strictLenient {handle : Handle} {source : String} {id : Option Json} {edited other : Email}
    {next last : Handle} (gated : handle.answer (.edit source id true) = (.components edited, next))
    (free : handle.answer (.edit source id false) = (.components other, last)) : edited = other ∧ next = last := by
  have passed : ¬ Refused source false := fun refused => Bool.noConfusion refused.1
  have same : handle.answer (.edit source id false) = (.components edited, next) := by
    cases (handle.answerIff source true id _).mp gated with
    | whole _ => exact answerEdited (.whole passed)
    | node _ split apart held => exact answerEdited (.node passed split apart held)
  obtain ⟨answers, handles⟩ := Prod.mk.inj (same.symm.trans free)
  exact ⟨Answer.components.inj answers, handles⟩

theorem editsAtomically (handle : Handle) (earlier : List Call) :
    let here := handle.run earlier
    (∀ source strict id outcome,
      here.answer (.edit source id strict) = outcome ↔ Edited here source strict id outcome) ∧
    (∀ source id edited other next last, here.answer (.edit source id true) = (.components edited, next) →
      here.answer (.edit source id false) = (.components other, last) → edited = other ∧ next = last) ∧
    (∀ id, (here.answer (.write id)).2 = here) ∧ here.answer .components = (.components here.email, here) ∧
    (∀ call later, handle.run (earlier ++ call :: later) = (here.answer call).2.run later) ∧
    handle.run (handle.effective earlier) = here := by
  intro here
  refine ⟨here.answerIff, fun _ _ _ _ _ _ => strictLenient, here.answerWrite, rfl, fun call later => ?_,
    handle.runEffective earlier⟩
  rw [runAppend, runCons]

def twins : Handle :=
  ⟨[⟨.str "a", .divider {}⟩, ⟨.str "b", .text {}⟩, ⟨.str "b", .image {}⟩], Ids.numbered⟩

def idleCalls : List Call := [.edit "<Text>" none true, .edit "<Hr />" (some (.str "c")) true, .write none]

theorem editsTwins : ∃ edited other next last,
    (twins.run idleCalls).answer (.edit "<Text>x</Text><Hr />" (some (.str "b")) true) = (.components edited, next) ∧
    (twins.run idleCalls).answer (.edit "<Text>x</Text><Hr />" (some (.str "b")) false) = (.components other, last) ∧
    (edited = other ∧ next = last) ∧ edited.map (·.id) = [.str "a", .str "id1", .str "id2", .str "b"] ∧
    edited.contents = [.divider {}, .divider {}, .text { text := "x" }, .image {}] := by
  obtain ⟨law, agree, _, _, _, struck⟩ := editsAtomically twins idleCalls
  have idle : twins.effective idleCalls = [] := List.isEmpty_iff.mp (by decide +kernel)
  rw [idle] at struck
  have still : twins.run idleCalls = twins := struck.symm
  rw [still] at law agree ⊢
  have apart : ∀ other ∈ twins.email.take 1, other.id.same (.str "b") = false := by decide
  have edited : ∀ strict, ¬ Refused "<Text>x</Text><Hr />" strict → _ := fun strict passed =>
    (law "<Text>x</Text><Hr />" strict (some (.str "b")) _).mpr (.node passed rfl apart rfl)
  have gated := edited true (by decide +kernel)
  have free := edited false (by decide +kernel)
  refine ⟨_, _, _, _, gated, free, agree _ _ _ _ _ _ gated free, ?_, ?_⟩ <;> decide +kernel

end Handle
end EmailMarkup
