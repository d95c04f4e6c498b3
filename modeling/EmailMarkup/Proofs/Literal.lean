import EmailMarkup.Component.Field
import EmailMarkup.Export.Format
import Mathlib.Data.List.Infix

/-! Quoted literals of a React-Email module. A reader that stands before the opening quote of a literal and takes the
character behind a backslash as it is reads back the value that was written, and stops at the quote that the module
closes the literal with, whatever the values are. -/
namespace EmailMarkup.Export

def unquote? : List Char → Option (List Char × List Char)
  | [] => none
  | '\'' :: behind => some ([], behind)
  | ['\\'] => none
  | '\\' :: c :: rest => (unquote? rest).map fun (text, behind) => (c :: text, behind)
  | c :: rest => (unquote? rest).map fun (text, behind) => (c :: text, behind)

def literal? : List Char → Option (List Char × List Char)
  | '\'' :: rest => unquote? rest
  | _ => none

theorem renderCons (value : List Char → List Char) (slot : Slot) (rest : List Slot) :
    render value (slot :: rest) = slot.write value ++ render value rest := List.flatMap_cons

def replaced (old : Char) (new s : List Char) : List Char := s.flatMap fun c => if c = old then new else [c]

theorem unquotePlain {c : Char} (quote : c ≠ '\'') (backslash : c ≠ '\\') (rest : List Char) :
    unquote? (c :: rest) = (unquote? rest).map fun (text, behind) => (c :: text, behind) := by
  simp [unquote?, backslash]

theorem unquoteChar (c : Char) (rest : List Char) :
    unquote? (quoteChar c ++ rest) = (unquote? rest).map fun (text, behind) => (c :: text, behind) := by
  unfold quoteChar
  split
  · rfl
  · rename_i plain
    exact unquotePlain (fun h => plain (.inr h)) (fun h => plain (.inl h)) rest

theorem unquoteQuote (s behind : List Char) : unquote? (quote s ++ '\'' :: behind) = some (s, behind) := by
  induction s with
  | nil => rfl
  | cons c s ih =>
      have parts : quote (c :: s) = quoteChar c ++ quote s := List.flatMap_cons
      rw [parts, List.append_assoc, unquoteChar, ih]
      rfl

/- The backslashes are doubled before the quotes get theirs, so no backslash is taken for one that was there. -/
theorem quoteReplaced (s : List Char) :
    quote s = replaced '\'' ['\\', '\''] (replaced '\\' ['\\', '\\'] s) := by
  rw [replaced, replaced, List.flatMap_assoc, quote]
  refine List.flatMap_congr fun c _ => ?_
  by_cases backslash : c = '\\'
  · subst c
    rfl
  · by_cases quote : c = '\'' <;> simp [quoteChar, backslash, quote]

namespace React

def key? : Field → Option String
  | .fontSize => some "fontSize"
  | .align => some "textAlign"
  | .color => some "color"
  | .backgroundColor => some "backgroundColor"
  | .textColor => some "color"
  | .padding => some "padding"
  | .borderColor => some "borderColor"
  | .borderWidth => some "borderWidth"
  | _ => none

inductive Quoted : List Slot → Prop where
  | nil : Quoted []
  | fixed (markup : String) {rest : List Slot} (tail : Quoted rest) : Quoted (.fixed markup :: rest)
  | value (text : String) {rest : List Slot} (tail : Quoted rest) : Quoted (.value text :: rest)
  | literal {opener closer : String} (text : String) {rest : List Slot} (opens : ['\''] <:+ opener.toList)
      (closes : ['\''] <+: closer.toList) (tail : Quoted (.fixed closer :: rest)) :
      Quoted (.fixed opener :: .literal text :: .fixed closer :: rest)

theorem Quoted.append {a b : List Slot} (first : Quoted a) (second : Quoted b) : Quoted (a ++ b) := by
  induction first with
  | nil => exact second
  | fixed markup _ ih => exact .fixed markup ih
  | value text _ ih => exact .value text ih
  | literal text opens closes _ ih => exact .literal text opens closes ih

theorem Quoted.flatten {lists : List (List Slot)} (each : ∀ slots ∈ lists, Quoted slots) : Quoted lists.flatten := by
  induction lists with
  | nil => exact .nil
  | cons slots rest ih =>
      rw [List.forall_mem_cons] at each
      exact each.1.append (ih each.2)

theorem Quoted.around {slots : List Slot} (quoted : Quoted slots) {front back : List Slot} {text : String}
    (split : slots = front ++ .literal text :: back) :
    (∃ ahead, render id front = ahead ++ ['\'']) ∧ ∃ behind, render id back = '\'' :: behind := by
  induction quoted generalizing front with
  | nil => simp at split
  | fixed markup _ ih =>
      cases front with
      | nil => simp at split
      | cons slot front =>
          obtain ⟨rfl, tail⟩ := List.cons.inj split
          obtain ⟨⟨ahead, opens⟩, closes⟩ := ih tail
          exact ⟨⟨markup.toList ++ ahead, by rw [renderCons, opens, List.append_assoc, Slot.write]⟩, closes⟩
  | value other _ ih =>
      cases front with
      | nil => simp at split
      | cons slot front =>
          obtain ⟨rfl, tail⟩ := List.cons.inj split
          obtain ⟨⟨ahead, opens⟩, closes⟩ := ih tail
          exact ⟨⟨other.toList ++ ahead, by rw [renderCons, opens, List.append_assoc, Slot.write, id]⟩, closes⟩
  | @literal opener closer other rest opens closes _ ih =>
      rcases front with _ | ⟨slot, _ | ⟨second, front⟩⟩
      · simp at split
      · simp only [List.cons_append, List.nil_append, List.cons.injEq, Slot.literal.injEq] at split
        obtain ⟨rfl, rfl, rfl⟩ := split
        obtain ⟨ahead, before⟩ := opens
        obtain ⟨behind, after⟩ := closes
        refine ⟨⟨ahead, ?_⟩, ⟨behind ++ render id rest, ?_⟩⟩
        · rw [renderCons, Slot.write, ← before]
          exact List.append_nil _
        · rw [renderCons, Slot.write, ← after]
          rfl
      · simp only [List.cons_append, List.cons.injEq] at split
        obtain ⟨rfl, rfl, tail⟩ := split
        obtain ⟨⟨ahead, opened⟩, closed⟩ := ih tail
        refine ⟨⟨opener.toList ++ (quote other.toList ++ ahead), ?_⟩, closed⟩
        rw [renderCons, renderCons, opened, List.append_assoc, List.append_assoc]
        rfl

theorem componentQuoted (props : Props) : Quoted (component props) := by
  cases props <;> rw [component]
  all_goals repeat first
    | exact .nil
    | refine .literal _ (by decide +kernel) (by decide +kernel) ?_
    | refine .fixed _ ?_
    | refine .value _ ?_

theorem slotsQuoted (contents : List Props) : Quoted (slots contents) := by
  have opens : Quoted opening := by
    rw [opening]
    repeat first | exact .nil | refine .fixed _ ?_
  have closes : Quoted closing := by
    rw [closing]
    repeat first | exact .nil | refine .fixed _ ?_
  refine (opens.append ?_).append closes
  rw [List.flatMap]
  refine .flatten fun slots member => ?_
  obtain ⟨props, _, rfl⟩ := List.mem_map.mp member
  exact componentQuoted props

theorem stylePlaced (props : Props) {field : Field} {value key : String} (held : (field, value) ∈ props.fields)
    (named : key? field = some key) : ∃ lead opener back,
      component props = lead ++ .fixed opener :: .literal value :: back ∧ (key ++ ": '").toList <:+ opener.toList := by
  have placedAt : ∀ n, (∃ opener, component props = (component props).take n ++ .fixed opener :: .literal value ::
      (component props).drop (n + 2) ∧ (key ++ ": '").toList <:+ opener.toList) → ∃ lead opener back,
      component props = lead ++ .fixed opener :: .literal value :: back ∧ (key ++ ": '").toList <:+ opener.toList :=
    fun n ⟨opener, placed⟩ => ⟨_, opener, _, placed⟩
  cases props <;> cases field <;> simp [Props.fields, key?] at held named
  all_goals subst held named
  case heading.fontSize h => exact placedAt 2 ⟨_, rfl, by decide +kernel⟩
  case heading.align h => exact placedAt 4 ⟨_, rfl, by decide +kernel⟩
  case heading.color h => exact placedAt 6 ⟨_, rfl, by decide +kernel⟩
  case text.fontSize t => exact placedAt 0 ⟨_, rfl, by decide +kernel⟩
  case text.align t => exact placedAt 2 ⟨_, rfl, by decide +kernel⟩
  case text.color t => exact placedAt 4 ⟨_, rfl, by decide +kernel⟩
  case button.backgroundColor b => exact placedAt 5 ⟨_, rfl, by decide +kernel⟩
  case button.textColor b => exact placedAt 8 ⟨_, rfl, by decide +kernel⟩
  case button.padding b => exact placedAt 11 ⟨_, rfl, by decide +kernel⟩
  case divider.borderColor d => exact placedAt 0 ⟨_, rfl, by decide +kernel⟩
  case divider.borderWidth d => exact placedAt 2 ⟨_, rfl, by decide +kernel⟩

end React

/- Every style value of an email stands in a literal of the module, under its name. Whoever reads that literal from its
opening quote on gets the value and stops at the quote that the module closes it with. -/
theorem closesLiterals (email : Email) :
    (∀ front text back, React.slots email.contents = front ++ .literal text :: back →
      ∃ ahead behind, render id front = ahead ++ ['\''] ∧ render id back = '\'' :: behind ∧
        email.react.toList.drop ahead.length = '\'' :: (quote text.toList ++ '\'' :: behind) ∧
        literal? (email.react.toList.drop ahead.length) = some (text.toList, behind)) ∧
    (∀ (before after : Email) (component : Component), email = before ++ component :: after →
      ∀ field value key, (field, value) ∈ component.props.fields → React.key? field = some key →
        ∃ lead back rest, React.component component.props = lead ++ .literal value :: back ∧
          React.slots email.contents =
            (React.opening ++ before.contents.flatMap React.component ++ lead) ++ .literal value :: (back ++ rest) ∧
          (key ++ ": '").toList <:+ render id lead) ∧
    ∀ text, quote text = replaced '\'' ['\\', '\''] (replaced '\\' ['\\', '\\'] text) := by
  refine ⟨?_, ?_, quoteReplaced⟩
  · intro front text back split
    obtain ⟨⟨ahead, opens⟩, behind, closes⟩ := (React.slotsQuoted email.contents).around split
    have shown : email.react.toList = ahead ++ '\'' :: (quote text.toList ++ '\'' :: behind) := by
      rw [Email.react, String.toList_ofList, React.write, split, renderAppend, renderCons, opens, closes]
      simp [Slot.write]
    have place : email.react.toList.drop ahead.length = '\'' :: (quote text.toList ++ '\'' :: behind) := by
      rw [shown, List.drop_left]
    refine ⟨ahead, behind, opens, closes, place, ?_⟩
    rw [place, literal?, unquoteQuote]
  · rintro before after component rfl field value key held named
    obtain ⟨lead, opener, back, placed, label⟩ := React.stylePlaced component.props held named
    refine ⟨lead ++ [.fixed opener], back, after.contents.flatMap React.component ++ React.closing, ?_, ?_, ?_⟩
    · rw [placed, List.append_assoc, List.singleton_append]
    · simp [React.slots, Email.contents, placed]
    · rw [renderAppend, renderCons]
      exact label.trans (by simp [render, Slot.write])

def escapingEmail : Email :=
  [⟨.str "a", .button { textColor := "\\" }⟩, ⟨.str "b", .divider { borderColor := "\\', x: '" }⟩]

theorem closesEscaping :
    (∃ lead back behind ahead, React.component (.divider { borderColor := "\\', x: '" }) =
        lead ++ .literal "\\', x: '" :: back ∧
      "borderColor: '".toList <:+ render id lead ∧
      escapingEmail.react.toList.drop ahead = '\'' :: (quote "\\', x: '".toList ++ '\'' :: behind) ∧
      literal? (escapingEmail.react.toList.drop ahead) = some ("\\', x: '".toList, behind)) ∧
    quote ['\\', '\''] = ['\\', '\\', '\\', '\''] := by
  obtain ⟨reads, placed, _⟩ := closesLiterals escapingEmail
  obtain ⟨lead, back, rest, inside, split, label⟩ := placed [⟨.str "a", .button { textColor := "\\" }⟩] []
    ⟨.str "b", .divider { borderColor := "\\', x: '" }⟩ rfl .borderColor _ _ List.mem_cons_self rfl
  obtain ⟨ahead, behind, _, _, place, read⟩ := reads _ _ _ split
  exact ⟨⟨lead, back, behind, ahead.length, inside, label, place, read⟩, rfl⟩

end EmailMarkup.Export
