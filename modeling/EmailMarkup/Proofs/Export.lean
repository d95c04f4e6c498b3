import EmailMarkup.Component.Field
import EmailMarkup.Export.Format
import Mathlib.Data.List.Basic

/-! What values can do to the markup they are put into. Escaped values hold none of the signs that markup is made of
and can be read back, so the markup of an HTML document depends on the kinds of the components only. In a React-Email
module some values stand as they are, and every sign in them is a sign of the module. -/
namespace EmailMarkup.Export

def signs (marks s : List Char) : List Char := s.filter (· ∈ marks)

theorem signsNone {marks s : List Char} : signs marks s = [] ↔ ∀ c ∈ s, c ∉ marks := by
  simp [signs, List.filter_eq_nil_iff]

theorem signsAppend (marks a b : List Char) : signs marks (a ++ b) = signs marks a ++ signs marks b :=
  List.filter_append a b

theorem signsRender (marks : List Char) (value : List Char → List Char) (slots : List Slot) :
    signs marks (render value slots) = slots.flatMap fun slot => signs marks (slot.write value) := by
  rw [render, signs, List.filter_flatMap]
  rfl

theorem flatMapThrough {α β γ : Type} {f : α → List β} {key : α → γ} (through : ∀ x y, key x = key y → f x = f y)
    {xs ys : List α} (same : xs.map key = ys.map key) : xs.flatMap f = ys.flatMap f := by
  induction xs generalizing ys with
  | nil => rw [List.map_eq_nil_iff.mp same.symm]
  | cons x xs ih =>
      cases ys with
      | nil => contradiction
      | cons y ys =>
          obtain ⟨head, tail⟩ := List.cons.inj same
          rw [List.flatMap_cons, List.flatMap_cons, through x y head, ih tail]

def unescape : List Char → List Char
  | '&' :: 'a' :: 'm' :: 'p' :: ';' :: rest => '&' :: unescape rest
  | '&' :: 'l' :: 't' :: ';' :: rest => '<' :: unescape rest
  | '&' :: 'g' :: 't' :: ';' :: rest => '>' :: unescape rest
  | '&' :: '#' :: '3' :: '9' :: ';' :: rest => '\'' :: unescape rest
  | '&' :: '#' :: '3' :: '4' :: ';' :: rest => '"' :: unescape rest
  | c :: rest => c :: unescape rest
  | [] => []

theorem unescapeOther {c : Char} (other : c ≠ '&') (rest : List Char) :
    unescape (c :: rest) = c :: unescape rest := by
  simp [unescape, other]

theorem unescapeEntity (c : Char) (rest : List Char) : unescape (entity c ++ rest) = c :: unescape rest := by
  unfold entity
  split
  case h_6 => exact unescapeOther ‹_› rest
  all_goals rfl

theorem unescapeEscape (s rest : List Char) : unescape (escape s ++ rest) = s ++ unescape rest := by
  induction s with
  | nil => rfl
  | cons c s ih =>
      have parts : escape (c :: s) = entity c ++ escape s := List.flatMap_cons
      rw [parts, List.append_assoc, unescapeEntity, ih, List.cons_append]

theorem unescapeClear {s : List Char} (clear : '&' ∉ s) (rest : List Char) :
    unescape (s ++ rest) = s ++ unescape rest := by
  induction s with
  | nil => rfl
  | cons c s ih =>
      simp only [List.mem_cons, not_or] at clear
      rw [List.cons_append, unescapeOther (Ne.symm clear.1), ih clear.2, List.cons_append]

def Slot.fixed? : Slot → Option String
  | .fixed markup => some markup
  | _ => none

namespace Html

def marks : List Char := ['<', '>', '"', '\'']

theorem entityUnmarked (c : Char) : ∀ d ∈ entity c, d ∉ marks := by
  unfold entity
  split
  case h_6 => simp_all [marks]
  all_goals simp [marks]

theorem escapeUnmarked (s : List Char) : ∀ c ∈ escape s, c ∉ marks := by
  intro c h
  obtain ⟨d, _, inside⟩ := List.mem_flatMap.mp h
  exact entityUnmarked d c inside

/- A slot whose markup holds no entity, and whose value, if it has one, is escaped. -/
def Plain : Slot → Prop
  | .fixed markup => '&' ∉ markup.toList
  | .value _ => True
  | .literal _ => False

theorem valueRead (text : List Char) : unescape (escape text) = text := by
  have read := unescapeEscape text []
  rwa [List.append_nil, unescape, List.append_nil] at read

theorem unescapeRender {slots : List Slot} (plain : ∀ slot ∈ slots, Plain slot) :
    unescape (render escape slots) = render id slots := by
  induction slots with
  | nil => rfl
  | cons slot rest ih =>
      have here := plain slot List.mem_cons_self
      have tail := ih fun other h => plain other (List.mem_cons_of_mem _ h)
      have parts : ∀ value, render value (slot :: rest) = slot.write value ++ render value rest :=
        fun _ => List.flatMap_cons
      rw [parts, parts, ← tail]
      cases slot with
      | fixed markup => exact unescapeClear here _
      | value text => exact unescapeEscape text.toList _
      | literal text => contradiction

theorem signsFixed {slots : List Slot} (plain : ∀ slot ∈ slots, Plain slot) :
    signs marks (render escape slots) = (slots.filterMap Slot.fixed?).flatMap fun markup => signs marks markup.toList := by
  rw [signsRender]
  induction slots with
  | nil => rfl
  | cons slot rest ih =>
      rw [List.flatMap_cons, ih fun other h => plain other (List.mem_cons_of_mem _ h)]
      cases slot with
      | fixed markup => rfl
      | value text =>
          have none : signs marks (Slot.write escape (.value text)) = [] := signsNone.mpr (escapeUnmarked text.toList)
          rw [none]
          rfl
      | literal text => exact absurd (plain _ List.mem_cons_self) id

theorem componentFixed (props : Props) :
    (component props).filterMap Slot.fixed? = (component (Props.initial props.kind)).filterMap Slot.fixed? := by
  cases props <;> rfl

theorem markupPlain {markup : List Char} (clear : '&' ∉ markup) : Plain (.fixed (String.ofList markup)) := by
  rwa [Plain, String.toList_ofList]

theorem componentPlain (props : Props) : ∀ slot ∈ component props, Plain slot := by
  cases props <;> rw [component, ← List.forall_iff_forall_mem] <;> and_intros
  all_goals first | exact trivial | exact markupPlain (by decide)

theorem openingPlain (title : String) : ∀ slot ∈ opening title, Plain slot := by
  rw [opening, ← List.forall_iff_forall_mem]
  and_intros
  all_goals first | exact trivial | exact markupPlain (by decide)

theorem closingPlain : ∀ slot ∈ closing, Plain slot := by
  rw [closing, ← List.forall_iff_forall_mem]
  and_intros
  all_goals first | exact trivial | exact markupPlain (by decide)

theorem slotsPlain (title : String) (contents : List Props) : ∀ slot ∈ slots title contents, Plain slot := by
  intro slot h
  rw [slots, List.mem_append, List.mem_append, List.mem_flatMap] at h
  rcases h with (opens | ⟨props, _, inside⟩) | closes
  · exact openingPlain title slot opens
  · exact componentPlain props slot inside
  · exact closingPlain slot closes

theorem slotsFixed {contents other : List Props} (same : contents.map Props.kind = other.map Props.kind)
    (title caption : String) :
    (slots title contents).filterMap Slot.fixed? = (slots caption other).filterMap Slot.fixed? := by
  have inner : contents.flatMap (fun props => (component props).filterMap Slot.fixed?) =
      other.flatMap fun props => (component props).filterMap Slot.fixed? := by
    refine flatMapThrough (fun p q kind => ?_) same
    rw [componentFixed p, kind, ← componentFixed q]
  simp only [slots, List.filterMap_append, List.filterMap_flatMap, inner]
  rfl

theorem fieldPlaced (props : Props) : ∀ field ∈ props.fields, Slot.value field.2 ∈ component props := by
  cases props <;> simp [Props.fields, component]

theorem titlePlaced (title : String) : Slot.value title ∈ opening title := by
  simp [opening]

theorem slotShown {slots front back : List Slot} {text : String} (split : slots = front ++ .value text :: back) :
    ∃ piece, render escape slots = render escape front ++ piece ++ render escape back ∧ (∀ c ∈ piece, c ∉ marks) ∧
      unescape piece = text.toList := by
  refine ⟨escape text.toList, ?_, escapeUnmarked text.toList, valueRead text.toList⟩
  rw [split, renderAppend, List.append_assoc]
  exact congrArg _ List.flatMap_cons

end Html

/-- The kinds alone decide about the signs of a document. Its title and every field of its components have a place in
it, in the order of the components, and what stands there can be read back. -/
theorem keepsStructure :
    (∀ (email other : Email) (title caption : String), email.map Component.kind = other.map Component.kind →
      signs Html.marks (email.html title).toList = signs Html.marks (other.html caption).toList) ∧
    ∀ (email : Email) (title : String),
      unescape (email.html title).toList = render id (Html.slots title email.contents) ∧
      (∀ front text back, Html.slots title email.contents = front ++ .value text :: back →
        ∃ piece, (email.html title).toList = render escape front ++ piece ++ render escape back ∧
          (∀ c ∈ piece, c ∉ Html.marks) ∧ unescape piece = text.toList) ∧
      (∃ lead rest, Html.slots title email.contents =
        lead ++ .value title :: (rest ++ email.contents.flatMap Html.component ++ Html.closing)) ∧
      ∀ (before after : Email) (component : Component), email = before ++ component :: after →
        ∀ field ∈ component.props.fields, ∃ lead rest, Html.component component.props = lead ++ .value field.2 :: rest ∧
          Html.slots title email.contents =
            (Html.opening title ++ before.contents.flatMap Html.component ++ lead) ++ .value field.2 ::
              (rest ++ after.contents.flatMap Html.component ++ Html.closing) := by
  have shown : ∀ (email : Email) (title : String),
      (email.html title).toList = render escape (Html.slots title email.contents) :=
    fun email title => String.toList_ofList
  refine ⟨fun email other title caption same => ?_, fun email title => ⟨?_, fun front text back split => ?_, ?_, ?_⟩⟩
  · have kinds : email.contents.map Props.kind = other.contents.map Props.kind := by
      rw [Email.contents, Email.contents, List.map_map, List.map_map]
      exact same
    rw [shown, shown, Html.signsFixed (Html.slotsPlain title email.contents),
      Html.signsFixed (Html.slotsPlain caption other.contents), Html.slotsFixed kinds]
  · rw [shown, Html.unescapeRender (Html.slotsPlain title email.contents)]
  · rw [shown]
    exact Html.slotShown split
  · obtain ⟨lead, rest, placed⟩ := List.append_of_mem (Html.titlePlaced title)
    refine ⟨lead, rest, ?_⟩
    rw [Html.slots, placed, List.append_assoc, List.append_assoc, List.cons_append, List.append_assoc]
  · rintro before after component rfl field held
    obtain ⟨lead, rest, placed⟩ := List.append_of_mem (Html.fieldPlaced component.props field held)
    refine ⟨lead, rest, placed, ?_⟩
    simp [Html.slots, Email.contents, placed]

def mildEmail : Email := [⟨.str "a", .heading {}⟩, ⟨.str "b", .button {}⟩, ⟨.str "c", .image {}⟩]

def wildEmail : Email :=
  [⟨.str "d", .heading ⟨"</h2><script>", "h1", "\"", "';\"", "&lt;"⟩⟩,
    ⟨.str "d", .button ⟨"</a>", "\" onclick='", "\">", "<!--", "'"⟩⟩, ⟨.null, .image ⟨"\"/>", "'&#34;", "\" <"⟩⟩]

theorem keepsStructureWild :
    mildEmail.map Component.kind = wildEmail.map Component.kind ∧
    signs Html.marks (mildEmail.html "News").toList = signs Html.marks (wildEmail.html "</title>&amp;").toList ∧
    ∃ front piece back, (wildEmail.html "</title>&amp;").toList = front ++ piece ++ back ∧
      (∀ c ∈ piece, c ∉ Html.marks) ∧ unescape piece = "\" onclick='".toList := by
  have kinds : mildEmail.map Component.kind = wildEmail.map Component.kind := rfl
  obtain ⟨_, reads, _, fields⟩ := keepsStructure.2 wildEmail "</title>&amp;"
  obtain ⟨lead, rest, _, split⟩ := fields [_] [_] _ rfl (.href, "\" onclick='") (.tail _ List.mem_cons_self)
  obtain ⟨piece, shown, clear, read⟩ := reads _ _ _ split
  exact ⟨kinds, keepsStructure.1 mildEmail wildEmail _ _ kinds, _, piece, _, shown, clear, read⟩

namespace React

def marks : List Char := ['<', '>', '\x7b', '\x7d', '"']

def bare : List Field := [.text, .href, .src, .alt, .width]

def frame (props : Props) : Props := props.mapFields fun field value => if field ∈ bare then "" else value

def sign (field : Field) (value : String) : String :=
  if field ∈ bare then String.ofList (signs marks value.toList) else value

def signature (props : Props) : Props := props.mapFields sign

def put (field : Field) (value : String) (props : Props) : Props :=
  props.mapFields fun other old => if other = field then value else old

theorem signSigns (field : Field) (value : String) :
    signs marks (sign field value).toList = signs marks value.toList := by
  unfold sign
  split
  · rw [String.toList_ofList, signs, signs, List.filter_filter]
    simp only [Bool.and_self]
  · rfl

theorem componentSigns (props : Props) :
    signs marks (render id (component (signature props))) = signs marks (render id (component props)) := by
  rw [signsRender, signsRender]
  cases props <;>
    simp only [signature, Props.mapFields, component, List.flatMap_cons, Slot.write, id, signSigns] <;> rfl

theorem slotsSigns {contents other : List Props} (same : contents.map signature = other.map signature) :
    signs marks (render id (slots contents)) = signs marks (render id (slots other)) := by
  have inner : signs marks (render id (contents.flatMap component)) =
      signs marks (render id (other.flatMap component)) := by
    rw [render, render, List.flatMap_assoc, List.flatMap_assoc, signs, signs, List.filter_flatMap,
      List.filter_flatMap]
    refine flatMapThrough (fun p q key => ?_) same
    exact (componentSigns p).symm.trans (key ▸ componentSigns q)
  simp only [slots, renderAppend, signsAppend, inner]

theorem barePlaced (props : Props) {field : Field} (listed : field ∈ bare) :
    ((∀ old, (field, old) ∉ props.fields) ∧ ∀ value, put field value props = props) ∨
    ∃ old n, (∀ other, (field, other) ∈ props.fields ↔ other = old) ∧ put field old props = props ∧
      ∀ value, component (put field value props) =
        (component props).take n ++ .value value :: (component props).drop (n + 1) := by
  cases props <;> cases field <;> try exact absurd listed (by decide)
  all_goals try exact .inl ⟨by simp [Props.fields], fun _ => rfl⟩
  case heading.text h => exact .inr ⟨h.text, 10, by simp [Props.fields], rfl, fun _ => rfl⟩
  case text.text t => exact .inr ⟨t.text, 8, by simp [Props.fields], rfl, fun _ => rfl⟩
  case button.text b => exact .inr ⟨b.text, 21, by simp [Props.fields], rfl, fun _ => rfl⟩
  case button.href b => exact .inr ⟨b.href, 2, by simp [Props.fields], rfl, fun _ => rfl⟩
  case image.src i => exact .inr ⟨i.src, 2, by simp [Props.fields], rfl, fun _ => rfl⟩
  case image.alt i => exact .inr ⟨i.alt, 5, by simp [Props.fields], rfl, fun _ => rfl⟩
  case image.width i => exact .inr ⟨i.width, 8, by simp [Props.fields], rfl, fun _ => rfl⟩

/- Everything but the slot of the field stays, so the signs agree only if those of the two values do. -/
theorem componentPut (props : Props) {field : Field} (listed : field ∈ bare) (value : String) :
    signs marks (render id (component (put field value props))) = signs marks (render id (component props)) ↔
      ∀ old, (field, old) ∈ props.fields → signs marks value.toList = signs marks old.toList := by
  rcases barePlaced props listed with ⟨absent, kept⟩ | ⟨old, n, only, kept, placed⟩
  · rw [kept value]
    exact iff_of_true rfl fun old h => absurd h (absent old)
  · have shown : ∀ text, signs marks (render id (component (put field text props))) =
        signs marks (render id ((component props).take n)) ++
          (signs marks text.toList ++ signs marks (render id ((component props).drop (n + 1)))) := by
      intro text
      rw [placed text, renderAppend, signsAppend]
      exact congrArg _ (signsAppend marks text.toList _)
    have before := shown old
    rw [kept] at before
    rw [shown value, before, List.append_cancel_left_eq, List.append_cancel_right_eq]
    simp only [only, forall_eq]

theorem emailPut (before after : Email) (identity : Json) (props : Props) {field : Field} (listed : field ∈ bare)
    (value : String) :
    signs marks (Email.react (before ++ ⟨identity, put field value props⟩ :: after)).toList =
        signs marks (Email.react (before ++ ⟨identity, props⟩ :: after)).toList ↔
      ∀ old, (field, old) ∈ props.fields → signs marks value.toList = signs marks old.toList := by
  have around : ∀ p : Props, signs marks (Email.react (before ++ ⟨identity, p⟩ :: after)).toList =
      signs marks (render id (opening ++ before.contents.flatMap component)) ++
        (signs marks (render id (component p)) ++
          signs marks (render id (after.contents.flatMap component ++ closing))) := by
    intro p
    have parts : slots (Email.contents (before ++ ⟨identity, p⟩ :: after)) =
        (opening ++ before.contents.flatMap component) ++
          (component p ++ (after.contents.flatMap component ++ closing)) := by
      simp [slots, Email.contents]
    rw [Email.react, String.toList_ofList, write, parts, renderAppend, renderAppend id (component p), signsAppend,
      signsAppend]
  rw [around, around, List.append_cancel_left_eq, List.append_cancel_right_eq, componentPut props listed value]

end React

theorem bareSigns (email other : Email) :
    (email.contents.map React.signature = other.contents.map React.signature →
      signs React.marks email.react.toList = signs React.marks other.react.toList) ∧
    ∀ (before after : Email) (identity : Json) (props : Props), ∀ field ∈ React.bare, ∀ value : String,
      email = before ++ ⟨identity, React.put field value props⟩ :: after →
      other = before ++ ⟨identity, props⟩ :: after →
      (signs React.marks email.react.toList = signs React.marks other.react.toList ↔
        ∀ old, (field, old) ∈ props.fields → signs React.marks value.toList = signs React.marks old.toList) := by
  have shown : ∀ email : Email, email.react.toList = render id (React.slots email.contents) :=
    fun _ => String.toList_ofList
  refine ⟨fun same => ?_, ?_⟩
  · rw [shown, shown, React.slotsSigns same]
  · rintro before after identity props field listed value rfl rfl
    exact React.emailPut before after identity props listed value

theorem bareBracket :
    ¬ ∀ email other : Email, email.contents.map React.frame = other.contents.map React.frame →
      signs React.marks email.react.toList = signs React.marks other.react.toList := by
  intro closed
  have same := closed [⟨.str "t", React.put .text "<" (.text {})⟩] [⟨.str "t", .text {}⟩] rfl
  have kept := (React.emailPut [] [] (.str "t") (.text {}) (by decide) "<").mp same
  exact absurd (kept "Your text content here..." List.mem_cons_self) (by decide +kernel)

theorem bareSignsBraces :
    (∃ email other : Email, email.contents.map React.signature = other.contents.map React.signature ∧
      email.contents ≠ other.contents ∧
      signs React.marks email.react.toList = signs React.marks other.react.toList) ∧
    Field.href ∈ React.bare ∧
    signs React.marks (Email.react [⟨.str "b", React.put .href "\x7bx\x7d" (.button {})⟩]).toList ≠
      signs React.marks (Email.react [⟨.str "b", .button {}⟩]).toList := by
  refine ⟨⟨[⟨.str "a", .text { text := "a < b" }⟩, ⟨.str "b", .image { width := "\"" }⟩],
    [⟨.str "c", .text { text := "<" }⟩, ⟨.null, .image { width := "1\"0" }⟩],
    by decide +kernel, by decide, (bareSigns _ _).1 (by decide +kernel)⟩, by decide, fun same => ?_⟩
  have kept := ((bareSigns _ _).2 [] [] (.str "b") (.button {}) .href (by decide) "\x7bx\x7d" rfl rfl).mp same
  exact absurd (kept "https://example.com" (.tail _ List.mem_cons_self)) (by decide +kernel)

end EmailMarkup.Export
