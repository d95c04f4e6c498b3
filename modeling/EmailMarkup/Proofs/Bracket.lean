import EmailMarkup.Proofs.Reader

/-! How deep the lists and objects of a JSON text are nested, counted in its brackets without reading it. Whoever reads
a value off the front of a text comes back to as many open brackets as there were before. -/
namespace EmailMarkup.Json
open Text (Halves)

inductive Place where
  | outside
  | quoted
  | escaped
  deriving DecidableEq, Repr

namespace Place

def next : Place → Char → Place
  | .outside, c => if c = '"' then .quoted else .outside
  | .quoted, c => if c = '"' then .outside else if c = '\\' then .escaped else .quoted
  | .escaped, _ => .quoted

def opened (place : Place) (before : Nat) (c : Char) : Nat :=
  if place ≠ .outside then before
  else if c = '[' ∨ c = '\x7b' then before + 1
  else if c = ']' ∨ c = '\x7d' then before - 1
  else before

end Place

def most : Place → Nat → List Char → Nat
  | _, n, [] => n
  | place, n, c :: rest => max n (most (place.next c) (place.opened n c) rest)

def nesting (text : List Char) : Nat := most .outside 0 text

theorem mostLeast (place : Place) (n : Nat) (s : List Char) : n ≤ most place n s := by
  cases s with
  | nil => exact Nat.le_refl n
  | cons c rest => exact Nat.le_max_left n _

theorem mostSame {place : Place} {n : Nat} {c : Char} (same : place.opened n c = n) (rest : List Char) :
    most place n (c :: rest) = most (place.next c) n rest := by
  rw [most, same, Nat.max_eq_right (mostLeast _ n rest)]

theorem mostQuoted (n : Nat) {c : Char} (quote : c ≠ '"') (backslash : c ≠ '\\') (rest : List Char) :
    most .quoted n (c :: rest) = most .quoted n rest := by
  rw [mostSame (by simp [Place.opened]), Place.next, if_neg quote, if_neg backslash]

theorem mostEscape (n : Nat) (c : Char) (rest : List Char) :
    most .quoted n ('\\' :: c :: rest) = most .quoted n rest := by
  rw [mostSame (by simp [Place.opened]), mostSame (by simp [Place.next, Place.opened])]
  rfl

theorem mostHex (n : Nat) {a b c d : Char} {code : Nat} (hex : unit? a b c d = some code) (rest : List Char) :
    most .quoted n (a :: b :: c :: d :: rest) = most .quoted n rest := by
  have plain {e : Char} {digit : Nat} (known : hexValue? e = some digit) : e ≠ '"' ∧ e ≠ '\\' := by
    constructor <;> rintro rfl <;> contradiction
  simp only [unit?, bind, Option.bind_eq_some_iff] at hex
  obtain ⟨_, first, _, second, _, third, _, fourth, _⟩ := hex
  rw [mostQuoted n (plain first).1 (plain first).2, mostQuoted n (plain second).1 (plain second).2,
    mostQuoted n (plain third).1 (plain third).2, mostQuoted n (plain fourth).1 (plain fourth).2]

section Crossing

/-- A text leads over to the rest of it, with so many brackets open at either end and no more than the limit between. -/
def Crosses (limit n : Nat) (s : List Char) (m : Nat) (rest : List Char) : Prop :=
  ∃ peak ≤ limit, most .outside n s = max peak (most .outside m rest)

variable {limit n m : Nat} {s rest : List Char}

theorem Crosses.trans {k : Nat} {inner : List Char} (first : Crosses limit n s k inner)
    (second : Crosses limit k inner m rest) : Crosses limit n s m rest := by
  obtain ⟨one, low, here⟩ := first
  obtain ⟨two, lower, there⟩ := second
  exact ⟨max one two, Nat.max_le.mpr ⟨low, lower⟩, by rw [here, there, Nat.max_assoc]⟩

theorem Crosses.later (crosses : Crosses limit n s m rest) {k : Nat} (more : k < most .outside m rest) :
    k < most .outside n s := by
  obtain ⟨peak, _, here⟩ := crosses
  rw [here]
  exact Nat.lt_of_lt_of_le more (Nat.le_max_right peak _)

theorem Crosses.most (crosses : Crosses limit n s m rest) (low : most .outside m rest ≤ limit) :
    most .outside n s ≤ limit := by
  obtain ⟨peak, lower, here⟩ := crosses
  exact here ▸ Nat.max_le.mpr ⟨lower, low⟩

theorem crossesChar (low : n ≤ limit) {c : Char} (next : Place.next .outside c = .outside)
    (opened : Place.opened .outside n c = m) (rest : List Char) : Crosses limit n (c :: rest) m rest :=
  ⟨n, low, by rw [Json.most, next, opened]⟩

theorem crossesPlainly (low : n ≤ limit) (plainly : Plainly rest s) : Crosses limit n s n rest := by
  obtain ⟨taken, rfl, plain⟩ := plainly
  induction taken with
  | nil => exact ⟨n, low, (Nat.max_eq_right (mostLeast _ n rest)).symm⟩
  | cons c taken ih =>
      rw [List.forall_mem_cons] at plain
      have signs : c ≠ '"' ∧ c ≠ '[' ∧ c ≠ ']' ∧ c ≠ '\x7b' ∧ c ≠ '\x7d' := by
        simpa [isPlain] using plain.1
      obtain ⟨quote, list, shut, object, close⟩ := signs
      have next : Place.next .outside c = .outside := by simp [Place.next, quote]
      have kept : Place.opened .outside n c = n := by simp [Place.opened, list, shut, object, close]
      exact (crossesChar low next kept (taken ++ rest)).trans (ih plain.2)

theorem mostString {halves : Halves} {body : List Char} (read : stringBody halves s = some (body, rest)) :
    most .quoted n s = most .outside n rest := by
  fun_induction stringBody halves s generalizing body with
  | case1 => contradiction
  | case2 after =>
      cases read
      exact mostSame (by simp [Place.opened]) _
  | case3 a b c d e f g h after inner other =>
      obtain ⟨high, hex, read⟩ := Option.bind_eq_some_iff.mp read
      rw [mostEscape, mostHex n hex]
      split at read
      · rename_i one pair
        obtain ⟨low, lower, _⟩ := Option.bind_eq_some_iff.mp pair
        obtain ⟨tail, found⟩ := pushLeft read
        rw [mostEscape, mostHex n lower, inner found]
      · obtain ⟨tail, found⟩ := pushLeft read
        exact other found
  | case4 a b c d after _ inner =>
      obtain ⟨code, hex, read⟩ := Option.bind_eq_some_iff.mp read
      obtain ⟨tail, found⟩ := pushLeft read
      rw [mostEscape, mostHex n hex, inner found]
  | case5 c after _ _ inner =>
      obtain ⟨one, _, read⟩ := Option.bind_eq_some_iff.mp read
      obtain ⟨tail, found⟩ := pushLeft read
      rw [mostEscape, inner found]
  | case6 => contradiction
  | case7 c after quote _ _ _ plain inner =>
      obtain ⟨tail, found⟩ := pushLeft read
      rw [mostQuoted n quote (fun same => plain (.inr same)), inner found]

theorem crossesString {halves : Halves} {body : List Char} (low : n ≤ limit)
    (read : stringBody halves s = some (body, rest)) : Crosses limit n ('"' :: s) n rest := by
  refine ⟨n, low, ?_⟩
  rw [mostSame (by simp [Place.opened])]
  exact (mostString read).trans (Nat.max_eq_right (mostLeast _ n rest)).symm

theorem crossesSpace (low : n ≤ limit) {c : Char} {more : List Char} (next : skipSpace s = c :: more) :
    Crosses limit n s n (c :: more) := next ▸ crossesPlainly low (.space s)

end Crossing

theorem readersCross (halves : Halves) (fuel : Nat) : ∀ levels n,
    (∀ s found rest, value halves levels fuel s = .ok (found, rest) → Crosses (n + levels) n s n rest) ∧
    (∀ seen s found rest, items halves levels fuel seen s = .ok (found, rest) →
      Crosses (n + 1 + levels) (n + 1) s n rest) ∧
    ∀ seen s found rest, members halves levels fuel seen s = .ok (found, rest) →
      Crosses (n + 1 + levels) (n + 1) s n rest := by
  -- A value has as many open brackets behind it as before it, and the readers of items and members start behind a
  -- bracket that they close.
  induction fuel with
  | zero =>
      intro levels n
      simp [value, items, members]
  | succ fuel ih =>
      intro levels n
      have item := (ih levels (n + 1)).1
      have further := (ih levels n).2
      have low : n + 1 ≤ n + 1 + levels := Nat.le_add_right _ _
      have opens (inner : Nat) : n ≤ n + (inner + 1) ∧ n + 1 ≤ n + (inner + 1) := by omega
      have deeper (inner : Nat) : n + 1 + inner = n + (inner + 1) := by omega
      refine ⟨fun s found rest read => ?_, fun seen s found rest read => ?_, fun seen s found rest read => ?_⟩
      · rcases valueRead read with ⟨tail, inner, rfl, rfl, more⟩ | ⟨tail, inner, rfl, rfl, more⟩ | single
        · have start := crossesChar (opens inner).1 (by decide) (m := n + 1) (c := '[') rfl tail
          rcases more with ⟨closed, _⟩ | more
          · have ends := crossesChar (opens inner).2 (by decide) (m := n) (c := ']') rfl rest
            exact start.trans ((crossesSpace (opens inner).2 closed).trans ends)
          · have ends := (ih inner n).2.1 _ _ _ _ more
            rw [deeper] at ends
            exact start.trans ((crossesPlainly (opens inner).2 (.space tail)).trans ends)
        · have start := crossesChar (opens inner).1 (by decide) (m := n + 1) (c := '\x7b') rfl tail
          rcases more with ⟨closed, _⟩ | more
          · have ends := crossesChar (opens inner).2 (by decide) (m := n) (c := '\x7d') rfl rest
            exact start.trans ((crossesSpace (opens inner).2 closed).trans ends)
          · have ends := (ih inner n).2.2 _ _ _ _ more
            rw [deeper] at ends
            exact start.trans ((crossesPlainly (opens inner).2 (.space tail)).trans ends)
        · rcases scalarRead halves single with ⟨tail, body, rfl, inner⟩ | ⟨_, plainly⟩
          · exact crossesString (Nat.le_add_right n levels) inner
          · exact crossesPlainly (Nat.le_add_right n levels) plainly
      · obtain ⟨one, after, head, last⟩ := itemsRead read
        have here := item _ _ _ head
        rcases last with ⟨more, next, read⟩ | ⟨closed, _⟩
        · have comma := crossesChar low (by decide) (m := n + 1) (c := ',') rfl more
          exact here.trans ((crossesSpace low next).trans (comma.trans ((crossesPlainly low (.space more)).trans
            (further.1 _ _ _ _ read))))
        · exact here.trans ((crossesSpace low closed).trans (crossesChar low (by decide) (m := n) (c := ']') rfl rest))
      · obtain ⟨tail, name, after, body, one, behind, rfl, named, colon, head, last⟩ := membersRead read
        have sign := crossesChar low (by decide) (m := n + 1) (c := ':') rfl body
        have here := (crossesString low named).trans ((crossesSpace low colon).trans (sign.trans
          ((crossesPlainly low (.space body)).trans (item _ _ _ head))))
        rcases last with ⟨more, next, read⟩ | ⟨closed, _⟩
        · have comma := crossesChar low (by decide) (m := n + 1) (c := ',') rfl more
          exact here.trans ((crossesSpace low next).trans (comma.trans ((crossesPlainly low (.space more)).trans
            (further.2 _ _ _ _ read))))
        · exact here.trans ((crossesSpace low closed).trans (crossesChar low (by decide) (m := n) (c := '\x7d') rfl rest))

theorem readNesting {halves : Halves} {levels : Nat} {text : List Char} {found : Json}
    (read : readWithin halves levels text = .ok found) : nesting text ≤ levels := by
  obtain ⟨⟨other, rest⟩, inner, last⟩ := bindOk read
  dsimp only at last
  split at last
  · rename_i done
    have value := (readersCross halves _ levels 0).1 _ _ _ inner
    have blank := crossesPlainly (Nat.zero_le (0 + levels)) (.space rest)
    rw [List.isEmpty_iff.mp done] at blank
    have all := (crossesPlainly (Nat.zero_le (0 + levels)) (.space text)).trans (value.trans blank)
    rw [Nat.zero_add] at all
    exact all.most (Nat.zero_le levels)
  · contradiction

end EmailMarkup.Json
