import EmailMarkup.Http.Body

/-! Reading JSON goes forward. Every reader takes something off the front of its text, so the steps that the readers
are given never run out, and what is left is the end of the text. -/
namespace EmailMarkup

theorem bindOk {ε α β : Type} {first : Except ε α} {next : α → Except ε β} {b : β}
    (ok : first >>= next = .ok b) : ∃ a, first = .ok a ∧ next a = .ok b := by
  cases first with
  | error error => contradiction
  | ok a => exact ⟨a, rfl, ok⟩

theorem bindSame {ε α β : Type} {first : Except ε α} {next other : α → Except ε β}
    (same : ∀ a, first = .ok a → next a = other a) : first >>= next = first >>= other := by
  cases first with
  | error error => rfl
  | ok a => exact same a rfl

namespace Json
open Text (Halves)

structure Left (rest s : List Char) : Prop where
  suffix : rest <:+ s
  shorter : rest.length < s.length

theorem Left.cons (c : Char) (rest : List Char) : Left rest (c :: rest) :=
  ⟨List.suffix_cons c rest, Nat.lt_succ_self _⟩

theorem Left.within {rest inner s : List Char} (left : Left rest inner) (suffix : inner <:+ s) : Left rest s :=
  ⟨left.suffix.trans suffix, Nat.lt_of_lt_of_le left.shorter suffix.length_le⟩

theorem Left.further {rest inner s : List Char} (left : Left inner s) (suffix : rest <:+ inner) : Left rest s :=
  ⟨suffix.trans left.suffix, Nat.lt_of_le_of_lt suffix.length_le left.shorter⟩

def isPlain (c : Char) : Bool := !(['"', '[', ']', '\x7b', '\x7d'].contains c)

def Plainly (rest s : List Char) : Prop := ∃ taken, s = taken ++ rest ∧ ∀ c ∈ taken, isPlain c = true

theorem digitPlain {c : Char} (digit : c.isDigit = true) : isPlain c = true := by
  rw [isPlain, Bool.not_eq_true', ← Bool.not_eq_true, List.contains_iff_mem]
  simp only [List.mem_cons, List.not_mem_nil, or_false]
  rintro (rfl | rfl | rfl | rfl | rfl) <;> contradiction

theorem spacePlain {c : Char} (space : isSpace c = true) : isPlain c = true := by
  simp only [isSpace, Bool.or_eq_true, beq_iff_eq] at space
  rcases space with ((rfl | rfl) | rfl) | rfl <;> decide

namespace Plainly

theorem refl (s : List Char) : Plainly s s := ⟨[], rfl, by simp⟩

theorem cons {c : Char} (plain : isPlain c = true) (rest : List Char) : Plainly rest (c :: rest) :=
  ⟨[c], rfl, by simpa using plain⟩

theorem trans {s inner rest : List Char} (first : Plainly inner s) (second : Plainly rest inner) : Plainly rest s := by
  obtain ⟨one, rfl, plain⟩ := first
  obtain ⟨two, rfl, more⟩ := second
  refine ⟨one ++ two, (List.append_assoc one two rest).symm, fun c inside => ?_⟩
  exact (List.mem_append.mp inside).elim (plain c) (more c)

theorem suffix {s rest : List Char} (plainly : Plainly rest s) : rest <:+ s := by
  obtain ⟨taken, rfl, _⟩ := plainly
  exact List.suffix_append taken rest

theorem skipping {test : Char → Bool} (plain : ∀ {c}, test c = true → isPlain c = true) (s : List Char) :
    Plainly (s.dropWhile test) s :=
  ⟨s.takeWhile test, List.takeWhile_append_dropWhile.symm, fun c inside =>
    plain (List.all_eq_true.mp List.all_takeWhile c inside)⟩

theorem digits (s : List Char) : Plainly (s.dropWhile Char.isDigit) s := skipping digitPlain s

theorem space (s : List Char) : Plainly (skipSpace s) s := skipping spacePlain s

end Plainly

theorem skipSuffix (s : List Char) : skipSpace s <:+ s := (Plainly.space s).suffix

theorem dropLeft {n : Nat} {s : List Char} (some : n ≠ 0) (inside : n ≤ s.length) : Left (s.drop n) s :=
  ⟨List.drop_suffix n s, by rw [List.length_drop]; omega⟩

section Readers

variable (halves : Halves)

theorem pushLeft {x : Option (List Char × List Char)} {c : Char} {body rest : List Char}
    (pushed : (x.map fun (body, after) => (c :: body, after)) = some (body, rest)) : ∃ tail, x = some (tail, rest) := by
  obtain ⟨⟨tail, after⟩, found, same⟩ := Option.map_eq_some_iff.mp pushed
  cases same
  exact ⟨tail, found⟩

theorem stringBodyLeft {s body rest : List Char} (read : stringBody halves s = some (body, rest)) : Left rest s := by
  fun_induction stringBody halves s generalizing body with
  | case1 => contradiction
  | case2 after =>
      cases read
      exact .cons _ _
  | case3 a b c d e f g h after inner other =>
      obtain ⟨high, _, read⟩ := Option.bind_eq_some_iff.mp read
      split at read
      · obtain ⟨tail, found⟩ := pushLeft read
        exact (inner found).within ⟨['\\', 'u', a, b, c, d, '\\', 'u', e, f, g, h], rfl⟩
      · obtain ⟨tail, found⟩ := pushLeft read
        exact (other found).within ⟨['\\', 'u', a, b, c, d], rfl⟩
  | case4 a b c d after _ inner =>
      obtain ⟨code, _, read⟩ := Option.bind_eq_some_iff.mp read
      obtain ⟨tail, found⟩ := pushLeft read
      exact (inner found).within ⟨['\\', 'u', a, b, c, d], rfl⟩
  | case5 c after _ _ inner =>
      obtain ⟨one, _, read⟩ := Option.bind_eq_some_iff.mp read
      obtain ⟨tail, found⟩ := pushLeft read
      exact (inner found).within ⟨['\\', c], rfl⟩
  | case6 => contradiction
  | case7 c after _ _ _ _ _ inner =>
      obtain ⟨tail, found⟩ := pushLeft read
      exact (inner found).within (List.suffix_cons c after)

theorem fractionPlainly {s digits rest : List Char} (read : fractionPart s = some (digits, rest)) : Plainly rest s := by
  unfold fractionPart at read
  split at read
  · dsimp only at read
    split at read
    · contradiction
    · cases read
      exact (Plainly.cons (by decide) _).trans (.digits _)
  · contradiction

theorem signPlainly (s : List Char) : Plainly (Number.Numeral.sign s).2 s := by
  unfold Number.Numeral.sign
  split
  · exact .cons (by decide) _
  · exact .cons (by decide) _
  · exact .refl s

theorem exponentPlainly {s rest : List Char} {power : Int} (read : exponentPart s = some (power, rest)) :
    Plainly rest s := by
  unfold exponentPart at read
  split at read
  · rename_i c tail
    split at read
    · rename_i letter
      dsimp only at read
      split at read
      · contradiction
      · cases read
        have plain : isPlain c = true := by rcases letter with rfl | rfl <;> decide
        exact (Plainly.cons plain tail).trans ((signPlainly tail).trans (.digits _))
    · contradiction
  · contradiction

theorem mappedPlainly {α : Type} {x : Option (α × List Char)} {s : List Char}
    (some : ∀ found, x = some found → Plainly found.2 s) : Plainly ((x.map (·.2)).getD s) s := by
  cases x with
  | none => exact .refl s
  | some found => exact some found rfl

theorem wholeDigits {s whole : List Char} (taken : (if (s.takeWhile Char.isDigit).head? = some '0' then ['0']
    else s.takeWhile Char.isDigit) = whole) : whole <+: s ∧ ∀ c ∈ whole, c.isDigit = true := by
  subst taken
  split
  · rename_i zero
    cases s with
    | nil => simp at zero
    | cons c rest =>
        rw [List.takeWhile_cons] at zero
        split at zero
        · rw [Option.some.inj zero]
          exact ⟨List.cons_prefix_cons.mpr ⟨rfl, List.nil_prefix⟩, by simp⟩
        · contradiction
  · exact ⟨List.takeWhile_prefix _, List.all_eq_true.mp List.all_takeWhile⟩

theorem unsignedLeft {negative : Bool} {s rest : List Char} {found : Json}
    (read : unsigned negative s = some (found, rest)) : Left rest s ∧ Plainly rest s := by
  unfold unsigned at read
  dsimp only at read
  generalize taken : (if (s.takeWhile Char.isDigit).head? = some '0' then ['0'] else s.takeWhile Char.isDigit) = whole
    at read
  obtain ⟨front, digits⟩ := wholeDigits taken
  split at read
  · contradiction
  rename_i filled
  have shorter : Left (s.drop whole.length) s := dropLeft (by simpa using filled) front.length_le
  have plain : Plainly (s.drop whole.length) s := by
    obtain ⟨tail, rfl⟩ := front
    exact ⟨whole, by rw [List.drop_left], fun c inside => digitPlain (digits c inside)⟩
  have fraction := mappedPlainly fun found read => @fractionPlainly (s.drop whole.length) found.1 found.2 read
  have power := mappedPlainly fun found read =>
    @exponentPlainly (((fractionPart (s.drop whole.length)).map (·.2)).getD (s.drop whole.length)) found.2 found.1 read
  have behind := fraction.trans power
  have left := And.intro (shorter.further behind.suffix) (plain.trans behind)
  split at read
  · split at read
    · contradiction
    · cases read
      exact left
  · cases read
    exact left

theorem scalarRead {s rest : List Char} {found : Json} (read : scalar halves s = some (found, rest)) :
    (∃ tail body, s = '"' :: tail ∧ stringBody halves tail = some (body, rest)) ∨ Left rest s ∧ Plainly rest s := by
  unfold scalar at read
  split at read
  · rename_i pair known
    cases read
    obtain ⟨⟨word, value⟩, listed, some⟩ := List.exists_of_findSome?_eq_some known
    obtain ⟨after, behind, same⟩ := Option.map_eq_some_iff.mp some
    cases same
    have words : ∀ pair ∈ keywords, pair.1.toList ≠ [] ∧ pair.1.toList.all isPlain = true := by decide
    obtain ⟨filled, plain⟩ : word.toList ≠ [] ∧ word.toList.all isPlain = true := words _ listed
    unfold after? at behind
    split at behind
    · rename_i begins
      cases behind
      obtain ⟨tail, rfl⟩ := List.isPrefixOf_iff_prefix.mp begins
      have some : word.toList.length ≠ 0 := fun none => filled (List.length_eq_zero_iff.mp none)
      exact .inr ⟨dropLeft some (by simp), word.toList, by rw [List.drop_left], List.all_eq_true.mp plain⟩
    · contradiction
  · split at read
    · obtain ⟨⟨body, after⟩, inner, same⟩ := Option.map_eq_some_iff.mp read
      cases same
      exact .inl ⟨_, body, rfl, inner⟩
    · obtain ⟨left, plainly⟩ := unsignedLeft read
      exact .inr ⟨left.within (List.suffix_cons _ _), (Plainly.cons (by decide) _).trans plainly⟩
    · exact .inr (unsignedLeft read)

theorem scalarLeft {s rest : List Char} {found : Json} (read : scalar halves s = some (found, rest)) : Left rest s := by
  rcases scalarRead halves read with ⟨tail, body, rfl, inner⟩ | ⟨left, _⟩
  · exact (stringBodyLeft halves inner).within (List.suffix_cons _ _)
  · exact left

theorem opensCases (s : List Char) : (∃ rest, s = '[' :: rest) ∨ (∃ rest, s = '\x7b' :: rest) ∨
    (∀ rest, s ≠ '[' :: rest) ∧ ∀ rest, s ≠ '\x7b' :: rest := by
  by_cases list : ∃ rest, s = '[' :: rest
  · exact .inl list
  by_cases object : ∃ rest, s = '\x7b' :: rest
  · exact .inr (.inl object)
  · exact .inr (.inr ⟨not_exists.mp list, not_exists.mp object⟩)

theorem valueScalar {levels fuel : Nat} {s : List Char} (list : ∀ rest, s ≠ '[' :: rest)
    (object : ∀ rest, s ≠ '\x7b' :: rest) : value halves levels (fuel + 1) s = orMalformed (scalar halves s) := by
  rw [value] <;> assumption

theorem valueList (levels fuel : Nat) (rest : List Char) :
    value halves (levels + 1) (fuel + 1) ('[' :: rest) =
      match skipSpace rest with
      | ']' :: after => .ok (.list [], after)
      | inner => items halves levels fuel [] inner := by
  split
  · rw [value]
    assumption
  · simp [value, *]

theorem valueObject (levels fuel : Nat) (rest : List Char) :
    value halves (levels + 1) (fuel + 1) ('\x7b' :: rest) =
      match skipSpace rest with
      | '\x7d' :: after => .ok (.object [], after)
      | inner => members halves levels fuel [] inner := by
  split
  · rw [value]
    assumption
  · simp [value, *]

theorem membersUnquoted {levels fuel : Nat} {seen : List (String × Json)} {s : List Char}
    (unquoted : ∀ rest, s ≠ '"' :: rest) : members halves levels (fuel + 1) seen s = .error .malformed := by
  rw [members]
  exact unquoted

theorem malformedOk {α : Type} {x : Option α} {found : α} (ok : orMalformed x = .ok found) : x = some found := by
  cases x with
  | none => contradiction
  | some other => rw [Except.ok.inj ok]

theorem nextSuffix {s more : List Char} {c : Char} (next : skipSpace s = c :: more) : more <:+ s :=
  (List.suffix_cons c more).trans (next ▸ skipSuffix s)

section Success

variable {halves} {levels fuel : Nat} {s rest : List Char} {found : Json}

theorem valueRead (read : value halves levels (fuel + 1) s = .ok (found, rest)) :
    (∃ tail inner, s = '[' :: tail ∧ levels = inner + 1 ∧ (skipSpace tail = ']' :: rest ∧ found = .list [] ∨
      items halves inner fuel [] (skipSpace tail) = .ok (found, rest))) ∨
    (∃ tail inner, s = '\x7b' :: tail ∧ levels = inner + 1 ∧ (skipSpace tail = '\x7d' :: rest ∧ found = .object [] ∨
      members halves inner fuel [] (skipSpace tail) = .ok (found, rest))) ∨
    scalar halves s = some (found, rest) := by
  rcases opensCases s with ⟨tail, rfl⟩ | ⟨tail, rfl⟩ | ⟨list, object⟩
  · cases levels with
    | zero => rw [value] at read; contradiction
    | succ inner =>
        refine .inl ⟨tail, inner, rfl, rfl, ?_⟩
        rw [valueList] at read
        split at read
        · rename_i after closed
          cases read
          exact .inl ⟨closed, rfl⟩
        · exact .inr read
  · cases levels with
    | zero => rw [value] at read; contradiction
    | succ inner =>
        refine .inr (.inl ⟨tail, inner, rfl, rfl, ?_⟩)
        rw [valueObject] at read
        split at read
        · rename_i after closed
          cases read
          exact .inl ⟨closed, rfl⟩
        · exact .inr read
  · rw [valueScalar halves list object] at read
    exact .inr (.inr (malformedOk read))

theorem itemsRead {seen : List Json} (read : items halves levels (fuel + 1) seen s = .ok (found, rest)) :
    ∃ item after, value halves levels fuel s = .ok (item, after) ∧
      ((∃ more, skipSpace after = ',' :: more ∧
        items halves levels fuel (item :: seen) (skipSpace more) = .ok (found, rest)) ∨
      skipSpace after = ']' :: rest ∧ found = .list (item :: seen).reverse) := by
  rw [items] at read
  obtain ⟨⟨item, after⟩, head, read⟩ := bindOk read
  refine ⟨item, after, head, ?_⟩
  dsimp only at read
  split at read
  · rename_i more next
    exact .inl ⟨more, next, read⟩
  · rename_i closed
    cases read
    exact .inr ⟨closed, rfl⟩
  · contradiction

theorem membersRead {seen : List (String × Json)} (read : members halves levels (fuel + 1) seen s = .ok (found, rest)) :
    ∃ tail name after body item behind, s = '"' :: tail ∧ stringBody halves tail = some (name, after) ∧
      skipSpace after = ':' :: body ∧ value halves levels fuel (skipSpace body) = .ok (item, behind) ∧
      ((∃ more, skipSpace behind = ',' :: more ∧
        members halves levels fuel (insert seen (String.ofList name) item) (skipSpace more) = .ok (found, rest)) ∨
      skipSpace behind = '\x7d' :: rest ∧ found = .object (insert seen (String.ofList name) item)) := by
  by_cases quoted : ∃ tail, s = '"' :: tail
  · obtain ⟨tail, rfl⟩ := quoted
    rw [members] at read
    obtain ⟨⟨name, after⟩, named, read⟩ := bindOk read
    dsimp only at read
    split at read
    · rename_i body colon
      obtain ⟨⟨item, behind⟩, head, read⟩ := bindOk read
      refine ⟨tail, name, after, body, item, behind, rfl, malformedOk named, colon, head, ?_⟩
      dsimp only at read
      split at read
      · rename_i more next
        exact .inl ⟨more, next, read⟩
      · rename_i closed
        cases read
        exact .inr ⟨closed, rfl⟩
      · contradiction
    · contradiction
  · rw [membersUnquoted halves (not_exists.mp quoted)] at read
    contradiction

end Success

theorem readersLeft (fuel : Nat) : ∀ levels,
    (∀ s found rest, value halves levels fuel s = .ok (found, rest) → Left rest s) ∧
    (∀ seen s found rest, items halves levels fuel seen s = .ok (found, rest) → Left rest s) ∧
    ∀ seen s found rest, members halves levels fuel seen s = .ok (found, rest) → Left rest s := by
  -- Every reader takes something off.
  induction fuel with
  | zero =>
      intro levels
      simp [value, items, members]
  | succ fuel ih =>
      intro levels
      have inner := ih levels
      refine ⟨fun s found rest read => ?_, fun seen s found rest read => ?_, fun seen s found rest read => ?_⟩
      · rcases valueRead read with ⟨tail, levels, rfl, rfl, ⟨closed, _⟩ | more⟩ |
          ⟨tail, levels, rfl, rfl, ⟨closed, _⟩ | more⟩ | single
        · exact (Left.cons '[' tail).further (nextSuffix closed)
        · exact ((ih levels).2.1 _ _ _ _ more).within ((skipSuffix tail).trans (List.suffix_cons _ _))
        · exact (Left.cons '\x7b' tail).further (nextSuffix closed)
        · exact ((ih levels).2.2 _ _ _ _ more).within ((skipSuffix tail).trans (List.suffix_cons _ _))
        · exact scalarLeft halves single
      · obtain ⟨item, after, head, last⟩ := itemsRead read
        have left := inner.1 _ _ _ head
        rcases last with ⟨more, next, read⟩ | ⟨closed, _⟩
        · exact (inner.2.1 _ _ _ _ read).within ((skipSuffix more).trans ((nextSuffix next).trans left.suffix))
        · exact left.further (nextSuffix closed)
      · obtain ⟨tail, name, after, body, item, behind, rfl, named, colon, head, last⟩ := membersRead read
        have left := (stringBodyLeft halves named).within (List.suffix_cons '"' tail)
        have far := (inner.1 _ _ _ head).within ((skipSuffix body).trans ((nextSuffix colon).trans left.suffix))
        rcases last with ⟨more, next, read⟩ | ⟨closed, _⟩
        · exact (inner.2.2 _ _ _ _ read).within ((skipSuffix more).trans ((nextSuffix next).trans far.suffix))
        · exact far.further (nextSuffix closed)

/- Two characters less leave room for the steps of what follows them. -/
theorem roomBehind {s after more : List Char} {c : Char} {fuel : Nat} (room : 2 * s.length < fuel + 2)
    (left : Left after s) (next : skipSpace after = c :: more) : 2 * (skipSpace more).length + 1 < fuel := by
  have inner := (skipSuffix more).length_le
  have outer := (skipSuffix after).length_le
  have shorter := left.shorter
  rw [next, List.length_cons] at outer
  omega

/- With twice as many steps as characters, and one, no reader runs out of them. -/
theorem readersSteps (fuel : Nat) : ∀ levels,
    (∀ s, 2 * s.length < fuel → value halves levels (fuel + 1) s = value halves levels fuel s) ∧
    (∀ seen s, 2 * s.length + 1 < fuel → items halves levels (fuel + 1) seen s = items halves levels fuel seen s) ∧
    ∀ seen s, 2 * s.length + 1 < fuel → members halves levels (fuel + 1) seen s = members halves levels fuel seen s := by
  induction fuel with
  | zero =>
      intro levels
      exact ⟨fun _ few => by omega, fun _ _ few => by omega, fun _ _ few => by omega⟩
  | succ fuel ih =>
      intro levels
      have inner := ih levels
      refine ⟨fun s few => ?_, fun seen s few => ?_, fun seen s few => ?_⟩
      · rcases opensCases s with ⟨tail, rfl⟩ | ⟨tail, rfl⟩ | ⟨list, object⟩
        · cases levels with
          | zero => rw [value, value]
          | succ levels =>
              have room : 2 * (skipSpace tail).length + 1 < fuel := by
                have := (skipSuffix tail).length_le
                rw [List.length_cons] at few
                omega
              rw [valueList, valueList]
              split
              · rfl
              · exact (ih levels).2.1 _ _ room
        · cases levels with
          | zero => rw [value, value]
          | succ levels =>
              have room : 2 * (skipSpace tail).length + 1 < fuel := by
                have := (skipSuffix tail).length_le
                rw [List.length_cons] at few
                omega
              rw [valueObject, valueObject]
              split
              · rfl
              · exact (ih levels).2.2 _ _ room
        · rw [valueScalar halves list object, valueScalar halves list object]
      · rw [items, items, inner.1 s (by omega)]
        refine bindSame fun (item, after) head => ?_
        have left := (readersLeft halves fuel levels).1 _ _ _ head
        dsimp only
        split
        · rename_i more next
          exact inner.2.1 _ _ (roomBehind (by omega) left next)
        · rfl
        · rfl
      · by_cases quoted : ∃ tail, s = '"' :: tail
        · obtain ⟨tail, rfl⟩ := quoted
          rw [members, members]
          refine bindSame fun (name, after) named => ?_
          have left := (stringBodyLeft halves (malformedOk named)).within (List.suffix_cons '"' tail)
          dsimp only
          split
          · rename_i body colon
            have room : 2 * (skipSpace body).length + 1 < fuel := roomBehind (by omega) left colon
            rw [inner.1 (skipSpace body) (by omega)]
            refine bindSame fun (item, behind) head => ?_
            have far := ((readersLeft halves fuel levels).1 _ _ _ head).within
              ((skipSuffix body).trans ((nextSuffix colon).trans left.suffix))
            dsimp only
            split
            · rename_i more next
              exact inner.2.2 _ _ (roomBehind (by omega) far next)
            · rfl
            · rfl
          · rfl
        · rw [membersUnquoted halves (not_exists.mp quoted), membersUnquoted halves (not_exists.mp quoted)]

theorem valueSteps (levels : Nat) (s : List Char) {fuel : Nat} (enough : 2 * s.length < fuel) :
    value halves levels fuel s = value halves levels (2 * s.length + 1) s := by
  induction enough with
  | refl => rfl
  | step enough ih => rw [(readersSteps halves _ levels).1 s enough, ih]

theorem readSteps (levels : Nat) (text : List Char) {fuel : Nat} (enough : 2 * (skipSpace text).length < fuel) :
    readWithin halves levels text = value halves levels fuel (skipSpace text) >>= fun (found, rest) =>
      if (skipSpace rest).isEmpty then .ok found else .error .malformed := by
  rw [valueSteps halves levels _ enough]
  rfl

end Readers

end Json
end EmailMarkup
