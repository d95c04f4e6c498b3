import EmailMarkup.Markup.Sweep
import EmailMarkup.Text.Word

/-! Tag heads. A head runs from its name to the first greater-than sign outside closed values. A quote or brace
opens a closed value only if its closer stands somewhere behind it; otherwise it is a plain character. So each
head can be read in one way only, from left to right and without going back. -/
namespace EmailMarkup.Markup
open Text (word isWord)

def closer? : Char → Option Char
  | '"' => some '"'
  | '\'' => some '\''
  | '{' => some '}'
  | _ => none

def opens? (c : Char) (rest : List Char) : Option Char := (closer? c).filter (rest.contains ·)

/-- The attribute span of a head and the text behind its greater-than sign. The first argument is the closer of
the value that the text starts in. -/
def span : Option Char → List Char → Option (List Char × List Char)
  | _, [] => none
  | some close, c :: rest =>
      (span (if c = close then none else some close) rest).map fun (body, after) => (c :: body, after)
  | none, c :: rest =>
      if c = '>' then some ([], rest)
      else (span (opens? c rest) rest).map fun (body, after) => (c :: body, after)

structure Head where
  name : List Char
  span : List Char
  deriving DecidableEq, Repr

def head? : Reader Head
  | '<' :: rest =>
      if (word rest).1.isEmpty then none
      else (Markup.span none (word rest).2).map fun (body, after) => (⟨(word rest).1, body⟩, after)
  | _ => none

/-- A head that ends in a slash closes itself. The slash before the greater-than sign is always a plain character,
since a closed value ends in its closer. -/
def selfClosing? : Reader Head := fun s => do
  let (head, after) ← head? s
  if head.span.getLast? = some '/' then some ({ head with span := head.span.dropLast }, after) else none

def closingTag (name : List Char) : List Char := '<' :: '/' :: (name ++ ['>'])

def until? (mark : List Char) : List Char → Option (List Char × List Char)
  | [] => if mark.isEmpty then some ([], []) else none
  | c :: rest =>
      if mark.isPrefixOf (c :: rest) then some ([], (c :: rest).drop mark.length)
      else (until? mark rest).map fun (body, after) => (c :: body, after)

def paired? : Reader (Head × List Char) := fun s => do
  let (head, rest) ← head? s
  let (content, after) ← until? (closingTag head.name) rest
  some ((head, content), after)

def closing? : Reader (List Char)
  | '<' :: '/' :: rest =>
      match (word rest).2 with
      | '>' :: after => if (word rest).1.isEmpty then none else some ((word rest).1, after)
      | _ => none
  | _ => none

def selfClosing (s : List Char) : Swept Head := sweep selfClosing? s

def paired (s : List Char) : List (Head × List Char) := (sweep paired? s).items

theorem spanShortens {inside : Option Char} {s body after : List Char}
    (found : span inside s = some (body, after)) : after.length < s.length := by
  induction s generalizing inside body with
  | nil => simp [span] at found
  | cons c rest ih =>
      cases inside with
      | some close =>
          obtain ⟨⟨tail, _⟩, ht, same⟩ := Option.map_eq_some_iff.mp found
          cases same
          exact Nat.lt_succ_of_lt (ih ht)
      | none =>
          unfold span at found
          split at found
          · cases found; simp
          · obtain ⟨⟨tail, _⟩, ht, same⟩ := Option.map_eq_some_iff.mp found
            cases same
            exact Nat.lt_succ_of_lt (ih ht)

theorem headShortens : Shortens head? := by
  intro s head after found
  unfold head? at found
  split at found
  · rename_i rest
    split at found
    · contradiction
    · obtain ⟨⟨body, _⟩, hs, same⟩ := Option.map_eq_some_iff.mp found
      cases same
      have := spanShortens hs
      have whole := congrArg List.length (Text.wordAppend rest)
      simp only [List.length_append, List.length_cons] at *
      omega
  · contradiction

theorem untilAppend {mark s body after : List Char} (found : until? mark s = some (body, after)) :
    body ++ mark ++ after = s := by
  induction s generalizing body with
  | nil =>
      unfold until? at found
      split at found
      · cases found; simp_all
      · contradiction
  | cons c rest ih =>
      unfold until? at found
      split at found
      · rename_i starts
        cases found
        obtain ⟨tail, eq⟩ := List.isPrefixOf_iff_prefix.mp starts
        rw [← eq]; simp
      · obtain ⟨⟨tail, _⟩, ht, same⟩ := Option.map_eq_some_iff.mp found
        cases same
        simp [ih ht]

theorem selfClosingShortens : Shortens selfClosing? := by
  intro s head after found
  simp only [selfClosing?, bind, Option.bind_eq_some_iff] at found
  obtain ⟨⟨whole, _⟩, hh, found⟩ := found
  split at found <;> try contradiction
  cases found
  exact headShortens _ _ _ hh

theorem pairedShortens : Shortens paired? := by
  intro s item after found
  simp only [paired?, bind, Option.bind_eq_some_iff] at found
  obtain ⟨⟨head, rest⟩, hh, ⟨content, tail⟩, hu, same⟩ := found
  obtain ⟨_, rfl⟩ : _ ∧ tail = after := by simpa using same
  have := headShortens _ _ _ hh
  have whole := congrArg List.length (untilAppend hu)
  simp only [List.length_append] at whole
  omega

end EmailMarkup.Markup
