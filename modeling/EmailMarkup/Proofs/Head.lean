import EmailMarkup.Markup.Head
import EmailMarkup.Proofs.Text
import Mathlib.Data.List.Chain

/-! Where tags can start and where heads end. A text without a less-than sign right before a word character is passed
over by every sweep. A head ends at the first greater-than sign behind a text that a span passes over, whatever
follows it. -/
namespace EmailMarkup.Markup
open Text (word isWord wordSplit)

variable {α : Type}

def Apart (sign : Char) (kind : Char → Bool) (s : List Char) : Prop := s.IsChain fun a b => a = sign → kind b = false
instance (sign kind s) : Decidable (Apart sign kind s) := by unfold Apart; infer_instance

def TagFree (s : List Char) : Prop := Apart '<' isWord s
instance (s) : Decidable (TagFree s) := by unfold TagFree; infer_instance

theorem apartWithout {sign : Char} {kind : Char → Bool} {s : List Char} (h : sign ∉ s) : Apart sign kind s := by
  refine List.isChain_iff_forall_rel_of_append_cons_cons.mpr ?_
  rintro a b before after rfl rfl
  simp at h

theorem apartInfix {sign c : Char} {s : List Char} (absent : ¬ [sign, c] <:+: s) : Apart sign (· == c) s := by
  refine List.isChain_iff_forall_rel_of_append_cons_cons.mpr ?_
  rintro a b before after rfl rfl
  refine beq_false_of_ne ?_
  rintro rfl
  exact absent ⟨before, after, by simp⟩

theorem apartSuffix {sign : Char} {kind : Char → Bool} {s t : List Char} (apart : Apart sign kind s) (h : t <:+ s) :
    Apart sign kind t := by
  obtain ⟨before, rfl⟩ := h
  exact (List.isChain_append.mp apart).2.1

theorem apartPrefix {sign : Char} {kind : Char → Bool} {s t : List Char} (apart : Apart sign kind s) (h : t <+: s) :
    Apart sign kind t := by
  obtain ⟨after, rfl⟩ := h
  exact (List.isChain_append.mp apart).1

theorem apartJoin {sign : Char} {kind : Char → Bool} {s t : List Char} (hs : Apart sign kind s)
    (ht : Apart sign kind t) (border : s.getLast? ≠ some sign ∨ ∀ b ∈ t.head?, kind b = false) :
    Apart sign kind (s ++ t) := by
  refine List.isChain_append.mpr ⟨hs, ht, ?_⟩
  rintro a ha b hb rfl
  rcases border with other | stop
  · exact absurd ha other
  · exact stop b hb

theorem apartHead {sign : Char} {kind : Char → Bool} {s : List Char} (apart : Apart sign kind (sign :: s)) :
    ∀ b ∈ s.head?, kind b = false := by
  intro b hb
  obtain ⟨rest, rfl⟩ := List.head?_eq_some_iff.mp hb
  exact (List.isChain_cons_cons.mp apart).1 rfl

theorem notLastWithout {sign : Char} {s : List Char} (h : sign ∉ s) : s.getLast? ≠ some sign :=
  fun last => h (List.mem_of_getLast? last)

theorem sweepInert {read? : Reader α} {s rest : List Char}
    (inert : ∀ c t, (c :: t) <:+ s → read? (c :: (t ++ rest)) = none) :
    sweep read? (s ++ rest) = ⟨(sweep read? rest).items, s ++ (sweep read? rest).residue⟩ := by
  induction s with
  | nil => rfl
  | cons c s ih =>
      have tail := ih fun d t h => inert d t (h.trans (List.suffix_cons c s))
      rw [List.cons_append, sweepChar (inert c s (List.suffix_refl _)), tail]
      rfl

theorem headNone {c : Char} {s : List Char} (h : c = '<' → ∀ d ∈ s.head?, isWord d = false) :
    head? (c :: s) = none := by
  unfold head?
  split
  · rename_i rest same
    obtain ⟨rfl, rfl⟩ := List.cons.inj same
    have stop : word ([] ++ s) = ([], s) := wordSplit (by simp) (h rfl)
    rw [List.nil_append] at stop
    simp [stop]
  · rfl

theorem headTagFree {c : Char} {s : List Char} (free : TagFree (c :: s)) : head? (c :: s) = none := by
  refine headNone ?_
  rintro rfl
  exact apartHead free

theorem headQuiet {s rest : List Char} (free : TagFree s) (last : s.getLast? ≠ some '<') {c : Char} {t : List Char}
    (here : (c :: t) <:+ s) : head? (c :: (t ++ rest)) = none := by
  refine headNone ?_
  rintro rfl d hd
  cases t with
  | nil =>
      obtain ⟨before, rfl⟩ := here
      simp at last
  | cons e t =>
      have same : e = d := by simpa using hd
      exact apartHead (apartSuffix free here) d (by simp [same])

theorem selfClosingNone {s : List Char} (h : head? s = none) : selfClosing? s = none := by
  simp [selfClosing?, h]

theorem pairedNone {s : List Char} (h : head? s = none) : paired? s = none := by
  simp [paired?, h]

theorem selfClosingQuiet {s : List Char} (free : TagFree s) (last : s.getLast? ≠ some '<') (rest : List Char) :
    selfClosing (s ++ rest) = ⟨(selfClosing rest).items, s ++ (selfClosing rest).residue⟩ :=
  sweepInert fun _ _ here => selfClosingNone (headQuiet free last here)

theorem pairedQuiet {s : List Char} (free : TagFree s) (last : s.getLast? ≠ some '<') (rest : List Char) :
    paired (s ++ rest) = paired rest := by
  unfold paired
  rw [sweepInert fun _ _ here => pairedNone (headQuiet free last here)]

/-- A span that starts outside closed values is outside them again behind the text. -/
def Passes (s : List Char) : Prop :=
  ∀ rest, span none (s ++ rest) = (span none rest).map fun (body, after) => (s ++ body, after)

theorem passesNil : Passes [] := by
  intro rest
  cases h : span none rest <;> simp [h]

theorem passesAppend {s t : List Char} (hs : Passes s) (ht : Passes t) : Passes (s ++ t) := by
  intro rest
  rw [List.append_assoc, hs, ht]
  cases span none rest <;> simp

theorem passesPlain {c : Char} (inner : c ≠ '>') (plain : closer? c = none) : Passes [c] := by
  intro rest
  simp [span, inner, opens?, plain]

theorem passesAll {s : List Char} (h : ∀ c ∈ s, c ≠ '>' ∧ closer? c = none) : Passes s := by
  induction s with
  | nil => exact passesNil
  | cons c s ih =>
      have head := h c List.mem_cons_self
      exact passesAppend (passesPlain head.1 head.2) (ih fun d hd => h d (List.mem_cons_of_mem _ hd))

theorem spanInside {close : Char} {value : List Char} (free : close ∉ value) (rest : List Char) :
    span (some close) (value ++ close :: rest) =
      (span none rest).map fun (body, after) => (value ++ close :: body, after) := by
  induction value with
  | nil => simp [span]
  | cons c value ih =>
      have other : c ≠ close := fun same => free (same ▸ List.mem_cons_self)
      have tail := ih fun h => free (List.mem_cons_of_mem _ h)
      rw [List.cons_append, span, if_neg other, tail]
      cases span none rest <;> simp

theorem passesEnclosed {opener close : Char} {value : List Char} (pair : closer? opener = some close)
    (free : close ∉ value) : Passes (opener :: (value ++ [close])) := by
  intro rest
  have inner : opener ≠ '>' := by rintro rfl; simp [closer?] at pair
  have opens : opens? opener (value ++ close :: rest) = some close := by simp [opens?, pair, Option.filter]
  rw [List.cons_append, List.append_assoc, List.singleton_append, span, if_neg inner, opens, spanInside free]
  cases span none rest <;> simp

theorem passesKind {kind : Char → Bool} (marks : ∀ d ∈ ['>', '"', '\'', '{'], kind d = false) {s : List Char}
    (all : ∀ c ∈ s, kind c = true) : Passes s := by
  refine passesAll fun c h => ?_
  have other : c ∉ ['>', '"', '\'', '{'] := by
    intro mark
    have same := all c h
    rw [marks c mark] at same
    contradiction
  simp only [List.mem_cons, List.not_mem_nil, or_false, not_or] at other
  refine ⟨other.1, ?_⟩
  unfold closer?
  split <;> simp_all

theorem spanAppend {inside : Option Char} {s body after : List Char} (found : span inside s = some (body, after)) :
    s = body ++ '>' :: after := by
  induction s generalizing inside body with
  | nil => simp [span] at found
  | cons c rest ih =>
      cases inside with
      | some close =>
          obtain ⟨⟨tail, _⟩, ht, same⟩ := Option.map_eq_some_iff.mp found
          cases same
          rw [ih ht, List.cons_append]
      | none =>
          unfold span at found
          split at found
          · rename_i ends
            cases found
            rw [ends, List.nil_append]
          · obtain ⟨⟨tail, _⟩, ht, same⟩ := Option.map_eq_some_iff.mp found
            cases same
            rw [ih ht, List.cons_append]

theorem headAppend {s : List Char} {head : Head} {after : List Char} (found : head? s = some (head, after)) :
    s = '<' :: (head.name ++ (head.span ++ '>' :: after)) := by
  unfold head? at found
  split at found
  · rename_i rest
    split at found
    · contradiction
    · obtain ⟨⟨body, _⟩, hs, same⟩ := Option.map_eq_some_iff.mp found
      cases same
      rw [← spanAppend hs, Text.wordAppend]
  · contradiction

theorem selfClosingAppend {s : List Char} {head : Head} {after : List Char}
    (found : selfClosing? s = some (head, after)) : s = '<' :: (head.name ++ (head.span ++ '/' :: '>' :: after)) := by
  simp only [selfClosing?, bind, Option.bind_eq_some_iff] at found
  obtain ⟨⟨whole, rest⟩, hh, found⟩ := found
  split at found <;> try contradiction
  rename_i last
  cases found
  obtain ⟨front, same⟩ := List.getLast?_eq_some_iff.mp last
  rw [headAppend hh, same, List.dropLast_concat]
  simp

theorem pairedAppend {s : List Char} {item : Head × List Char} {after : List Char}
    (found : paired? s = some (item, after)) :
    s = '<' :: (item.1.name ++ (item.1.span ++ '>' :: (item.2 ++ closingTag item.1.name ++ after))) := by
  simp only [paired?, bind, Option.bind_eq_some_iff] at found
  obtain ⟨⟨head, rest⟩, hh, ⟨content, tail⟩, hu, same⟩ := found
  cases Option.some.inj same
  rw [untilAppend hu]
  exact headAppend hh

structure Named (s name body : List Char) : Prop where
  text : s = '<' :: (name ++ body)
  filled : name ≠ []
  word : ∀ c ∈ name, isWord c = true
  boundary : ∀ c ∈ body.head?, isWord c = false

theorem namedWord {s name body : List Char} :
    Named s name body ↔ ∃ rest, s = '<' :: rest ∧ word rest = (name, body) ∧ name ≠ [] := by
  constructor
  · rintro ⟨rfl, filled, all, boundary⟩
    exact ⟨_, rfl, wordSplit all boundary, filled⟩
  · rintro ⟨rest, rfl, read, filled⟩
    have whole := Text.wordAppend rest
    have all := fun c => @Text.wordChars rest c
    have stops := Text.wordStops rest
    rw [read] at whole all stops
    exact ⟨congrArg ('<' :: ·) whole.symm, filled, all, stops⟩

theorem namedUnique {s a b x y : List Char} (first : Named s a x) (second : Named s b y) : a = b ∧ x = y := by
  obtain ⟨rest, rfl, read, _⟩ := namedWord.mp first
  obtain ⟨other, same, again, _⟩ := namedWord.mp second
  obtain rfl := (List.cons.inj same).2
  exact Prod.mk.inj (read.symm.trans again)

theorem headNamed {s : List Char} {head : Head} {after : List Char} : head? s = some (head, after) ↔
    ∃ body, Named s head.name body ∧ span none body = some (head.span, after) := by
  constructor
  · intro found
    unfold head? at found
    split at found <;> try contradiction
    rename_i rest
    split at found <;> try contradiction
    rename_i filled
    obtain ⟨⟨body, _⟩, read, same⟩ := Option.map_eq_some_iff.mp found
    cases same
    exact ⟨(word rest).2, namedWord.mpr ⟨rest, rfl, rfl, by simpa using filled⟩, read⟩
  · rintro ⟨body, named, read⟩
    obtain ⟨rest, rfl, split, filled⟩ := namedWord.mp named
    simp [head?, split, filled, read]

theorem headPasses {name s : List Char} (filled : name ≠ []) (all : ∀ c ∈ name, isWord c = true)
    (stop : ∀ c ∈ s.head?, isWord c = false) (passes : Passes s) (rest : List Char) :
    head? ('<' :: (name ++ (s ++ '>' :: rest))) = some (⟨name, s⟩, rest) := by
  have sign : isWord '>' = false := by decide
  have stop' : ∀ c ∈ (s ++ '>' :: rest).head?, isWord c = false := by
    cases s with
    | nil => simpa using sign
    | cons d s => simpa using stop
  have read := passes ('>' :: rest)
  simp only [span, if_pos] at read
  simp [head?, wordSplit all stop', filled, read]

theorem untilFound {mark s : List Char} (found : mark <:+: s) : ∃ body after, until? mark s = some (body, after) := by
  induction s with
  | nil => exact ⟨[], [], by simp [until?, List.infix_nil.mp found]⟩
  | cons c rest ih =>
      by_cases here : mark.isPrefixOf (c :: rest)
      · exact ⟨_, _, by rw [until?, if_pos here]⟩
      · rcases List.infix_cons_iff.mp found with starts | later
        · exact absurd (List.isPrefixOf_iff_prefix.mpr starts) here
        · obtain ⟨body, after, read⟩ := ih later
          exact ⟨c :: body, after, by rw [until?, if_neg here, read]; rfl⟩

theorem untilEarliest {mark s body after : List Char} (filled : mark ≠ []) (found : until? mark s = some (body, after)) :
    ¬ mark <:+: body := by
  induction s generalizing body with
  | nil =>
      unfold until? at found
      split at found
      · cases found
        simpa using filled
      · contradiction
  | cons c rest ih =>
      unfold until? at found
      split at found
      · cases found
        simpa using filled
      · rename_i other
        obtain ⟨⟨tail, _⟩, later, same⟩ := Option.map_eq_some_iff.mp found
        cases same
        intro inside
        rcases List.infix_cons_iff.mp inside with starts | inner
        · have whole : c :: tail <+: c :: rest := by
            rw [← untilAppend later, List.append_assoc]
            exact List.prefix_append (c :: tail) _
          exact other (List.isPrefixOf_iff_prefix.mpr (starts.trans whole))
        · exact ih later inner

theorem untilFirst {mark body rest : List Char}
    (absent : ∀ t, t ≠ [] → t <:+ body → ¬ mark <+: t ++ (mark ++ rest)) :
    until? mark (body ++ (mark ++ rest)) = some (body, rest) := by
  induction body with
  | nil =>
      have starts : mark.isPrefixOf (mark ++ rest) = true := by simp
      cases h : mark ++ rest with
      | nil => simp_all [until?]
      | cons c tail =>
          rw [h] at starts
          rw [List.nil_append, until?, if_pos starts, ← h, List.drop_left]
  | cons c body ih =>
      have here := absent (c :: body) (by simp) (List.suffix_refl _)
      have tail := ih fun t some h => absent t some (h.trans (List.suffix_cons c body))
      rw [List.cons_append, until?, if_neg (by simpa using here), tail]
      rfl

theorem untilChar {close : Char} {value : List Char} (free : close ∉ value) (rest : List Char) :
    until? [close] (value ++ close :: rest) = some (value, rest) := by
  change until? [close] (value ++ ([close] ++ rest)) = some (value, rest)
  refine untilFirst ?_
  rintro (_ | ⟨c, t⟩) some suffix starts
  · contradiction
  · have same : close = c := by simpa using starts
    exact free (suffix.subset (same ▸ List.mem_cons_self))

/- The closing tag has its only less-than sign in front, so it cannot start in the content and end in itself. -/
theorem untilClosingTag {name content : List Char} (all : ∀ c ∈ name, isWord c = true)
    (absent : ¬ closingTag name <:+: content) (rest : List Char) :
    until? (closingTag name) (content ++ (closingTag name ++ rest)) = some (content, rest) := by
  refine untilFirst ?_
  rintro t some suffix ⟨behind, same⟩
  -- An earlier occurrence would end within the content, or reach into the tag itself.
  rcases List.append_eq_append_iff.mp same with ⟨extra, ht, _⟩ | ⟨extra, ht, hr⟩
  · exact absent ((List.prefix_append _ _).isInfix.trans (ht ▸ suffix.isInfix))
  · cases extra with
    | nil =>
        have whole : t = closingTag name := by simpa using ht.symm
        exact absent (whole ▸ suffix.isInfix)
    | cons c extra =>
        obtain ⟨d, t, rfl⟩ := List.exists_cons_of_ne_nil some
        have first : c = '<' := by simpa [closingTag] using (congrArg List.head? hr).symm
        have inner : '<' ∈ '/' :: (name ++ ['>']) := by
          have tails := congrArg List.tail ht
          simp only [closingTag, List.tail_cons, List.cons_append] at tails
          rw [tails, first]
          simp
        simp [Text.outsideAll all (c := '<') (by decide)] at inner

end EmailMarkup.Markup
