import EmailMarkup.Proofs.Token

/-! What becomes of the content of a paired element. The first pass reads the content as if it stood alone: no
self-closing tag reaches into the closing tag, and the opening tag hides none. So the elements are those of the
self-closing tags of the content and then the paired one, whose text is what is left of the content. All other tags in
it stay text. -/
namespace EmailMarkup.Markup
open Text (word isWord wordBehind)

def singles (s : List Char) : List Element := (selfClosing s).items.map (Element.ofHead · none)

def pairs (s : List Char) : List Element :=
  (paired s).map fun (head, content) => Element.ofHead head (textChild content)

theorem elementsPasses (s : List Char) : elementsOf s = singles s ++ pairs (selfClosing s).residue := rfl

section Behind

variable {tail : List Char} (mute : ∀ c close, closer? c = some close → close ∉ tail)
include mute

theorem opensBehind (c : Char) (rest : List Char) : opens? c (rest ++ tail) = opens? c rest := by
  unfold opens?
  cases h : closer? c with
  | none => rfl
  | some close => simp [mute c close h, Option.filter]

/- Nothing behind a text closes a value that starts in it. So a span that does not end in the text is outside closed
values where the text ends. -/
theorem spanBehind {inside : Option Char} {s : List Char} (closed : ∀ close ∈ inside, close ∈ s) :
    span inside (s ++ tail) =
      match span inside s with
      | some (body, after) => some (body, after ++ tail)
      | none => (span none tail).map fun (body, after) => (s ++ body, after) := by
  induction s generalizing inside with
  | nil =>
      cases inside with
      | some close => exact absurd (closed close rfl) List.not_mem_nil
      | none => cases h : span none tail <;> simp [span, h]
  | cons c rest ih =>
      cases inside with
      | some close =>
          have later : ∀ d ∈ (if c = close then none else some close), d ∈ rest := by
            intro d hd
            split at hd
            · contradiction
            · rename_i other
              cases hd
              exact (List.mem_cons.mp (closed close rfl)).resolve_left (Ne.symm other)
          rw [List.cons_append, span, span, ih later]
          cases span (if c = close then none else some close) rest <;> cases span none tail <;> rfl
      | none =>
          rw [List.cons_append, span, span]
          by_cases ends : c = '>'
          · rw [if_pos ends, if_pos ends]
          · have later : ∀ d ∈ opens? c rest, d ∈ rest := by
              intro d hd
              simpa using (Option.filter_eq_some_iff.mp hd).2
            rw [if_neg ends, if_neg ends, opensBehind mute, ih later]
            cases span (opens? c rest) rest <;> cases span none tail <;> rfl

end Behind

theorem sweepBehind {α : Type} {read? : Reader α} (short : Shortens read?) {tail : List Char}
    (same : ∀ c s, read? (c :: (s ++ tail)) = (read? (c :: s)).map fun (a, after) => (a, after ++ tail))
    (s : List Char) : sweep read? (s ++ tail) =
      ⟨(sweep read? s).items ++ (sweep read? tail).items, (sweep read? s).residue ++ (sweep read? tail).residue⟩ := by
  induction length : s.length using Nat.strongRecOn generalizing s with
  | _ n ih =>
    cases s with
    | nil => rfl
    | cons c rest =>
        have here := same c rest
        cases read : read? (c :: rest) with
        | none =>
            rw [read] at here
            rw [List.cons_append, sweepChar here, sweepChar read, ih rest.length (by simp [← length]) rest rfl]
            rfl
        | some found =>
            obtain ⟨a, after⟩ := found
            rw [read] at here
            have shorter : after.length < n := length ▸ short _ _ _ read
            rw [List.cons_append, sweepPiece short here, sweepPiece short read, ih after.length shorter after rfl]
            rfl

section Closing

variable {name : List Char} (all : ∀ c ∈ name, isWord c = true)
include all

theorem closingTagMute (c close : Char) (pair : closer? c = some close) : close ∉ closingTag name := by
  have marks : close ∈ ['"', '\'', '\x7d'] := by
    unfold closer? at pair
    split at pair <;> cases pair <;> simp
  have plain : ∀ d ∈ ['"', '\'', '\x7d'], isWord d = false ∧ d ∉ ['<', '/', '>'] := by decide
  obtain ⟨noWord, other⟩ := plain close marks
  have noName := Text.outsideAll all noWord
  simp only [List.mem_cons, List.not_mem_nil, or_false, not_or] at other
  simp [closingTag, other, noName]

theorem spanClosingTag : span none (closingTag name) = some ('<' :: '/' :: name, []) := by
  have passes : Passes (['<', '/'] ++ name) :=
    passesAppend (passesAll (by decide)) (passesKind (by decide) all)
  have read := passes ['>']
  simpa [closingTag, span] using read

/- The closing tag may end a head that is open before it. That head ends in the name, so it does not close itself. -/
theorem selfClosingBehind (filled : name ≠ []) (c : Char) (s : List Char) :
    selfClosing? (c :: (s ++ closingTag name)) =
      (selfClosing? (c :: s)).map fun (head, after) => (head, after ++ closingTag name) := by
  by_cases sign : c = '<'
  · subst sign
    have read : word (s ++ closingTag name) = ((word s).1, (word s).2 ++ closingTag name) :=
      wordBehind s (by decide) _
    simp only [selfClosing?, head?, read]
    by_cases blank : (word s).1.isEmpty
    · simp [blank]
    · have outside : ∀ close ∈ (none : Option Char), close ∈ (word s).2 := by simp
      have reach := spanBehind (closingTagMute all) outside
      cases inner : span none (word s).2 with
      | some found =>
          obtain ⟨body, after⟩ := found
          simp only [inner] at reach
          by_cases slash : body.getLast? = some '/' <;> simp [blank, reach, slash]
      | none =>
          have last : ('/' :: name).getLast? ≠ some '/' := by
            obtain ⟨front, d, same⟩ := name.eq_nil_or_concat.resolve_left filled
            rw [same, List.concat_eq_append, ← List.cons_append, List.getLast?_concat]
            intro slash
            exact absurd (all d (by simp [same])) (by rw [Option.some.inj slash]; decide)
          simp only [inner, spanClosingTag all] at reach
          simp [blank, reach, last]
  · have quiet : ∀ t, selfClosing? (c :: t) = none := fun t => selfClosingNone (headNone fun same => absurd same sign)
    rw [quiet, quiet]
    rfl

theorem selfClosingContent (filled : name ≠ []) (content : List Char) :
    selfClosing (content ++ closingTag name) =
      ⟨(selfClosing content).items, (selfClosing content).residue ++ closingTag name⟩ := by
  have behind := sweepBehind selfClosingShortens (selfClosingBehind all filled) content
  have alone := selfClosingQuiet (closingTagFree all) (by simp [closingTag, List.getLast?_cons]) []
  rw [List.append_nil] at alone
  rw [selfClosing, behind, ← selfClosing, ← selfClosing, alone]
  simp [selfClosing, sweepNil]

end Closing

theorem sweepUnread {α : Type} {read? : Reader α} {s : List Char} (none : (sweep read? s).items = []) :
    (sweep read? s).residue = s := by
  induction s with
  | nil => rfl
  | cons c rest ih =>
      cases read : read? (c :: rest) with
      | some found => simp [sweep, sweepWith, read, Swept.pick] at none
      | none =>
          rw [sweepChar read] at none ⊢
          exact congrArg (c :: ·) (ih none)

theorem selfClosingOpened {tag : Tag} (clear : tag.Clear) (rest : List Char) :
    selfClosing ('<' :: (tag.name ++ (tag.span ++ '>' :: rest))) =
      ⟨(selfClosing rest).items, '<' :: (tag.name ++ (tag.span ++ '>' :: (selfClosing rest).residue))⟩ := by
  have quiet : '<' ∉ tag.name ++ (tag.span ++ ['>']) := by simp [clearName clear.1.1.2, clearSpan clear]
  have inside := selfClosingQuiet (apartWithout quiet) (notLastWithout quiet) rest
  have text : tag.name ++ (tag.span ++ '>' :: rest) = tag.name ++ (tag.span ++ ['>']) ++ rest := by simp
  rw [selfClosing, sweepChar (selfClosingOpen clear.1 rest), ← selfClosing, text, inside]
  simp [Swept.keep]

theorem pairsOpened {tag : Tag} (valid : tag.Valid) {rest body after : List Char}
    (ends : until? (closingTag tag.name) rest = some (body, after)) :
    pairs ('<' :: (tag.name ++ (tag.span ++ '>' :: rest))) = tag.element (textChild body) :: pairs after := by
  have read : paired? ('<' :: (tag.name ++ (tag.span ++ '>' :: rest))) =
      some ((⟨tag.name, tag.span⟩, body), after) := by
    rw [paired?, headTag valid]
    simp [ends]
  rw [pairs, paired, sweepPiece pairedShortens read, pairs, paired, ← ofHeadTag valid]
  rfl

theorem readsContent {tag : Tag} (clear : tag.Clear) (content : List Char) :
    let source := String.ofList (Node.pair tag content).text
    let left := (selfClosing content).residue
    (∃ body after, left ++ closingTag tag.name = body ++ (closingTag tag.name ++ after) ∧
      ¬ closingTag tag.name <:+: body ∧
      elements source = singles content ++ tag.element (textChild body) :: pairs after) ∧
    (¬ closingTag tag.name <:+: left → elements source = singles content ++ [tag.element (textChild left)]) ∧
    (singles content = [] → ¬ closingTag tag.name <:+: content →
      elements source = [tag.element (textChild content)]) := by
  intro source left
  have name := clear.1.1
  have passes : ∀ body after, until? (closingTag tag.name) (left ++ closingTag tag.name) = some (body, after) →
      elements source = singles content ++ tag.element (textChild body) :: pairs after := by
    intro body after ends
    have text := pairText tag content []
    rw [List.append_nil, List.append_nil] at text
    rw [elements, String.toList_ofList, text, elementsPasses, singles, selfClosingOpened clear,
      selfClosingContent name.2 name.1, pairsOpened clear.1 ends]
    rfl
  have alone : ¬ closingTag tag.name <:+: left →
      elements source = singles content ++ [tag.element (textChild left)] := by
    intro none
    have ends := untilClosingTag name.2 none []
    rw [List.append_nil] at ends
    exact passes left [] ends
  refine ⟨?_, alone, fun none absent => ?_⟩
  · obtain ⟨body, after, ends⟩ := untilFound (List.suffix_append left (closingTag tag.name)).isInfix
    refine ⟨body, after, ?_, untilEarliest (by simp [closingTag]) ends, passes body after ends⟩
    rw [← untilAppend ends, List.append_assoc]
  · have same : left = content := sweepUnread (List.map_eq_nil_iff.mp none)
    rw [alone (same ▸ absent), none, same, List.nil_append]

theorem readsContentApart :
    let text : Tag := ⟨"Text".toList, [], []⟩
    text.Clear ∧ ∀ content ∈ ["a <Hr/> b".toList, "</<Hr/>Text>b".toList],
      ¬ closingTag text.name <:+: content ∧
      elements (String.ofList (Node.pair text content).text) ≠ [text.element (textChild content)] := by
  decide

theorem readsContentMixed :
    let text : Tag := ⟨"Text".toList, [⟨[' '], "align".toList, .double, "a > 'b".toList⟩], ['\n']⟩
    text.Clear ∧
    elements (String.ofList (Node.pair text " <Text> \x7b<b c=\"</Heading> <".toList).text) =
      [⟨"Text", [("align", "a > 'b")], some "<Text> \x7b<b c=\"</Heading> <"⟩] ∧
    elements (String.ofList (Node.pair text "<Img a='</b>'/> <i>c</i> <Hr/>".toList).text) =
      [⟨"Img", [("a", "</b>")], none⟩, ⟨"Hr", [], none⟩, ⟨"Text", [("align", "a > 'b")], some "<i>c</i>"⟩] := by
  intro text
  have clear : text.Clear := by decide
  have kept := (readsContent clear " <Text> \x7b<b c=\"</Heading> <".toList).2.2 (by decide) (by decide)
  have mixed := (readsContent clear "<Img a='</b>'/> <i>c</i> <Hr/>".toList).2.1 (by decide)
  exact ⟨clear, kept.trans (by decide), mixed.trans (by decide)⟩

end EmailMarkup.Markup
