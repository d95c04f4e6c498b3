import EmailMarkup.Proofs.Lexeme
import EmailMarkup.Proofs.Yield

/-! Lists of names and values through writing and reading. Each written attribute is made of whole tokens, its value
being one of them, whatever the value holds and whatever text comes behind. So reading resumes at the end of each value,
and the list is read back as a dictionary. -/
namespace EmailMarkup.Markup
open Text (isWord)

/-- Tokens that a text is cut into whatever comes behind it, none of them the end of a tag. -/
structure Cut (s : List Char) (lexemes : List Lexeme) : Prop where
  text : spelled lexemes = s
  stand : ∀ rest, Stand lexemes rest
  inside : .plain '>' ∉ lexemes

theorem cutNil : Cut [] [] := ⟨rfl, fun _ => trivial, by simp⟩

theorem cutAppend {s t : List Char} {a b : List Lexeme} (first : Cut s a) (second : Cut t b) : Cut (s ++ t) (a ++ b) where
  text := by rw [spelledAppend, first.text, second.text]
  stand := fun rest => standAppend.mpr ⟨first.stand _, second.stand rest⟩
  inside := by simp [first.inside, second.inside]

theorem cutPlain {s : List Char} (plain : ∀ c ∈ s, c ∉ ['"', '\'', '\x7b', '>']) : Cut s (s.map .plain) := by
  induction s with
  | nil => exact cutNil
  | cons c s ih =>
      rw [List.forall_mem_cons] at plain
      obtain ⟨here, later⟩ := plain
      have sign : Cut [c] [.plain c] := by
        refine ⟨rfl, fun rest => ⟨fun mark => here ?_, trivial⟩, fun ends => here ?_⟩
        · exact List.mem_append_left ['>'] mark
        · rw [← Lexeme.plain.inj (List.mem_singleton.mp ends)]
          decide
      exact cutAppend sign (ih later)

theorem cutValue {quoting : Quoting} {value : List Char} (free : quoting.closer ∉ value) :
    Cut (quoting.opener :: (value ++ [quoting.closer])) [.value quoting value] :=
  ⟨by simp [spelled, Lexeme.text], fun _ => ⟨free, trivial⟩, by simp⟩

theorem wordPlain {c : Char} (word : isWord c = true) : c ∉ ['"', '\'', '\x7b', '>'] := by
  have marks : ∀ d ∈ ['"', '\'', '\x7b', '>'], isWord d = false := by decide
  exact fun mark => Bool.noConfusion (word.symm.trans (marks c mark))

theorem cutAttribute {pair : String × String} (lossless : Lossless pair) :
    Cut (writeAttribute pair.1 pair.2)
      (pair.1.toList.map .plain ++ .plain '=' :: [.value (Quoting.of pair.2.toList) pair.2.toList]) := by
  have name := cutPlain fun c h => wordPlain (lossless.word c h)
  have sign : Cut ['='] [.plain '='] := cutPlain (by decide)
  have value := cutValue (quotingFree lossless.quotable)
  have whole := cutAppend name (cutAppend sign value)
  rw [writeQuotable lossless.quotable]
  simpa [enclose] using whole

theorem cutAttributes {pairs : Attributes} (lossless : ∀ pair ∈ pairs, Lossless pair) :
    ∃ lexemes, Cut (writeAttributes pairs) lexemes := by
  have blank : Cut [' '] [.plain ' '] := cutPlain (by decide)
  induction pairs with
  | nil => exact ⟨[], cutNil⟩
  | cons pair rest ih =>
      rw [List.forall_mem_cons] at lossless
      have first := cutAttribute lossless.1
      obtain ⟨lexemes, others⟩ := ih lossless.2
      cases rest with
      | nil =>
          rw [writeAttributes, List.map_singleton, List.intercalate_singleton]
          exact ⟨_, first⟩
      | cons next rest =>
          rw [writeAttributes, List.map_cons, List.map_cons, List.intercalate_cons_cons, List.append_assoc]
          exact ⟨_, cutAppend first (cutAppend blank others)⟩

theorem cutScans {s : List Char} {front : List Lexeme} (cut : Cut s front) (rest : List Char) (lexemes : List Lexeme) :
    Scans (s ++ rest) lexemes ↔ ∃ later, lexemes = front ++ later ∧ Scans rest later := by
  have joined {later : List Lexeme} (scans : Scans rest later) : Scans (s ++ rest) (front ++ later) := by
    obtain ⟨rfl, stand⟩ := scans
    exact ⟨by rw [spelledAppend, cut.text], standAppend.mpr ⟨cut.stand _, stand⟩⟩
  constructor
  · intro scans
    obtain ⟨later, behind⟩ := scanExists rest
    exact ⟨later, scanUnique scans (joined behind), behind⟩
  · rintro ⟨later, rfl, behind⟩
    exact joined behind

theorem cutSpan {s : List Char} {front : List Lexeme} (cut : Cut s front) (rest : List Char) :
    span none (s ++ rest) = (span none rest).map fun (body, after) => (s ++ body, after) := by
  rw [← cut.text]
  exact spanLexemes (cut.stand rest) cut.inside

theorem entitiesJoined (value : List Char) :
    withoutDoubleQuotes value = "&quot;".toList.intercalate (value.splitOn '"') := by
  induction value with
  | nil => rfl
  | cons c rest ih =>
      obtain ⟨piece, pieces, split⟩ := List.exists_cons_of_ne_nil (List.splitOn_ne_nil '"' rest)
      rw [withoutDoubleQuotes, List.flatMap_cons, ← withoutDoubleQuotes, ih, List.splitOn_cons_eq_if_modifyHead, split]
      by_cases quote : c = '"'
      · rw [if_pos quote, if_pos (beq_iff_eq.mpr quote), List.intercalate_cons_cons, List.nil_append]
      · rw [if_neg quote, if_neg (fun same => quote (beq_iff_eq.mp same)), List.modifyHead_cons,
          List.intercalate_cons_cons_left, List.singleton_append]

theorem readsPairs (pairs : Attributes)
    (named : ∀ pair ∈ pairs, pair.1.toList ≠ [] ∧ ∀ c ∈ pair.1.toList, isWord c = true) :
    attributes (writeAttributes pairs) = lastValues (pairs.map fun (name, value) => (name, legible value)) ∧
    (∀ value, legible value = if '"' ∈ value.toList ∧ '\'' ∈ value.toList ∧ '\x7d' ∈ value.toList
      then String.ofList ("&quot;".toList.intercalate (value.toList.splitOn '"')) else value) ∧
    ∃ front, spelled front = writeAttributes pairs ∧ .plain '>' ∉ front ∧
      (∀ rest lexemes, Scans (writeAttributes pairs ++ rest) lexemes ↔
        ∃ later, lexemes = front ++ later ∧ Scans rest later) ∧
      ∀ rest, span none (writeAttributes pairs ++ rest) =
        (span none rest).map fun (body, after) => (writeAttributes pairs ++ body, after) := by
  have lossless : ∀ pair ∈ pairs.map fun (name, value) => (name, legible value), Lossless pair := by
    rw [List.forall_mem_map]
    exact fun pair h => ⟨(named pair h).1, (named pair h).2, legibleQuotable pair.2⟩
  obtain ⟨front, cut⟩ := cutAttributes lossless
  rw [← writePairsLegible]
  refine ⟨attributesPairs lossless, fun value => ?_, front, cut.text, cut.inside, cutScans cut, cutSpan cut⟩
  by_cases quotable : Quotable value.toList
  · rw [legibleSame quotable, if_neg quotable]
  · rw [legible, if_neg quotable, if_pos (not_not.mp quotable), entitiesJoined]

theorem readsPairsHostile :
    attributes (writeAttributes [("a", "1"), ("b", "\"'\x7d"), ("a", "b=\"2\" />")]) =
      [("a", "b=\"2\" />"), ("b", "&quot;'\x7d")] := by
  rw [(readsPairs _ (by decide)).1]
  decide

end EmailMarkup.Markup
