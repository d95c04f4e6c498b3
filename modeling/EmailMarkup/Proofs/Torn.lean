import EmailMarkup.Proofs.Line

/-! Blocks of which only a start has come. The block of a streamable component is kept as a whole and leaves the open
tags as they were; a start of it, if anything of it is kept, is kept under an open tag, and it shows nothing. -/
namespace EmailMarkup.Stream
open Markup (Tag Node TagFree Quotable elementsOf closingTag apartInfix apartPrefix apartJoin)
open Text (isBlank strip lines linesWithout linesFeed prefixSplit prefixShorter)

structure Streamable (props : Props) : Prop where
  filled : ∀ field ∈ props.fields, field.2 ≠ ""
  allowed : ∀ field ∈ props.fields, field.1.allows field.2 = true
  clear : ∀ field ∈ props.fields, '<' ∉ field.2.toList
  trimmed : ∀ inner ∈ props.innerText?, strip inner.toList = inner.toList
  single : ∀ field ∈ props.fields, field.1 ≠ .text → '\n' ∉ field.2.toList
  unended : ∀ field ∈ props.fields, field.1 ≠ .text → ¬ "/>".toList <:+: field.2.toList
  quotable : ∀ field ∈ props.fields, field.1 ≠ .text → Quotable field.2.toList

/-- What has come of a paired block behind its first line: a start of the text, or the text and a start of the closing
tag. -/
inductive Rest (kind : Kind) (inner : List Char) : List Char → Prop where
  | text {r} (inside : r <+: ' ' :: ' ' :: inner) : Rest kind inner r
  | closing {t} (last : t <+: closingTag kind.tag.toList) (torn : t ≠ closingTag kind.tag.toList) :
      Rest kind inner (' ' :: ' ' :: inner ++ '\n' :: t)

namespace Rest

variable {kind : Kind} {inner r : List Char}

theorem content (rest : Rest kind inner r) (clear : '<' ∉ inner) : ∀ line ∈ lines r, role line = .content := by
  have indented : '<' ∉ ' ' :: ' ' :: inner := by simpa using clear
  cases rest with
  | text inside => exact linesClear fun h => indented (inside.subset h)
  | @closing t last torn =>
      have tail : '\n' ∉ t := by
        have closing : '\n' ∉ closingTag kind.tag.toList := by cases kind <;> decide
        exact fun h => closing (last.subset h)
      intro line h
      rw [linesFeed, linesWithout tail, List.mem_append, List.mem_singleton] at h
      rcases h with inside | rfl
      · exact linesClear indented line inside
      · exact roleClosingTorn kind line ((List.mem_inits _ _).mpr last) torn

theorem unclosed (rest : Rest kind inner r) (clear : '<' ∉ inner) : ¬ closingTag kind.tag.toList <:+: '\n' :: r := by
  intro inside
  cases rest with
  | text start =>
      have sign : '<' ∈ '\n' :: r := inside.subset List.mem_cons_self
      have early : '<' ∈ ' ' :: ' ' :: inner := start.subset (by simpa using sign)
      simp [clear] at early
  | @closing t last torn =>
      have front : '<' ∉ '\n' :: (' ' :: ' ' :: inner ++ ['\n']) := by simpa using clear
      have whole : '\n' :: (' ' :: ' ' :: inner ++ '\n' :: t) = '\n' :: (' ' :: ' ' :: inner ++ ['\n']) ++ t := by
        simp
      rw [whole] at inside
      have long := (Text.infixBehind front inside).length_le
      exact absurd (prefixShorter last torn) (Nat.not_lt.mpr long)

end Rest

theorem spaceBlank {gap : List Char} (spaces : ∀ c ∈ gap, c = ' ') : ∀ c ∈ gap, isBlank c = true := by
  intro c h
  rw [spaces c h]
  decide

def firstLine (props : Props) (gap : List Char) (c : Char) : List Char :=
  '<' :: (props.kind.tag.toList ++ ((props.opening gap).span ++ [c]))

namespace Streamable

variable {props : Props}

theorem plain (streamable : Streamable props) : props.Plain where
  filled := streamable.filled
  allowed := streamable.allowed
  clear := streamable.clear
  quotable := streamable.quotable
  trimmed := streamable.trimmed

theorem restorable (streamable : Streamable props) : props.Restorable := streamable.plain.restorable

theorem spanApart (streamable : Streamable props) {c : Char} (mark : c ∈ ['<', '\n'])
    {gap : List Char} (spaces : ∀ c ∈ gap, c = ' ') : c ∉ (props.opening gap).span := by
  have plain : ∀ c ∈ ['<', '\n'], (Text.isWord c = false ∧ c ∉ ['=', '"', '\'', '\x7b', '\x7d']) ∧ c ≠ ' ' := by decide
  refine Markup.spanWithout (Props.openingValid streamable.quotable gap (spaceBlank spaces)) (plain c mark).1
    (fun h => (plain c mark).2 (spaces c h)) fun s hs => ?_
  obtain ⟨space, field, hf, other, same⟩ := props.spellField hs
  rw [space, ← same]
  refine ⟨by simpa using (plain c mark).2, ?_⟩
  rcases List.mem_cons.mp mark with rfl | rest
  · exact streamable.clear field hf
  · rw [List.mem_singleton.mp rest]
    exact streamable.single field hf other

theorem spanEndFree (streamable : Streamable props) {gap : List Char} (blank : ∀ c ∈ gap, isBlank c = true) :
    EndFree (props.opening gap).span := by
  refine Markup.apartTag (by decide) (by rintro (_ | _ | _) <;> rfl)
    (Props.openingValid streamable.quotable gap blank) fun s hs => ?_
  obtain ⟨_, field, hf, other, same⟩ := props.spellField hs
  rw [← same]
  exact apartInfix (streamable.unended field hf other)

theorem opener (streamable : Streamable props) (gap : List Char) (c : Char) (spaces : ∀ c ∈ gap, c = ' ')
    (mark : c ∈ ['/', '>']) : Opener props.kind.tag.toList ((props.opening gap).span ++ [c]) where
  filled := (Props.tagWord props.kind).1
  all := (Props.tagWord props.kind).2
  stop := by
    have first : (props.opening gap).span = ' ' :: (Markup.writeAttributes props.attributes ++ gap) := by
      rw [Tag.span, Props.opening, ← Props.writeAttributesSpelled streamable.quotable]
      rfl
    intro d h
    rw [first] at h
    cases Option.some.inj h
    exact .inl (by decide)
  clear := by
    have other : ∀ c ∈ ['/', '>'], c ≠ '<' := by decide
    have inside := streamable.spanApart (c := '<') (by decide) spaces
    simp [inside, Ne.symm (other c mark)]
  endFree := by
    have blank := spaceBlank spaces
    have last : (props.opening gap).span.getLast? ≠ some '/' := fun h =>
      Markup.tagSpanLast (Props.openingValid streamable.quotable gap blank) '/' h (by simp)
    exact apartJoin (streamable.spanEndFree blank) (List.isChain_singleton _) (.inl last)

theorem firstSingle (streamable : Streamable props) (gap : List Char) (c : Char) (spaces : ∀ c ∈ gap, c = ' ')
    (mark : c ∈ ['/', '>']) : '\n' ∉ firstLine props gap c := by
  have name : '\n' ∉ '<' :: props.kind.tag.toList := by cases props.kind <;> decide
  have span := streamable.spanApart (c := '\n') (by decide) spaces
  have other : ∀ c ∈ ['/', '>'], '\n' ≠ c := by decide
  simp only [List.mem_cons, not_or] at name
  simp [firstLine, name, span, other c mark]

theorem writeSingle (streamable : Streamable props) (none : props.innerText? = none) :
    props.write = (Node.single (props.opening [' '])).text := by
  rw [← Props.nodeText streamable.quotable, Props.node, none]

theorem writePair (streamable : Streamable props) {inner : String} (some : props.innerText? = some inner) :
    props.write = firstLine props [] '>' ++
      '\n' :: (' ' :: ' ' :: inner.toList ++ '\n' :: closingTag props.kind.tag.toList) := by
  rw [← Props.nodeText streamable.quotable, Props.node, some]
  simp [Node.text, firstLine, Props.opening]

theorem linesPair (streamable : Streamable props) {inner : String} (some : props.innerText? = some inner) :
    lines props.write = [firstLine props [] '>'] ++
      (lines (' ' :: ' ' :: inner.toList) ++ [closingTag props.kind.tag.toList]) := by
  have first := streamable.firstSingle [] '>' (by simp) (by decide)
  have last : '\n' ∉ closingTag props.kind.tag.toList := by cases props.kind <;> decide
  rw [streamable.writePair some, linesFeed, linesWithout first, linesFeed, linesWithout last]

theorem innerClear (streamable : Streamable props) {inner : String} (some : props.innerText? = some inner) :
    '<' ∉ inner.toList := streamable.clear _ (props.innerField some)

theorem blockKept (streamable : Streamable props) (kept : Kept) :
    kept.run (lines props.write) = kept.keepAll (lines props.write) := by
  cases h : props.innerText? with
  | none =>
      have valid := Props.openingValid streamable.quotable [' '] (by decide)
      have single : '\n' ∉ props.write := by
        have front := streamable.firstSingle [' '] '/' (by simp) (by decide)
        rw [streamable.writeSingle h, Node.text]
        simpa [firstLine, Props.opening] using front
      rw [linesWithout single, streamable.writeSingle h]
      exact Kept.stepWhole (roleSingle valid)
  | some inner =>
      have opens : role (firstLine props [] '>') = .opens props.kind.tag.toList :=
        (streamable.opener [] '>' (by simp) (by decide)).role
      have rest : Rest props.kind inner.toList (' ' :: ' ' :: inner.toList) := .text (List.prefix_refl _)
      have text := rest.content (streamable.innerClear h)
      rw [streamable.linesPair h, Kept.runAppend, Kept.runSingle, Kept.stepOpens opens, Kept.runAppend,
        Kept.runContent text, Kept.runSingle, Kept.stepCloses (roleClosing props.kind),
        ← Kept.keepAllAppend, ← Kept.keepAllAppend]

theorem cut (streamable : Streamable props) {q : List Char} (start : q <+: props.write) (other : q ≠ props.write) :
    (∃ gap c, (∀ d ∈ gap, d = ' ') ∧ c ∈ ['/', '>'] ∧ q <+: firstLine props gap c) ∨
    ∃ inner r, props.innerText? = some inner ∧ q = firstLine props [] '>' ++ '\n' :: r ∧
      Rest props.kind inner.toList r := by
  cases h : props.innerText? with
  | none =>
      left
      have text : props.write = firstLine props [' '] '/' ++ ['>'] := by
        rw [streamable.writeSingle h, Node.text]
        simp [firstLine, Props.opening]
      rw [text] at start other
      exact ⟨[' '], '/', by simp, by decide, (List.prefix_concat_iff.mp start).resolve_left other⟩
  | some inner =>
      rw [streamable.writePair h] at start other
      rcases prefixSplit start with first | ⟨r, rfl, behind⟩
      · exact .inl ⟨[], '>', by simp, by decide, first⟩
      · rcases List.prefix_cons_iff.mp behind with rfl | ⟨r, rfl, inside⟩
        · exact .inl ⟨[], '>', by simp, by decide, by rw [List.append_nil]⟩
        · refine .inr ⟨inner, r, rfl, rfl, ?_⟩
          rcases prefixSplit inside with text | ⟨t, rfl, closing⟩
          · exact .text text
          · rcases List.prefix_cons_iff.mp closing with rfl | ⟨t, rfl, last⟩
            · exact .text (by rw [List.append_nil])
            · refine .closing last ?_
              rintro rfl
              exact other rfl

theorem tornKept (streamable : Streamable props) {q : List Char} (start : q <+: props.write) (other : q ≠ props.write)
    {kept : Kept} (shut : kept.stack = []) : kept.run (lines q) = kept ∨
      ∃ name, kept.run (lines q) = (kept.keepAll (lines q)).push name ∧ q ≠ [] := by
  rcases streamable.cut start other with ⟨gap, c, spaces, mark, first⟩ | ⟨inner, r, some, rfl, rest⟩
  · have single : '\n' ∉ q := fun h => streamable.firstSingle gap c spaces mark (first.subset h)
    exact (streamable.opener gap c spaces mark).run single first shut
  · refine .inr ⟨props.kind.tag.toList, ?_, by simp [firstLine]⟩
    have head := streamable.firstSingle [] '>' (by simp) (by decide)
    have opens : role (firstLine props [] '>') = .opens props.kind.tag.toList :=
      (streamable.opener [] '>' (by simp) (by decide)).role
    have content := rest.content (streamable.innerClear some)
    rw [linesFeed, linesWithout head, Kept.runAppend, Kept.runSingle, Kept.stepOpens opens, Kept.runContent content,
      ← Kept.keepAllAppend]

theorem tornSilent (streamable : Streamable props) {q : List Char} (start : q <+: props.write)
    (other : q ≠ props.write) : elementsOf q = [] := by
  rcases streamable.cut start other with ⟨gap, c, spaces, mark, first⟩ | ⟨inner, r, some, same, rest⟩
  · exact (streamable.opener gap c spaces mark).silent first
  · have valid := Props.openingValid streamable.quotable [] (by simp)
    have head := Markup.headTag valid ('\n' :: r)
    have text : q = '<' :: ((props.opening []).name ++ ((props.opening []).span ++ '>' :: '\n' :: r)) := by
      simpa [firstLine, Props.opening] using same
    have free : TagFree ((props.opening []).name ++ ((props.opening []).span ++ '>' :: '\n' :: r)) := by
      have node := Props.nodeValid streamable.restorable
      have written := Props.nodeText streamable.quotable
      rw [Props.node, some] at node written
      obtain ⟨inside, whole, quiet, _⟩ := Markup.pairInside node
      rw [← written, text, whole] at start
      exact apartPrefix quiet (List.cons_prefix_cons.mp start).2
    rw [text]
    refine elementsNone free (Markup.selfClosingOpen valid _) ?_
    rw [Option.eq_none_iff_forall_not_mem]
    rintro ⟨item, after⟩ found
    simp only [Markup.paired?, head, bind, Option.mem_def, Option.bind_some, Option.bind_eq_some_iff] at found
    obtain ⟨⟨content, tail⟩, found, _⟩ := found
    refine rest.unclosed (streamable.innerClear some) ?_
    rw [← Markup.untilAppend found]
    exact ⟨content, tail, rfl⟩

end Streamable

end EmailMarkup.Stream
