import EmailMarkup.Proofs.Attribute
import Mathlib.Data.List.Basic

/-! Texts as tokens: values in quotes or braces, quotes and braces that nothing closes up to the end of the text, and
all other characters. Every text is cut into tokens in one way only, since a token is told by its first character and by
whether its closer stands behind it. So a tag head has one reading at most, which ends at the first greater-than sign
that is a token by itself, and this is the one that the reader of heads finds. -/
namespace EmailMarkup.Markup
open Text (isWord word wordSplit)

inductive Lexeme where
  | plain (c : Char)
  | value (quoting : Quoting) (body : List Char)
  | loose (quoting : Quoting)
  deriving DecidableEq, Repr

namespace Lexeme

def text : Lexeme → List Char
  | .plain c => [c]
  | .value quoting body => quoting.opener :: (body ++ [quoting.closer])
  | .loose quoting => [quoting.opener]

def Stands (rest : List Char) : Lexeme → Prop
  | .plain c => c ∉ ['"', '\'', '\x7b']
  | .value quoting body => quoting.closer ∉ body
  | .loose quoting => quoting.closer ∉ rest
instance (rest lexeme) : Decidable (Stands rest lexeme) := by cases lexeme <;> unfold Stands <;> infer_instance

end Lexeme

def spelled (lexemes : List Lexeme) : List Char := lexemes.flatMap Lexeme.text

def Stand : List Lexeme → List Char → Prop
  | [], _ => True
  | lexeme :: lexemes, rest => lexeme.Stands (spelled lexemes ++ rest) ∧ Stand lexemes rest
instance decidableStand : ∀ lexemes rest, Decidable (Stand lexemes rest)
  | [], _ => .isTrue trivial
  | lexeme :: lexemes, rest =>
      have := decidableStand lexemes rest
      inferInstanceAs (Decidable (lexeme.Stands (spelled lexemes ++ rest) ∧ Stand lexemes rest))

def Scans (s : List Char) (lexemes : List Lexeme) : Prop := s = spelled lexemes ∧ Stand lexemes []
instance (s lexemes) : Decidable (Scans s lexemes) := by unfold Scans; infer_instance

theorem spelledCons (lexeme : Lexeme) (lexemes : List Lexeme) :
    spelled (lexeme :: lexemes) = lexeme.text ++ spelled lexemes := List.flatMap_cons

theorem spelledAppend (a b : List Lexeme) : spelled (a ++ b) = spelled a ++ spelled b := List.flatMap_append

theorem standAppend {a b : List Lexeme} {rest : List Char} :
    Stand (a ++ b) rest ↔ Stand a (spelled b ++ rest) ∧ Stand b rest := by
  induction a with
  | nil => simp [Stand]
  | cons lexeme a ih => simp [Stand, ih, spelledAppend, and_assoc]

theorem openerMarked (quoting : Quoting) : quoting.opener ∈ ['"', '\'', '\x7b'] := by cases quoting <;> decide

theorem openerApart : ∀ a b : Quoting, a.opener = b.opener → a = b := by
  rintro (_ | _ | _) (_ | _ | _) <;> decide

theorem firstSplit {α : Type} {x : α} {a b c d : List α} (same : a ++ x :: b = c ++ x :: d) (first : x ∉ a)
    (second : x ∉ c) : a = c ∧ b = d := by
  induction a generalizing c with
  | nil =>
      cases c with
      | nil => exact ⟨rfl, (List.cons.inj same).2⟩
      | cons y c => exact absurd ((List.cons.inj same).1 ▸ List.mem_cons_self) second
  | cons y a ih =>
      cases c with
      | nil => exact absurd ((List.cons.inj same).1 ▸ List.mem_cons_self) first
      | cons z c =>
          simp only [List.mem_cons, not_or] at first second
          obtain ⟨rfl, tail⟩ := List.cons.inj same
          obtain ⟨rfl, rest⟩ := ih tail first.2 second.2
          exact ⟨rfl, rest⟩

/- No two tokens start at one place: their first characters tell them apart, and then the closer does. -/
theorem lexemeUnique {l m : Lexeme} {r t : List Char} (same : l.text ++ r = m.text ++ t) (first : l.Stands r)
    (second : m.Stands t) : l = m ∧ r = t := by
  obtain ⟨starts, rest⟩ : l.text.head? = m.text.head? ∧ l.text.tail ++ r = m.text.tail ++ t := by
    cases l <;> cases m <;> simpa [Lexeme.text] using same
  cases l with
  | plain c =>
      cases m with
      | plain d => simp_all [Lexeme.text]
      | value quoting body => exact absurd (Option.some.inj starts ▸ openerMarked quoting) first
      | loose quoting => exact absurd (Option.some.inj starts ▸ openerMarked quoting) first
  | value quoting body =>
      cases m with
      | plain d => exact absurd (Option.some.inj starts ▸ openerMarked quoting) second
      | value other inner =>
          obtain rfl := openerApart _ _ (Option.some.inj starts)
          have split : body ++ quoting.closer :: r = inner ++ quoting.closer :: t := by
            simpa [Lexeme.text] using rest
          obtain ⟨rfl, rfl⟩ := firstSplit split first second
          exact ⟨rfl, rfl⟩
      | loose other =>
          obtain rfl := openerApart _ _ (Option.some.inj starts)
          have behind : quoting.closer ∈ t := by
            have whole : body ++ quoting.closer :: r = t := by simpa [Lexeme.text] using rest
            simp [← whole]
          exact absurd behind second
  | loose quoting =>
      cases m with
      | plain d => exact absurd (Option.some.inj starts ▸ openerMarked quoting) second
      | value other inner =>
          obtain rfl := openerApart _ _ (Option.some.inj starts)
          have behind : quoting.closer ∈ r := by
            have whole : r = inner ++ quoting.closer :: t := by simpa [Lexeme.text] using rest
            simp [whole]
          exact absurd behind first
      | loose other =>
          obtain rfl := openerApart _ _ (Option.some.inj starts)
          exact ⟨rfl, rest⟩

theorem textFilled (lexeme : Lexeme) : lexeme.text ≠ [] := by cases lexeme <;> simp [Lexeme.text]

theorem scanUnique {s : List Char} {a b : List Lexeme} (first : Scans s a) (second : Scans s b) : a = b := by
  obtain ⟨rfl, standA⟩ := first
  obtain ⟨same, standB⟩ := second
  induction a generalizing b with
  | nil =>
      cases b with
      | nil => rfl
      | cons m b => simp [spelled, textFilled] at same
  | cons l a ih =>
      cases b with
      | nil => simp [spelled, textFilled] at same
      | cons m b =>
          rw [spelledCons, spelledCons] at same
          rw [Stand, List.append_nil] at standA standB
          obtain ⟨rfl, rest⟩ := lexemeUnique same standA.1 standB.1
          rw [ih standA.2 rest standB.2]

theorem lexemeStarts (c : Char) (s : List Char) :
    ∃ (lexeme : Lexeme) (rest : List Char), c :: s = lexeme.text ++ rest ∧ lexeme.Stands rest := by
  by_cases plain : c ∉ ['"', '\'', '\x7b']
  · exact ⟨.plain c, s, rfl, plain⟩
  · obtain ⟨quoting, rfl⟩ : ∃ quoting : Quoting, c = quoting.opener := by
      simp only [List.mem_cons, List.not_mem_nil, or_false, not_not] at plain
      rcases plain with rfl | rfl | rfl
      · exact ⟨.double, rfl⟩
      · exact ⟨.single, rfl⟩
      · exact ⟨.braces, rfl⟩
    by_cases closed : quoting.closer ∈ s
    · obtain ⟨body, rest, rfl, free⟩ := List.eq_append_cons_of_mem closed
      exact ⟨.value quoting body, rest, by simp [Lexeme.text], free⟩
    · exact ⟨.loose quoting, s, rfl, closed⟩

theorem scanExists (s : List Char) : ∃ lexemes, Scans s lexemes := by
  induction h : s.length using Nat.strongRecOn generalizing s with
  | _ n ih =>
    cases s with
    | nil => exact ⟨[], rfl, trivial⟩
    | cons c s =>
        obtain ⟨lexeme, rest, text, stands⟩ := lexemeStarts c s
        have shorter : rest.length < n := by
          have filled := List.length_pos_iff.mpr (textFilled lexeme)
          rw [← h, text, List.length_append]
          omega
        obtain ⟨lexemes, same, stand⟩ := ih _ shorter rest rfl
        refine ⟨lexeme :: lexemes, ?_, ?_, stand⟩
        · rw [text, spelledCons, same]
        · rwa [List.append_nil, ← same]

theorem spanLexeme {lexeme : Lexeme} {rest : List Char} (stands : lexeme.Stands rest) (inside : lexeme ≠ .plain '>') :
    span none (lexeme.text ++ rest) = (span none rest).map fun (body, after) => (lexeme.text ++ body, after) := by
  cases lexeme with
  | plain c =>
      have other : c ≠ '>' := fun same => inside (congrArg Lexeme.plain same)
      have plain : closer? c = none := by
        unfold closer?
        split <;> simp_all [Lexeme.Stands]
      exact passesPlain other plain rest
  | value quoting body => exact passesEnclosed quoting.pair stands rest
  | loose quoting =>
      have other : quoting.opener ≠ '>' := by cases quoting <;> decide
      have unclosed : opens? quoting.opener rest = none := by
        simpa [opens?, quoting.pair, Option.filter, Lexeme.Stands] using stands
      simp [Lexeme.text, span, other, unclosed]

theorem spanLexemes {lexemes : List Lexeme} {rest : List Char} (stand : Stand lexemes rest)
    (inside : .plain '>' ∉ lexemes) : span none (spelled lexemes ++ rest) =
      (span none rest).map fun (body, after) => (spelled lexemes ++ body, after) := by
  induction lexemes with
  | nil => cases h : span none rest <;> simp [spelled, h]
  | cons lexeme lexemes ih =>
      simp only [List.mem_cons, not_or] at inside
      rw [spelledCons, List.append_assoc, spanLexeme stand.1 (Ne.symm inside.1), ih stand.2 inside.2, Option.map_map]
      exact congrArg (Option.map · _) (funext fun found => by simp)

theorem spanScan {s : List Char} {lexemes : List Lexeme} (scans : Scans s lexemes) {body after : List Char} :
    span none s = some (body, after) ↔ ∃ front later, lexemes = front ++ .plain '>' :: later ∧ .plain '>' ∉ front ∧
      body = spelled front ∧ after = spelled later := by
  obtain ⟨rfl, stand⟩ := scans
  by_cases ends : .plain '>' ∈ lexemes
  · obtain ⟨front, later, rfl, inside⟩ := List.eq_append_cons_of_mem ends
    obtain ⟨here, _⟩ := standAppend.mp stand
    rw [List.append_nil] at here
    have read : span none (spelled (.plain '>' :: later)) = some ([], spelled later) := rfl
    rw [spelledAppend, spanLexemes here inside, read]
    constructor
    · intro found
      cases found
      exact ⟨front, later, rfl, inside, by simp, rfl⟩
    · rintro ⟨other, rest, same, apart, rfl, rfl⟩
      obtain ⟨rfl, rfl⟩ := firstSplit same inside apart
      simp
  · have none : span none (spelled lexemes ++ []) = none := by
      rw [spanLexemes stand ends]
      rfl
    rw [List.append_nil] at none
    rw [none]
    constructor
    · intro found
      contradiction
    · rintro ⟨front, later, rfl, _⟩
      simp at ends

structure Way where
  name : List Char
  lexemes : List Lexeme
  after : List Char
  deriving DecidableEq, Repr

namespace Way

structure Reads (way : Way) (signs s : List Char) : Prop where
  named : Named s way.name (spelled way.lexemes ++ (signs ++ '>' :: way.after))
  inside : .plain '>' ∉ way.lexemes
  stand : Stand way.lexemes (signs ++ '>' :: way.after)

def head (way : Way) : Head := ⟨way.name, spelled way.lexemes⟩

end Way

theorem signStands {c : Char} (plain : c ∉ ['"', '\'', '\x7b']) (rest : List Char) : Lexeme.Stands rest (.plain c) :=
  plain

theorem readsSlash {name s after : List Char} {lexemes : List Lexeme} :
    (⟨name, lexemes, after⟩ : Way).Reads ['/'] s ↔ (⟨name, lexemes ++ [.plain '/'], after⟩ : Way).Reads [] s := by
  have text : spelled (lexemes ++ [.plain '/']) ++ '>' :: after = spelled lexemes ++ '/' :: '>' :: after := by
    simp [spelled, Lexeme.text]
  constructor
  · rintro ⟨named, inside, stand⟩
    refine ⟨?_, by simpa using inside, standAppend.mpr ⟨stand, signStands (by decide) _, trivial⟩⟩
    rw [List.nil_append, text]
    exact named
  · rintro ⟨named, inside, stand⟩
    rw [List.nil_append, text] at named
    exact ⟨named, by simpa using inside, (standAppend.mp stand).1⟩

theorem readsScan {s name body : List Char} (named : Named s name body) {lexemes : List Lexeme}
    (scans : Scans body lexemes) {way : Way} : way.Reads [] s ↔ way.name = name ∧ ∃ later,
      lexemes = way.lexemes ++ .plain '>' :: later ∧ .plain '>' ∉ way.lexemes ∧ way.after = spelled later := by
  constructor
  · rintro ⟨other, inside, stand⟩
    obtain ⟨same, rfl⟩ := namedUnique other named
    obtain ⟨later, after, rest⟩ := scanExists way.after
    refine ⟨same, later, scanUnique scans ⟨?_, ?_⟩, inside, after⟩
    · rw [spelledAppend, spelledCons, ← after]
      rfl
    · rw [standAppend, List.append_nil, spelledCons, ← after]
      exact ⟨stand, signStands (by decide) _, rest⟩
  · rintro ⟨rfl, later, rfl, inside, after⟩
    obtain ⟨rfl, stand⟩ := scans
    rw [standAppend, List.append_nil, spelledCons, ← after] at stand
    rw [spelledAppend, spelledCons, ← after] at named
    exact ⟨named, inside, stand.1⟩

theorem headReads {s : List Char} {head : Head} {after : List Char} :
    head? s = some (head, after) ↔ ∃ way : Way, way.Reads [] s ∧ way.head = head ∧ way.after = after := by
  rw [headNamed]
  constructor
  · rintro ⟨body, named, found⟩
    obtain ⟨lexemes, scans⟩ := scanExists body
    obtain ⟨front, later, same, inside, text, rfl⟩ := (spanScan scans).mp found
    refine ⟨⟨head.name, front, spelled later⟩, (readsScan named scans).mpr ⟨rfl, later, same, inside, rfl⟩, ?_, rfl⟩
    rw [Way.head, ← text]
  · rintro ⟨way, reads, rfl, rfl⟩
    obtain ⟨lexemes, scans⟩ := scanExists (spelled way.lexemes ++ ([] ++ '>' :: way.after))
    obtain ⟨_, later, same, inside, after⟩ := (readsScan reads.named scans).mp reads
    exact ⟨_, reads.named, (spanScan scans).mpr ⟨way.lexemes, later, same, inside, rfl, after⟩⟩

theorem lexemeSlash {lexeme : Lexeme} (last : lexeme.text.getLast? = some '/') : lexeme = .plain '/' := by
  cases lexeme with
  | plain c => exact congrArg Lexeme.plain (by simpa [Lexeme.text] using last)
  | value quoting body =>
      have close : quoting.closer = '/' := by simpa [Lexeme.text, List.getLast?_cons] using last
      exact absurd (by simp [close]) quoting.closerMark
  | loose quoting =>
      have start : quoting.opener = '/' := by simpa [Lexeme.text] using last
      exact absurd (by simp [start]) quoting.openerMark

theorem spelledSlash {lexemes : List Lexeme} :
    (spelled lexemes).getLast? = some '/' ↔ ∃ front, lexemes = front ++ [.plain '/'] := by
  constructor
  · intro last
    rcases lexemes.eq_nil_or_concat with rfl | ⟨front, lexeme, rfl⟩
    · simp [spelled] at last
    · rw [List.concat_eq_append, spelledAppend, List.getLast?_append_of_ne_nil] at last
      · have same : lexeme = .plain '/' := lexemeSlash (by simpa [spelled] using last)
        exact ⟨front, by rw [same, List.concat_eq_append]⟩
      · simpa [spelled] using textFilled lexeme
  · rintro ⟨front, rfl⟩
    simp [spelled, Lexeme.text]

theorem selfClosingReads {s : List Char} {head : Head} {after : List Char} :
    selfClosing? s = some (head, after) ↔ ∃ way : Way, way.Reads ['/'] s ∧ way.head = head ∧ way.after = after := by
  simp only [selfClosing?, bind, Option.bind_eq_some_iff]
  constructor
  · rintro ⟨⟨whole, rest⟩, read, found⟩
    split at found <;> try contradiction
    rename_i last
    cases found
    obtain ⟨way, reads, rfl, rfl⟩ := headReads.mp read
    obtain ⟨name, lexemes, after⟩ := way
    obtain ⟨front, rfl⟩ := spelledSlash.mp last
    refine ⟨⟨name, front, after⟩, readsSlash.mpr reads, ?_, rfl⟩
    simp [Way.head, spelled, Lexeme.text]
  · rintro ⟨⟨name, lexemes, after⟩, reads, rfl, rfl⟩
    have whole := headReads.mpr ⟨_, readsSlash.mp reads, rfl, rfl⟩
    refine ⟨_, whole, ?_⟩
    simp [Way.head, spelled, Lexeme.text]

theorem pairedReads {s : List Char} {item : Head × List Char} {after : List Char} :
    paired? s = some (item, after) ↔ ∃ way : Way, way.Reads [] s ∧ way.head = item.1 ∧
      until? (closingTag way.name) way.after = some (item.2, after) := by
  simp only [paired?, bind, Option.bind_eq_some_iff]
  constructor
  · rintro ⟨⟨head, rest⟩, read, ⟨content, tail⟩, closes, same⟩
    cases same
    obtain ⟨way, reads, rfl, rfl⟩ := headReads.mp read
    exact ⟨way, reads, rfl, closes⟩
  · rintro ⟨way, reads, same, closes⟩
    refine ⟨(way.head, way.after), headReads.mpr ⟨way, reads, rfl, rfl⟩, (item.2, after), closes, ?_⟩
    rw [same]

theorem readsUnique {a b : Way} {s : List Char} (first : a.Reads [] s) (second : b.Reads [] s) : a = b := by
  obtain ⟨lexemes, scans⟩ := scanExists (spelled a.lexemes ++ ([] ++ '>' :: a.after))
  obtain ⟨_, later, same, inside, after⟩ := (readsScan first.named scans).mp first
  obtain ⟨name, rest, again, apart, behind⟩ := (readsScan first.named scans).mp second
  obtain ⟨front, rfl⟩ := firstSplit (same.symm.trans again) inside apart
  cases a
  cases b
  simp_all

theorem readsScanSlash {s name body : List Char} (named : Named s name body) {lexemes : List Lexeme}
    (scans : Scans body lexemes) {way : Way} : way.Reads ['/'] s ↔ way.name = name ∧ ∃ later,
      lexemes = way.lexemes ++ .plain '/' :: .plain '>' :: later ∧ .plain '>' ∉ way.lexemes ∧
        way.after = spelled later := by
  rw [readsSlash, readsScan named scans]
  simp

/- One token at most starts at a place, and behind a name the tokens are given. So a head has one reading at most: it
ends at the first greater-than sign that is a token, and it closes itself if the token in front of that is a slash. The
readers find this reading and no other. -/
theorem headsUnambiguous (s : List Char) :
    (∀ (l m : Lexeme) (r t : List Char), s = l.text ++ r → s = m.text ++ t → l.Stands r → m.Stands t → l = m ∧ r = t) ∧
    (∀ a b : Way, a.Reads [] s → b.Reads [] s → a = b) ∧ (∀ a b : Way, a.Reads ['/'] s → b.Reads ['/'] s → a = b) ∧
    (∀ name body, Named s name body → ∃ lexemes, (∀ other, Scans body other ↔ other = lexemes) ∧
      (∀ way : Way, way.Reads [] s ↔ way.name = name ∧ ∃ later,
        lexemes = way.lexemes ++ .plain '>' :: later ∧ .plain '>' ∉ way.lexemes ∧ way.after = spelled later) ∧
      ∀ way : Way, way.Reads ['/'] s ↔ way.name = name ∧ ∃ later,
        lexemes = way.lexemes ++ .plain '/' :: .plain '>' :: later ∧ .plain '>' ∉ way.lexemes ∧
          way.after = spelled later) ∧
    (∀ head after, head? s = some (head, after) ↔
      ∃ way : Way, way.Reads [] s ∧ way.head = head ∧ way.after = after) ∧
    (∀ head after, selfClosing? s = some (head, after) ↔
      ∃ way : Way, way.Reads ['/'] s ∧ way.head = head ∧ way.after = after) ∧
    ∀ item after, paired? s = some (item, after) ↔ ∃ way : Way, way.Reads [] s ∧ way.head = item.1 ∧
      way.after = item.2 ++ closingTag way.name ++ after ∧ ¬ closingTag way.name <:+: item.2 := by
  refine ⟨?_, fun _ _ => readsUnique, ?_, ?_, fun _ _ => headReads, fun _ _ => selfClosingReads, ?_⟩
  · rintro l m r t rfl same stands other
    exact lexemeUnique same stands other
  · rintro ⟨name, front, after⟩ ⟨other, back, rest⟩ first second
    have same := readsUnique (readsSlash.mp first) (readsSlash.mp second)
    simpa using same
  · intro name body named
    obtain ⟨lexemes, scans⟩ := scanExists body
    refine ⟨lexemes, fun other => ⟨fun again => scanUnique again scans, ?_⟩, fun _ => readsScan named scans,
      fun _ => readsScanSlash named scans⟩
    rintro rfl
    exact scans
  · intro item after
    rw [pairedReads]
    refine exists_congr fun way => and_congr_right fun reads => and_congr_right fun _ => ⟨fun closes => ?_, ?_⟩
    · exact ⟨(untilAppend closes).symm, untilEarliest (by simp [closingTag]) closes⟩
    · rintro ⟨text, first⟩
      rw [text, List.append_assoc]
      exact untilClosingTag reads.named.word first after

def looseWay : Way where
  name := "Img".toList
  lexemes := " a=".toList.map .plain ++ [.value .double "x>b".toList, .plain ' ', .loose .braces] ++
    "y=".toList.map .plain ++ [.value .single "/>".toList, .plain ' ', .loose .double]
  after := "more>".toList

theorem headsUnambiguousLoose : ∃ s body later, s = '<' :: ("Img".toList ++ body) ∧
    body = " a=\"x>b\" \x7by='/>' \"/>more>".toList ∧ Named s "Img".toList body ∧
    (∀ lexemes, Scans body lexemes ↔ lexemes = looseWay.lexemes ++ .plain '/' :: .plain '>' :: later) ∧
    looseWay.Reads ['/'] s ∧ (∀ way : Way, way.Reads ['/'] s ↔ way = looseWay) ∧
    selfClosing? s = some (⟨"Img".toList, " a=\"x>b\" \x7by='/>' \"".toList⟩, "more>".toList) := by
  have named : Named "<Img a=\"x>b\" \x7by='/>' \"/>more>".toList "Img".toList
    " a=\"x>b\" \x7by='/>' \"/>more>".toList := ⟨rfl, by decide, by decide, by simp; decide⟩
  have reads : looseWay.Reads ['/'] "<Img a=\"x>b\" \x7by='/>' \"/>more>".toList :=
    ⟨named, by decide, by decide⟩
  obtain ⟨-, -, unique, cut, -, found, -⟩ := headsUnambiguous "<Img a=\"x>b\" \x7by='/>' \"/>more>".toList
  obtain ⟨lexemes, scans, -, closing⟩ := cut _ _ named
  obtain ⟨-, later, rfl, -⟩ := (closing looseWay).mp reads
  refine ⟨_, _, later, rfl, rfl, named, scans, reads, fun way => ⟨fun other => unique way looseWay other reads, ?_⟩, ?_⟩
  · rintro rfl
    exact reads
  · exact (found _ _).mpr ⟨looseWay, reads, by decide, by decide⟩

end EmailMarkup.Markup
