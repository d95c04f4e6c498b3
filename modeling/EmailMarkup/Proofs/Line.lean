import EmailMarkup.Proofs.Block
import EmailMarkup.Proofs.Token
import EmailMarkup.Stream.Lines

/-! Lines of a written block, whole or torn off, and what keeps them. The first line opens its tag as soon as one
character of the name has come, and up to its end it neither closes the tag nor holds a whole element. The lines of the
text are content, and so is the closing line until it is complete. -/
namespace EmailMarkup.Stream
open Markup (Tag Node Apart TagFree Swept places selfClosing? closingTag paired? elementsOf apartWithout apartPrefix
  apartSuffix apartJoin)
open Text (isBlank isWord strip stripEnd lines linesWithout occurs prefixSplit)

def EndFree (s : List Char) : Prop := Apart '/' (· == '>') s

/-- A name and the start of a span that hold neither a further tag nor the end of one that closes itself. -/
structure Opener (name s : List Char) : Prop where
  filled : name ≠ []
  all : ∀ c ∈ name, isWord c = true
  stop : ∀ c ∈ s.head?, isBlank c = true ∨ c = '>'
  clear : '<' ∉ s
  endFree : EndFree s

theorem placesWithout {α : Type} {test : List Char → Option α} (start : ∀ c rest, c ≠ '<' → test (c :: rest) = none)
    {s : List Char} (clear : '<' ∉ s) : places test s = [] := by
  simpa [places] using Markup.placesClear start clear []

theorem selfClosingStart (c : Char) (rest : List Char) (other : c ≠ '<') : selfClosing? (c :: rest) = none :=
  Markup.selfClosingNone (Markup.headNone fun same => absurd same other)

theorem openingStart (c : Char) (rest : List Char) (other : c ≠ '<') : openingHere? (c :: rest) = none := by
  rw [openingHere?, Markup.openingElsewhere true c rest other]
  rfl

theorem closingStart (c : Char) (rest : List Char) (other : c ≠ '<') : closingHere? (c :: rest) = none := by
  rw [closingHere?, Markup.closingElsewhere c rest other]
  rfl

theorem roleClear {line : List Char} (clear : '<' ∉ line) : role line = .content := by
  have visible : '<' ∉ strip line := fun h => clear ((Text.stripInfix line).subset h)
  rw [role, roleOf, placesWithout selfClosingStart visible, placesWithout openingStart visible,
    placesWithout closingStart visible]
  simp

theorem sweepTagFree {α : Type} {read? : Markup.Reader α} (start : ∀ s, Markup.head? s = none → read? s = none)
    {s : List Char} (free : TagFree s) : Markup.sweep read? s = ⟨[], s⟩ := by
  induction s with
  | nil => rfl
  | cons c s ih =>
      have here := start _ (Markup.headTagFree free)
      rw [Markup.sweepChar here, ih (apartSuffix free (List.suffix_cons c s))]
      rfl

theorem roleWhole {line : List Char} {found : Markup.Head × List Char}
    (single : selfClosing? (strip line) = some found) : role line = .whole := by
  have some : (places selfClosing? (strip line)).isEmpty = false := by
    cases visible : strip line with
    | nil => simp [visible, selfClosing?, Markup.head?] at single
    | cons c rest =>
        rw [visible] at single
        simp [places, single]
  rw [role, roleOf, some]
  rfl

theorem placesTagFree {s : List Char} (free : TagFree s) : places selfClosing? s = [] := by
  induction s with
  | nil => rfl
  | cons c s ih =>
      rw [places, Markup.selfClosingNone (Markup.headTagFree free), ih (apartSuffix free (List.suffix_cons c s))]
      rfl

theorem headPrefix {kind : Char → Prop} {t s : List Char} (start : t <+: s) (all : ∀ c ∈ s.head?, kind c) :
    ∀ c ∈ t.head?, kind c := by
  obtain ⟨rest, rfl⟩ := start
  intro c h
  exact all c (by simp [List.head?_append, Option.mem_def.mp h])

def Tagless (s : List Char) : Prop := Apart '<' (fun c => isWord c || c == '/') s
instance (s) : Decidable (Tagless s) := by unfold Tagless; infer_instance

namespace Tagless

variable {s : List Char} (tagless : Tagless s)
include tagless

theorem tagFree : TagFree s := by
  refine List.IsChain.imp (fun a b apart sign => ?_) tagless
  exact (Bool.or_eq_false_iff.mp (apart sign)).1

theorem unclosed (name : List Char) : ¬ closingTag name <:+: s := by
  rintro ⟨before, after, rfl⟩
  have apart : Apart '<' (fun c => isWord c || c == '/') (closingTag name) :=
    apartPrefix (apartSuffix tagless (by rw [List.append_assoc]; exact List.suffix_append _ _)) (List.prefix_append _ _)
  exact absurd (Markup.apartHead apart '/' rfl) (by decide)

end Tagless

section Named

variable {name : List Char} (filled : name ≠ []) (all : ∀ c ∈ name, isWord c = true)
include filled all

theorem stripNamed (s : List Char) : strip ('<' :: (name ++ s)) = '<' :: (name ++ stripEnd s) := by
  have visible : ∃ c ∈ name.getLast?, isBlank c = false := by
    refine ⟨name.getLast filled, List.getLast?_eq_some_getLast filled, ?_⟩
    exact Text.wordNoBlank (all _ (List.getLast_mem _))
  rw [Text.stripVisible (by decide), Text.stripEndBehind visible]

theorem slashNamed (s other : List Char) : ¬ '<' :: '/' :: other <+: '<' :: (name ++ s) := by
  intro starts
  obtain ⟨first, rest, rfl⟩ := List.exists_cons_of_ne_nil filled
  have slash : '/' = first := (List.cons_prefix_cons.mp (List.cons_prefix_cons.mp starts).2).1
  exact Text.outsideAll all (c := '/') (by decide) (slash ▸ List.mem_cons_self)

theorem unslashed (s : List Char) : "</".toList.isPrefixOf ('<' :: (name ++ s)) = false := by
  rw [← Bool.not_eq_true, List.isPrefixOf_iff_prefix]
  exact slashNamed filled all s []

theorem openingFirst {s : List Char} (stop : ∀ c ∈ s.head?, isBlank c = true ∨ c = '>') :
    (places openingHere? ('<' :: (name ++ s))).head? = some (name, '<' :: (name ++ s)) := by
  rw [places, openingHere?, Markup.openingNamed filled all stop (.inr rfl)]
  rfl

theorem unclosedNamed {s : List Char} (tagless : Tagless s) (other : List Char) :
    ¬ closingTag other <:+: '<' :: (name ++ s) := by
  intro inside
  rcases List.infix_cons_iff.mp inside with starts | later
  · exact slashNamed filled all s _ starts
  · exact tagless.unclosed other (Text.infixBehind (Markup.clearName all) later)

theorem roleOpens {s : List Char} (stop : ∀ c ∈ s.head?, isBlank c = true ∨ c = '>') (tagless : Tagless s)
    (unended : selfClosing? ('<' :: (name ++ stripEnd s)) = none) : role ('<' :: (name ++ s)) = .opens name := by
  have short : stripEnd s <+: s := Text.stripEndPrefix s
  have apart := unslashed filled all (stripEnd s)
  have single : places selfClosing? ('<' :: (name ++ stripEnd s)) = [] := by
    have free : TagFree (stripEnd s) := apartPrefix tagless.tagFree short
    rw [places, unended, Markup.placesClear selfClosingStart (Markup.clearName all), placesTagFree free]
    rfl
  have opening := openingFirst filled all (headPrefix short stop)
  have closing : occurs (closingTag name) ('<' :: (name ++ stripEnd s)) = false := by
    rw [← Bool.not_eq_true, Text.occursIff]
    exact unclosedNamed filled all (apartPrefix tagless short) name
  rw [role, stripNamed filled all, roleOf, single, apart]
  simp [opening, closing]

end Named

namespace Opener

variable {name s : List Char}

theorem torn (opener : Opener name s) {t : List Char} (start : t <+: s) : Opener name t where
  filled := opener.filled
  all := opener.all
  stop := headPrefix start opener.stop
  clear := fun h => opener.clear (start.subset h)
  endFree := apartPrefix opener.endFree start

theorem named (opener : Opener name s) {w : List Char} (start : w <+: name) (filled : w ≠ []) : Opener w [] where
  filled := filled
  all := fun c h => opener.all c (start.subset h)
  stop := by simp
  clear := by simp
  endFree := List.isChain_nil

theorem slashless (opener : Opener name s) : '/' ∉ name := Text.outsideAll opener.all (by decide)

theorem line (opener : Opener name s) : '<' ∉ name ++ s ∧ EndFree ('<' :: (name ++ s)) := by
  have sign : '<' ∉ name := Text.outsideAll opener.all (by decide)
  have slash : '/' ∉ '<' :: name := by simpa using opener.slashless
  refine ⟨by simp [sign, opener.clear], ?_⟩
  exact apartJoin (apartWithout slash) opener.endFree (.inl (Markup.notLastWithout slash))

theorem unended (opener : Opener name s) : selfClosing? ('<' :: (name ++ s)) = none := by
  rw [Option.eq_none_iff_forall_not_mem]
  rintro ⟨head, after⟩ found
  have text := Markup.selfClosingAppend found
  have ends : '/' :: '>' :: after <:+ '<' :: (name ++ s) := by
    rw [text, ← List.append_assoc, ← List.cons_append]
    exact List.suffix_append _ _
  have apart := Markup.apartHead (apartSuffix opener.line.2 ends) '>' rfl
  contradiction

theorem unclosed (opener : Opener name s) (other : List Char) : ¬ closingTag other <:+: '<' :: (name ++ s) :=
  unclosedNamed opener.filled opener.all (apartWithout opener.clear) other

theorem role (opener : Opener name s) : Stream.role ('<' :: (name ++ s)) = .opens name :=
  roleOpens opener.filled opener.all opener.stop (apartWithout opener.clear)
    (opener.torn (Text.stripEndPrefix s)).unended

theorem start (opener : Opener name s) {q : List Char} (start : q <+: '<' :: (name ++ s)) :
    q = [] ∨ q = ['<'] ∨ ∃ w t, q = '<' :: (w ++ t) ∧ Opener w t := by
  rcases List.prefix_cons_iff.mp start with rfl | ⟨r, rfl, behind⟩
  · exact .inl rfl
  · right
    rcases prefixSplit behind with inside | ⟨t, rfl, rest⟩
    · by_cases empty : r = []
      · exact .inl (by rw [empty])
      · exact .inr ⟨r, [], by rw [List.append_nil], opener.named inside empty⟩
    · exact .inr ⟨name, t, rfl, opener.torn rest⟩

end Opener

theorem roleSingle {tag : Tag} (valid : tag.Valid) : role (Node.single tag).text = .whole := by
  have visible : strip (Node.single tag).text = (Node.single tag).text := by
    have text : (Node.single tag).text = '<' :: (tag.name ++ (tag.span ++ ['/']) ++ ['>']) := by simp [Node.text]
    rw [text, Text.stripBoth (by decide) (by decide)]
  have found := Markup.selfClosingSingle valid []
  rw [List.append_nil, ← visible] at found
  exact roleWhole found

theorem roleClosing (kind : Kind) : role (closingTag kind.tag.toList) = .closes kind.tag.toList := by
  cases kind <;> decide

theorem roleClosingTorn (kind : Kind) :
    ∀ q ∈ (closingTag kind.tag.toList).inits, q ≠ closingTag kind.tag.toList → role q = .content := by
  cases kind <;> decide

namespace Kept

def keepAll (kept : Kept) (lines : List (List Char)) : Kept := { kept with latest := lines.reverse ++ kept.latest }

def push (kept : Kept) (name : List Char) : Kept := { kept with stack := name :: kept.stack }

theorem keepAllLines (kept : Kept) (ls : List (List Char)) : (kept.keepAll ls).lines = kept.lines ++ ls := by
  simp [keepAll, lines]

theorem keepAllAppend (kept : Kept) (a b : List (List Char)) :
    kept.keepAll (a ++ b) = (kept.keepAll a).keepAll b := by
  simp [keepAll]

theorem stepWhole {kept : Kept} {line : List Char} (whole : role line = .whole) :
    kept.step line = kept.keepAll [line] := by
  rw [step, whole]
  rfl

theorem stepOpens {kept : Kept} {line name : List Char} (opens : role line = .opens name) :
    kept.step line = (kept.keepAll [line]).push name := by
  rw [step, opens]
  rfl

theorem stepCloses {kept : Kept} {line name : List Char} (closes : role line = .closes name) :
    (kept.push name).step line = kept.keepAll [line] := by
  rw [step, closes]
  exact if_pos rfl

theorem stepContent {kept : Kept} {line : List Char} (content : role line = .content) (name : List Char) :
    (kept.push name).step line = (kept.keepAll [line]).push name := by
  rw [step, content]
  rfl

theorem stepDropped {kept : Kept} {line : List Char} (content : role line = .content) (shut : kept.stack = []) :
    kept.step line = kept := by
  rw [step, content]
  exact if_pos (by simp [shut])

theorem runSingle (kept : Kept) (line : List Char) : kept.run [line] = kept.step line := rfl

theorem runContent {kept : Kept} {ls : List (List Char)} (content : ∀ line ∈ ls, role line = .content)
    (name : List Char) : (kept.push name).run ls = (kept.keepAll ls).push name := by
  induction ls generalizing kept with
  | nil => rfl
  | cons line ls ih =>
      have first : (kept.push name).run (line :: ls) = ((kept.push name).step line).run ls := rfl
      rw [first, stepContent (content line List.mem_cons_self), ih fun l h => content l (List.mem_cons_of_mem _ h),
        ← keepAllAppend, List.singleton_append]

theorem runDropped {kept : Kept} {ls : List (List Char)} (content : ∀ line ∈ ls, role line = .content)
    (shut : kept.stack = []) : kept.run ls = kept := by
  induction ls with
  | nil => rfl
  | cons line ls ih =>
      have first : kept.run (line :: ls) = (kept.step line).run ls := rfl
      rw [first, stepDropped (content line List.mem_cons_self) shut]
      exact ih fun l h => content l (List.mem_cons_of_mem _ h)

end Kept

theorem linesClear {s : List Char} (clear : '<' ∉ s) : ∀ line ∈ lines s, role line = .content :=
  fun _ h => roleClear fun inside => clear (Text.linesInside h inside)

namespace Opener

variable {name s q : List Char}

theorem run (opener : Opener name s) (single : '\n' ∉ q) (start : q <+: '<' :: (name ++ s)) {kept : Kept}
    (shut : kept.stack = []) : kept.run (lines q) = kept ∨
      ∃ w, kept.run (lines q) = (kept.keepAll (lines q)).push w ∧ q ≠ [] := by
  rw [linesWithout single, Kept.runSingle]
  rcases opener.start start with rfl | rfl | ⟨w, t, rfl, torn⟩
  · exact .inl (Kept.stepDropped (roleClear (by simp)) shut)
  · exact .inl (Kept.stepDropped (by decide) shut)
  · exact .inr ⟨w, Kept.stepOpens torn.role, by simp⟩

end Opener

theorem elementsNone {c : Char} {s : List Char} (free : TagFree s) (single : selfClosing? (c :: s) = none)
    (pair : paired? (c :: s) = none) : elementsOf (c :: s) = [] := by
  have first : Markup.sweep selfClosing? s = ⟨[], s⟩ := sweepTagFree (fun _ => Markup.selfClosingNone) free
  have second : Markup.sweep paired? s = ⟨[], s⟩ := sweepTagFree (fun _ => Markup.pairedNone) free
  rw [elementsOf, Markup.selfClosing, Markup.sweepChar single, first, Swept.keep, Markup.paired,
    Markup.sweepChar pair, second]
  rfl

theorem Opener.silent {name s q : List Char} (opener : Opener name s) (start : q <+: '<' :: (name ++ s)) :
    elementsOf q = [] := by
  rcases opener.start start with rfl | rfl | ⟨w, t, rfl, torn⟩
  · rfl
  · rfl
  · refine elementsNone (apartWithout torn.line.1) torn.unended ?_
    rw [Option.eq_none_iff_forall_not_mem]
    rintro ⟨item, after⟩ found
    refine torn.unclosed item.1.name ?_
    rw [Markup.pairedAppend found]
    exact ⟨'<' :: (item.1.name ++ (item.1.span ++ '>' :: item.2)), after, by simp⟩

end EmailMarkup.Stream
