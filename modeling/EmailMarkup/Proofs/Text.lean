import EmailMarkup.Text.Blank
import EmailMarkup.Text.Word
import EmailMarkup.Text.Lines
import Mathlib.Data.List.TakeWhile

/-! Blanks at the ends of a text, the word at its start, its lines and its bytes. A text that goes on behind a chunk has
the complete lines of the chunk, and then the lines of what remains. -/
namespace EmailMarkup.Text

/- What holds of every character of a text is decided along the text, not over all characters. -/
instance decidableAlong {kind : Char → Prop} [DecidablePred kind] (s : List Char) : Decidable (∀ c ∈ s, kind c) :=
  List.decidableBAll kind s

def blankCodes : List Nat :=
  List.range' 0x9 5 ++ List.range' 0x1c 5 ++ [0x85, 0xa0, 0x1680] ++ List.range' 0x2000 11 ++
    [0x2028, 0x2029, 0x202f, 0x205f, 0x3000]

theorem blankCode {c : Char} (blank : isBlank c = true) : c.toNat ∈ blankCodes := by
  simp only [isBlank, Bool.or_eq_true, Bool.and_eq_true, decide_eq_true_eq, beq_iff_eq] at blank
  simp only [blankCodes, List.mem_append, List.mem_range'_1, List.mem_cons, List.not_mem_nil]
  omega

theorem blankCodesNoWord : ∀ n ∈ blankCodes, isWord (Char.ofNat n) = false := by decide +kernel

theorem blankNoWord {c : Char} (blank : isBlank c = true) : isWord c = false := by
  have h := blankCodesNoWord _ (blankCode blank)
  rwa [Char.ofNat_toNat] at h

theorem wordNoBlank {c : Char} (h : isWord c = true) : isBlank c = false := by
  cases blank : isBlank c with
  | false => rfl
  | true => rw [blankNoWord blank] at h; contradiction

theorem outsideAll {kind : Char → Bool} {s : List Char} {c : Char} (all : ∀ d ∈ s, kind d = true)
    (other : kind c = false) : c ∉ s := by
  intro inside
  rw [all c inside] at other
  contradiction

theorem wordSplit {name s : List Char} (all : ∀ c ∈ name, isWord c = true)
    (stop : ∀ c ∈ s.head?, isWord c = false) : word (name ++ s) = (name, s) := by
  have none : s.takeWhile isWord = [] ∧ s.dropWhile isWord = s := by
    cases s with
    | nil => exact ⟨rfl, rfl⟩
    | cons c rest => simp [stop c rfl]
  rw [word, List.takeWhile_append_of_pos all, List.dropWhile_append_of_pos all, none.1, none.2, List.append_nil]

theorem wordStops (s : List Char) : ∀ c ∈ (word s).2.head?, isWord c = false := by
  intro c h
  have stop := List.head?_dropWhile_not isWord s
  rwa [show (s.dropWhile isWord).head? = some c from h] at stop

theorem wordBehind (s : List Char) {c : Char} (stop : isWord c = false) (rest : List Char) :
    word (s ++ c :: rest) = ((word s).1, (word s).2 ++ c :: rest) := by
  induction s with
  | nil => simp [word, stop]
  | cons d s ih =>
      simp only [word, Prod.mk.injEq] at ih ⊢
      cases h : isWord d <;> simp [h, ih]

theorem stripEndBlanks (s : List Char) {b : List Char} (blank : ∀ c ∈ b, isBlank c = true) :
    stripEnd (s ++ b) = stripEnd s := by
  have all : ∀ c ∈ b.reverse, isBlank c = true := fun c h => blank c (List.mem_reverse.mp h)
  rw [stripEnd, List.reverse_append, List.dropWhile_append_of_pos all, stripEnd]

theorem stripEndAppend (s : List Char) {t : List Char} (kept : ∃ c ∈ t, isBlank c = false) :
    stripEnd (s ++ t) = s ++ stripEnd t := by
  have some : (t.reverse.dropWhile isBlank).isEmpty = false := by
    obtain ⟨c, h, visible⟩ := kept
    rw [List.isEmpty_eq_false_iff, ne_eq, List.dropWhile_eq_nil_iff]
    intro all
    rw [all c (List.mem_reverse.mpr h)] at visible
    contradiction
  simp [stripEnd, List.dropWhile_append, some]

theorem stripEndPrefix (s : List Char) : stripEnd s <+: s := by
  have h := List.reverse_prefix.mpr (List.dropWhile_suffix (l := s.reverse) isBlank)
  rwa [List.reverse_reverse] at h

theorem stripEndAllBlank {s : List Char} (blank : ∀ c ∈ s, isBlank c = true) : stripEnd s = [] := by
  simpa [stripEnd] using blank

theorem stripStartVisible {c : Char} {s : List Char} (visible : isBlank c = false) :
    stripStart (c :: s) = c :: s := by
  simp [stripStart, visible]

theorem stripEndVisible {c : Char} {s : List Char} (visible : isBlank c = false) :
    stripEnd (c :: s) = c :: stripEnd s := by
  cases blank : s.all isBlank with
  | true =>
      have all := List.all_eq_true.mp blank
      rw [stripEndAllBlank all, ← List.singleton_append, stripEndBlanks [c] all]
      simp [stripEnd, visible]
  | false =>
      obtain ⟨d, h, hd⟩ := List.all_eq_false.mp blank
      have kept : ∃ d ∈ s, isBlank d = false := ⟨d, h, by simpa using hd⟩
      rw [← List.singleton_append, stripEndAppend [c] kept, List.singleton_append]

theorem stripEndBehind {s : List Char} (visible : ∃ c ∈ s.getLast?, isBlank c = false) (t : List Char) :
    stripEnd (s ++ t) = s ++ stripEnd t := by
  obtain ⟨c, last, visible⟩ := visible
  obtain ⟨front, rfl⟩ := List.getLast?_eq_some_iff.mp last
  rw [List.append_assoc, List.singleton_append, stripEndAppend front ⟨c, List.mem_cons_self, visible⟩,
    stripEndVisible visible, List.append_assoc, List.singleton_append]

theorem stripVisible {c : Char} {s : List Char} (visible : isBlank c = false) :
    strip (c :: s) = c :: stripEnd s := by
  rw [strip, stripStartVisible visible, stripEndVisible visible]

theorem stripBoth {first last : Char} (start : isBlank first = false) (stop : isBlank last = false) (s : List Char) :
    strip (first :: (s ++ [last])) = first :: (s ++ [last]) := by
  rw [stripVisible start, stripEndAppend s ⟨last, List.mem_singleton_self last, stop⟩, stripEndVisible stop]
  rfl

theorem stripBetween {a s b : List Char} (before : ∀ c ∈ a, isBlank c = true)
    (after : ∀ c ∈ b, isBlank c = true) : strip (a ++ s ++ b) = strip s := by
  have start : stripStart (a ++ s ++ b) = stripStart (s ++ b) := by
    rw [stripStart, List.append_assoc, List.dropWhile_append_of_pos before, stripStart]
  rw [strip, start, stripStart, List.dropWhile_append]
  split
  · rename_i empty
    have gone : stripStart s = [] := List.isEmpty_iff.mp empty
    have all : ∀ c ∈ b.dropWhile isBlank, isBlank c = true :=
      fun c h => after c ((List.dropWhile_suffix isBlank).subset h)
    rw [strip, gone, stripEndAllBlank all]
    rfl
  · exact stripEndBlanks _ after

theorem stripSplit (s : List Char) : ∃ a b, s = a ++ strip s ++ b ∧ (∀ c ∈ a, isBlank c = true) ∧
    ∀ c ∈ b, isBlank c = true := by
  have back : stripStart s = strip s ++ ((stripStart s).reverse.takeWhile isBlank).reverse := by
    rw [strip, stripEnd, ← List.reverse_append, List.takeWhile_append_dropWhile, List.reverse_reverse]
  have whole : s.takeWhile isBlank ++ stripStart s = s := List.takeWhile_append_dropWhile
  rw [back, ← List.append_assoc] at whole
  exact ⟨_, _, whole.symm, fun c h => List.mem_takeWhile_imp h,
    fun c h => List.mem_takeWhile_imp (List.mem_reverse.mp h)⟩

theorem stripTwice (s : List Char) : strip (strip s) = strip s := by
  obtain ⟨a, b, whole, before, after⟩ := stripSplit s
  rw [← stripBetween before after, ← whole]

theorem stripInfix (s : List Char) : strip s <:+: s :=
  (stripEndPrefix _).isInfix.trans (List.dropWhile_suffix isBlank).isInfix

theorem infixBehind {c : Char} {mark a s : List Char} (absent : c ∉ a) (h : (c :: mark) <:+: a ++ s) :
    (c :: mark) <:+: s := by
  induction a with
  | nil => exact h
  | cons d a ih =>
      simp only [List.mem_cons, not_or] at absent
      rcases List.infix_cons_iff.mp h with starts | later
      · exact absurd (List.cons_prefix_cons.mp starts).1 absent.1
      · exact ih absent.2 later

theorem infixBefore {c : Char} {mark s b : List Char} (absent : c ∉ b) (h : (mark ++ [c]) <:+: s ++ b) :
    (mark ++ [c]) <:+: s := by
  have back : (c :: mark.reverse) <:+: b.reverse ++ s.reverse := by
    rw [← List.reverse_append, ← List.reverse_concat]
    exact List.reverse_infix.mpr h
  have inside := infixBehind (by simpa using absent) back
  rw [← List.reverse_concat] at inside
  exact List.reverse_infix.mp inside

theorem prefixSplit {q a b : List Char} (h : q <+: a ++ b) : q <+: a ∨ ∃ t, q = a ++ t ∧ t <+: b := by
  rcases List.prefix_or_prefix_of_prefix h (List.prefix_append a b) with inside | ⟨t, rfl⟩
  · exact .inl inside
  · exact .inr ⟨t, rfl, (List.prefix_append_right_inj a).mp h⟩

theorem prefixShorter {q s : List Char} (h : q <+: s) (other : q ≠ s) : q.length < s.length :=
  Nat.lt_of_le_of_ne h.length_le fun same => other (h.eq_of_length same)

section Joined

variable {sep : List Char} {pieces : List (List Char)}

theorem joinedMember {c : Char} (inside : c ∈ sep.intercalate pieces) : c ∈ sep ∨ ∃ piece ∈ pieces, c ∈ piece := by
  induction pieces with
  | nil => simp [List.intercalate_nil] at inside
  | cons piece rest ih =>
      by_cases last : rest = []
      · subst last
        exact .inr ⟨piece, List.mem_cons_self, by rwa [List.intercalate_singleton] at inside⟩
      · rw [List.intercalate_cons_of_ne_nil last, List.mem_append, List.mem_append] at inside
        rcases inside with (here | between) | later
        · exact .inr ⟨piece, List.mem_cons_self, here⟩
        · exact .inl between
        · exact (ih later).imp_right fun ⟨other, listed, there⟩ => ⟨other, List.mem_cons_of_mem _ listed, there⟩

theorem joinedHolds {piece : List Char} (listed : piece ∈ pieces) : piece ⊆ sep.intercalate pieces := by
  induction pieces with
  | nil => contradiction
  | cons first rest ih =>
      by_cases last : rest = []
      · subst last
        rw [List.intercalate_singleton, List.mem_singleton.mp listed]
        exact List.Subset.refl _
      · rw [List.intercalate_cons_of_ne_nil last]
        rcases List.mem_cons.mp listed with rfl | later
        · exact List.subset_append_of_subset_left _ (List.subset_append_left _ _)
        · exact List.subset_append_of_subset_right _ (ih later)

end Joined

theorem linesWithout {s : List Char} (h : '\n' ∉ s) : lines s = [s] := List.splitOn_eq_singleton h

theorem linesFeed (a b : List Char) : lines (a ++ '\n' :: b) = lines a ++ lines b :=
  List.splitOn_append_cons_self a b

theorem linesNonempty (s : List Char) : lines s ≠ [] := List.splitOn_ne_nil '\n' s

theorem unlinesLines (s : List Char) : unlines (lines s) = s := List.intercalate_splitOn '\n'

theorem unlinesCons (piece : List Char) {pieces : List (List Char)} (some : pieces ≠ []) :
    unlines (piece :: pieces) = piece ++ '\n' :: unlines pieces := by
  rw [unlines, List.intercalate_cons_of_ne_nil some, unlines, List.append_assoc, List.singleton_append]

theorem unlinesSnoc {pieces : List (List Char)} (some : pieces ≠ []) (piece : List Char) :
    unlines (pieces ++ [piece]) = unlines pieces ++ '\n' :: piece := by
  induction pieces with
  | nil => contradiction
  | cons first rest ih =>
      rw [List.cons_append, unlinesCons first (by simp)]
      by_cases last : rest = []
      · simp [last, unlines]
      · rw [ih last, unlinesCons first last, List.append_assoc, List.cons_append]

theorem unlinesFeeds {pieces : List (List Char)} (some : pieces ≠ []) :
    pieces.flatMap (· ++ ['\n']) = unlines pieces ++ ['\n'] := by
  induction pieces with
  | nil => contradiction
  | cons piece rest ih =>
      by_cases last : rest = []
      · simp [last, unlines]
      · rw [List.flatMap_cons, ih last, unlinesCons piece last]
        simp

theorem unlinesPrefix {piece q : List Char} {pieces : List (List Char)} (h : q <+: unlines (piece :: pieces)) :
    q <+: piece ∨ ∃ r, q = piece ++ '\n' :: r ∧ r <+: unlines pieces := by
  by_cases last : pieces = []
  · exact .inl (by simpa [last, unlines] using h)
  · rw [unlinesCons piece last] at h
    rcases prefixSplit h with inside | ⟨t, rfl, behind⟩
    · exact .inl inside
    · rcases List.prefix_cons_iff.mp behind with rfl | ⟨r, rfl, rest⟩
      · exact .inl (by simp)
      · exact .inr ⟨r, rfl, rest⟩

theorem linesInside {s line : List Char} (h : line ∈ lines s) : line ⊆ s :=
  fun _ inside => unlinesLines s ▸ joinedHolds h inside

theorem lastPlace (sign : Char) (s : List Char) : sign ∉ s ∨ ∃ a b, s = a ++ sign :: b ∧ sign ∉ b := by
  by_cases h : sign ∈ s
  · obtain ⟨b, a, same, fresh⟩ := List.eq_append_cons_of_mem (List.mem_reverse.mpr h)
    refine .inr ⟨a.reverse, b.reverse, ?_, by simpa using fresh⟩
    have back := congrArg List.reverse same
    simpa using back
  · exact .inl h

theorem firstFeed (s : List Char) : '\n' ∉ s ∨ ∃ a b, s = a ++ '\n' :: b ∧ '\n' ∉ a := by
  by_cases h : '\n' ∈ s
  · exact .inr (List.eq_append_cons_of_mem h)
  · exact .inl h

theorem linesFront {a : List Char} (single : '\n' ∉ a) (s : List Char) :
    ∃ first rest, lines s = first :: rest ∧ lines (a ++ s) = (a ++ first) :: rest := by
  rcases firstFeed s with last | ⟨first, r, rfl, alone⟩
  · exact ⟨s, [], linesWithout last, linesWithout (by simp [single, last])⟩
  · have front : '\n' ∉ a ++ first := by simp [single, alone]
    refine ⟨first, lines r, ?_, ?_⟩
    · rw [linesFeed, linesWithout alone, List.singleton_append]
    · rw [← List.append_assoc, linesFeed, linesWithout front, List.singleton_append]

theorem splitFree {α : Type} [BEq α] [LawfulBEq α] (x : α) (s : List α) : ∀ piece ∈ s.splitOn x, x ∉ piece := by
  induction s with
  | nil => simp
  | cons c s ih =>
      rw [List.splitOn_cons_eq_if_modifyHead]
      split
      · simpa using ih
      · rename_i other
        cases parts : s.splitOn x with
        | nil => simp
        | cons first rest =>
            rw [parts, List.forall_mem_cons] at ih
            rw [List.modifyHead_cons, List.forall_mem_cons, List.mem_cons, not_or]
            exact ⟨⟨fun same => other (by simp [same]), ih.1⟩, ih.2⟩

theorem linesSingle (s : List Char) : ∀ line ∈ lines s, '\n' ∉ line := splitFree '\n' s

theorem linesUnlines {pieces : List (List Char)} (single : ∀ piece ∈ pieces, '\n' ∉ piece) (some : pieces ≠ []) :
    lines (unlines pieces) = pieces := List.splitOn_intercalate '\n' single some

theorem linesSnoc (s : List Char) : lines s = (lines s).dropLast ++ [(lines s).getLast?.getD []] := by
  have h := linesNonempty s
  rw [List.getLast?_eq_some_getLast h, Option.getD_some, List.dropLast_concat_getLast h]

theorem linesAppend (s t : List Char) :
    lines (s ++ t) = (lines s).dropLast ++ lines ((lines s).getLast?.getD [] ++ t) := by
  rcases lastPlace '\n' s with single | ⟨a, b, rfl, last⟩
  · simp [linesWithout single]
  · have tail : a ++ '\n' :: b ++ t = a ++ '\n' :: (b ++ t) := by simp
    rw [tail, linesFeed, linesFeed, linesWithout last]
    simp

theorem bytesFrom (bytes : ByteArray) (start : Nat) (seen : List UInt8) :
    ByteArray.toList.loop bytes start seen = seen.reverse ++ bytes.data.toList.drop start := by
  fun_induction ByteArray.toList.loop bytes start seen with
  | case1 start seen inside ih =>
      have bound : start < bytes.data.toList.length := by simpa using inside
      rw [ih, List.drop_eq_getElem_cons bound]
      simp [ByteArray.get!, inside]
  | case2 start seen outside =>
      rw [List.drop_eq_nil_of_le (by simpa using Nat.le_of_not_lt outside), List.append_nil]

theorem bytesEncode (s : List Char) : (String.ofList s).toUTF8.toList = s.flatMap String.utf8EncodeChar := by
  rw [ByteArray.toList, bytesFrom]
  exact List.toList_data_toByteArray

theorem byteIff (byte : UInt8) (n : Nat) : UInt8.ofNat n = byte ↔ n % 256 = byte.toNat := by
  rw [← UInt8.toNat_inj, UInt8.toNat_ofNat']

end EmailMarkup.Text
