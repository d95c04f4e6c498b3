import EmailMarkup.Proofs.Bracket
import EmailMarkup.Proofs.Text

/-! What the limit on nesting does to the reading of a body. With fewer levels a JSON text is read as with more of
them, or reading stops at the limit, and it does stop where more brackets are opened than there are levels. -/
namespace EmailMarkup

namespace Json
open Text (Halves)

inductive Deep {α : Type} : Read α → Prop where
  | list : Deep (.error .deepList)
  | object : Deep (.error .deepObject)

/-- What a reading with few levels may be, next to the same reading with more. -/
def Capped {α : Type} (few more : Read α) : Prop := Deep few ∨ few = more

theorem Capped.bind {α β : Type} {few more : Read α} (first : Capped few more) {f g : α → Read β}
    (next : ∀ a, Capped (f a) (g a)) : Capped (few >>= f) (more >>= g) := by
  rcases first with (_ | _) | rfl
  · exact .inl .list
  · exact .inl .object
  · cases few with
    | error error => exact .inr rfl
    | ok a => exact next a

inductive Within : Nat → Json → Prop where
  | list {levels items} (inner : ∀ item ∈ items, Within levels item) : Within (levels + 1) (.list items)
  | object {levels members} (inner : ∀ member ∈ members, Within levels member.2) : Within (levels + 1) (.object members)
  | single {levels found} (list : ∀ items, found ≠ .list items) (object : ∀ members, found ≠ .object members) :
      Within levels found

theorem insertWithin {levels : Nat} {seen : List (String × Json)} (inner : ∀ member ∈ seen, Within levels member.2)
    (name : String) {item : Json} (within : Within levels item) :
    ∀ member ∈ insert seen name item, Within levels member.2 := by
  induction seen with
  | nil => simpa [insert] using within
  | cons first rest ih =>
      rw [List.forall_mem_cons] at inner
      unfold insert
      split
      · exact List.forall_mem_cons.mpr ⟨within, inner.2⟩
      · exact List.forall_mem_cons.mpr ⟨inner.1, ih inner.2⟩

section Levels

variable (halves : Halves)

theorem readersCapped (fuel : Nat) : ∀ levels more, levels ≤ more →
    (∀ s, Capped (value halves levels fuel s) (value halves more fuel s)) ∧
    (∀ seen s, Capped (items halves levels fuel seen s) (items halves more fuel seen s)) ∧
    ∀ seen s, Capped (members halves levels fuel seen s) (members halves more fuel seen s) := by
  -- Each of the three readers passes its levels on, and only a bracket takes one away.
  induction fuel with
  | zero =>
      intro levels more _
      simp only [value, items, members]
      exact ⟨fun _ => .inr rfl, fun _ _ => .inr rfl, fun _ _ => .inr rfl⟩
  | succ fuel ih =>
      intro levels more fewer
      have inner := ih levels more fewer
      refine ⟨fun s => ?_, fun seen s => ?_, fun seen s => ?_⟩
      · rcases opensCases s with ⟨tail, rfl⟩ | ⟨tail, rfl⟩ | ⟨list, object⟩
        · cases levels with
          | zero => exact .inl (by rw [value]; exact .list)
          | succ levels =>
              obtain ⟨more, rfl⟩ : ∃ left, more = left + 1 := ⟨more - 1, by omega⟩
              rw [valueList, valueList]
              split
              · exact .inr rfl
              · exact (ih levels more (by omega)).2.1 _ _
        · cases levels with
          | zero => exact .inl (by rw [value]; exact .object)
          | succ levels =>
              obtain ⟨more, rfl⟩ : ∃ left, more = left + 1 := ⟨more - 1, by omega⟩
              rw [valueObject, valueObject]
              split
              · exact .inr rfl
              · exact (ih levels more (by omega)).2.2 _ _
        · rw [valueScalar halves list object, valueScalar halves list object]
          exact .inr rfl
      · rw [items, items]
        refine (inner.1 s).bind fun head => ?_
        obtain ⟨item, rest⟩ := head
        dsimp only
        split
        · exact inner.2.1 _ _
        · exact .inr rfl
        · exact .inr rfl
      · by_cases quoted : ∃ tail, s = '"' :: tail
        · obtain ⟨tail, rfl⟩ := quoted
          rw [members, members]
          refine Capped.bind (.inr rfl) fun named => ?_
          obtain ⟨name, rest⟩ := named
          dsimp only
          split
          · refine (inner.1 _).bind fun head => ?_
            obtain ⟨item, rest⟩ := head
            dsimp only
            split
            · exact inner.2.2 _ _
            · exact .inr rfl
            · exact .inr rfl
          · exact .inr rfl
        · rw [membersUnquoted halves (not_exists.mp quoted), membersUnquoted halves (not_exists.mp quoted)]
          exact .inr rfl

theorem readCapped {levels more : Nat} (fewer : levels ≤ more) (text : List Char) :
    Capped (readWithin halves levels text) (readWithin halves more text) :=
  ((readersCapped halves _ levels more fewer).1 _).bind fun _ => .inr rfl

theorem unsignedNumber {negative : Bool} {s rest : List Char} {found : Json}
    (read : unsigned negative s = some (found, rest)) : (∃ n, found = .int n) ∨ ∃ x, found = .float x := by
  unfold unsigned at read
  dsimp only at read
  generalize (if (s.takeWhile Char.isDigit).head? = some '0' then ['0'] else s.takeWhile Char.isDigit) = whole at read
  split at read
  · contradiction
  · split at read
    · split at read
      · contradiction
      · cases read
        exact .inl ⟨_, rfl⟩
    · cases read
      exact .inr ⟨_, rfl⟩

theorem numberWithin {levels : Nat} {found : Json} (number : (∃ n, found = .int n) ∨ ∃ x, found = .float x) :
    Within levels found := by
  rcases number with ⟨n, rfl⟩ | ⟨x, rfl⟩ <;> exact .single nofun nofun

theorem scalarWithin (levels : Nat) {s rest : List Char} {found : Json}
    (read : scalar halves s = some (found, rest)) : Within levels found := by
  unfold scalar at read
  split at read
  · rename_i pair known
    cases read
    obtain ⟨⟨word, value⟩, listed, some⟩ := List.exists_of_findSome?_eq_some known
    obtain ⟨after, _, same⟩ := Option.map_eq_some_iff.mp some
    cases same
    have single : ∀ pair ∈ keywords, Within levels pair.2 := by
      simp only [keywords, List.forall_mem_cons, List.not_mem_nil, false_implies, implies_true, and_true]
      and_intros <;> exact .single nofun nofun
    exact single _ listed
  · split at read
    · obtain ⟨⟨body, after⟩, _, same⟩ := Option.map_eq_some_iff.mp read
      cases same
      exact .single nofun nofun
    · exact numberWithin (unsignedNumber read)
    · exact numberWithin (unsignedNumber read)

theorem readersWithin (fuel : Nat) : ∀ levels,
    (∀ s found rest, value halves levels fuel s = .ok (found, rest) → Within levels found) ∧
    (∀ seen s found rest, items halves levels fuel seen s = .ok (found, rest) → (∀ item ∈ seen, Within levels item) →
      Within (levels + 1) found) ∧
    ∀ seen s found rest, members halves levels fuel seen s = .ok (found, rest) →
      (∀ member ∈ seen, Within levels member.2) → Within (levels + 1) found := by
  induction fuel with
  | zero =>
      intro levels
      simp [value, items, members]
  | succ fuel ih =>
      intro levels
      have inner := ih levels
      refine ⟨fun s found rest read => ?_, fun seen s found rest read fits => ?_, fun seen s found rest read fits => ?_⟩
      · rcases valueRead read with ⟨tail, levels, rfl, rfl, ⟨_, rfl⟩ | more⟩ |
          ⟨tail, levels, rfl, rfl, ⟨_, rfl⟩ | more⟩ | single
        · exact .list (by simp)
        · exact (ih levels).2.1 _ _ _ _ more (by simp)
        · exact .object (by simp)
        · exact (ih levels).2.2 _ _ _ _ more (by simp)
        · exact scalarWithin halves levels single
      · obtain ⟨item, after, head, last⟩ := itemsRead read
        have all : ∀ other ∈ item :: seen, Within levels other :=
          List.forall_mem_cons.mpr ⟨inner.1 _ _ _ head, fits⟩
        rcases last with ⟨more, _, read⟩ | ⟨_, rfl⟩
        · exact inner.2.1 _ _ _ _ read all
        · exact .list fun other member => all other (List.mem_reverse.mp member)
      · obtain ⟨tail, name, after, body, item, behind, rfl, _, _, head, last⟩ := membersRead read
        have all := insertWithin fits (String.ofList name) (inner.1 _ _ _ head)
        rcases last with ⟨more, _, read⟩ | ⟨_, rfl⟩
        · exact inner.2.2 _ _ _ _ read all
        · exact .object all

theorem readWithinLevels {levels : Nat} {text : List Char} {found : Json}
    (read : readWithin halves levels text = .ok found) : Within levels found := by
  obtain ⟨⟨other, rest⟩, inner, last⟩ := bindOk read
  dsimp only at last
  split at last
  · cases last
    exact (readersWithin halves _ levels).1 _ _ _ inner
  · contradiction

theorem deepBind {α β : Type} {first : Read α} {next : α → Read β} (deep : Deep (first >>= next)) :
    Deep first ∨ ∃ a, first = .ok a ∧ Deep (next a) := by
  cases first with
  | error error =>
      cases deep with
      | list => exact .inl .list
      | object => exact .inl .object
  | ok a => exact .inr ⟨a, rfl, deep⟩

theorem noneDeep {α : Type} : ¬ Deep (.error .malformed : Read α) := nofun

theorem malformedDeep {α : Type} {x : Option α} : ¬ Deep (orMalformed x) := by
  cases x <;> exact nofun

theorem openMore {c : Char} (opens : c = '[' ∨ c = '\x7b') (n : Nat) (rest : List Char) :
    most .outside n (c :: rest) = most .outside (n + 1) rest := by
  have more := (Nat.le_succ n).trans (mostLeast .outside (n + 1) rest)
  rcases opens with rfl | rfl <;> exact Nat.max_eq_right more

theorem readersDeep (fuel : Nat) : ∀ levels n,
    (∀ s, Deep (value halves levels fuel s) → n + levels < most .outside n s) ∧
    (∀ seen s, Deep (items halves levels fuel seen s) → n + 1 + levels < most .outside (n + 1) s) ∧
    ∀ seen s, Deep (members halves levels fuel seen s) → n + 1 + levels < most .outside (n + 1) s := by
  -- A bracket is open for every level that is gone.
  induction fuel with
  | zero =>
      intro levels n
      simp only [value, items, members]
      exact ⟨fun _ deep => absurd deep noneDeep, fun _ _ deep => absurd deep noneDeep,
        fun _ _ deep => absurd deep noneDeep⟩
  | succ fuel ih =>
      intro levels n
      have inner := ih levels (n + 1)
      have further := (ih levels n).2
      have low : n + 1 ≤ n + 1 + levels := Nat.le_add_right _ _
      refine ⟨fun s deep => ?_, fun seen s deep => ?_, fun seen s deep => ?_⟩
      · rcases opensCases s with ⟨tail, rfl⟩ | ⟨tail, rfl⟩ | ⟨list, object⟩
        · rw [openMore (.inl rfl)]
          cases levels with
          | zero => exact mostLeast .outside (n + 1) tail
          | succ levels =>
              rw [valueList] at deep
              split at deep
              · contradiction
              · have more := (ih levels n).2.1 _ _ deep
                rw [Nat.add_right_comm] at more
                exact (crossesPlainly (Nat.le_refl _) (.space tail)).later more
        · rw [openMore (.inr rfl)]
          cases levels with
          | zero => exact mostLeast .outside (n + 1) tail
          | succ levels =>
              rw [valueObject] at deep
              split at deep
              · contradiction
              · have more := (ih levels n).2.2 _ _ deep
                rw [Nat.add_right_comm] at more
                exact (crossesPlainly (Nat.le_refl _) (.space tail)).later more
        · rw [valueScalar halves list object] at deep
          exact absurd deep malformedDeep
      · rw [items] at deep
        rcases deepBind deep with deep | ⟨⟨item, after⟩, head, deep⟩
        · exact inner.1 s deep
        · have here := (readersCross halves fuel levels (n + 1)).1 _ _ _ head
          dsimp only at deep
          split at deep
          · rename_i more next
            have comma := crossesChar low (by decide) (m := n + 1) (c := ',') rfl more
            have there := comma.trans (crossesPlainly low (.space more))
            exact (here.trans ((crossesSpace low next).trans there)).later (further.1 _ _ deep)
          · contradiction
          · contradiction
      · by_cases quoted : ∃ tail, s = '"' :: tail
        · obtain ⟨tail, rfl⟩ := quoted
          rw [members] at deep
          rcases deepBind deep with deep | ⟨⟨name, after⟩, named, deep⟩
          · exact absurd deep malformedDeep
          dsimp only at deep
          split at deep
          · rename_i body colon
            have sign := crossesChar low (by decide) (m := n + 1) (c := ':') rfl body
            have front := (crossesString low (malformedOk named)).trans ((crossesSpace low colon).trans
              (sign.trans (crossesPlainly low (.space body))))
            rcases deepBind deep with deep | ⟨⟨item, behind⟩, head, deep⟩
            · exact front.later (inner.1 _ deep)
            have here := front.trans ((readersCross halves fuel levels (n + 1)).1 _ _ _ head)
            dsimp only at deep
            split at deep
            · rename_i more next
              have comma := crossesChar low (by decide) (m := n + 1) (c := ',') rfl more
              have there := comma.trans (crossesPlainly low (.space more))
              exact (here.trans ((crossesSpace low next).trans there)).later (further.2 _ _ deep)
            · contradiction
            · contradiction
          · contradiction
        · rw [membersUnquoted halves (not_exists.mp quoted)] at deep
          contradiction

theorem deepNesting {levels : Nat} {text : List Char} (deep : Deep (readWithin halves levels text)) :
    levels < nesting text := by
  rcases deepBind deep with deep | ⟨⟨found, rest⟩, _, deep⟩
  · have inner := (readersDeep halves _ levels 0).1 _ deep
    rw [Nat.zero_add] at inner
    exact (crossesPlainly (Nat.zero_le levels) (.space text)).later inner
  · dsimp only at deep
    split at deep <;> contradiction

theorem readIff {levels other : Nat} {text : List Char} {found : Json}
    (read : readWithin halves other text = .ok found) :
    readWithin halves levels text = .ok found ∧ nesting text ≤ levels ∨
    Deep (readWithin halves levels text) ∧ levels < nesting text := by
  have kept : readWithin halves levels text = .ok found ∨ Deep (readWithin halves levels text) := by
    rcases Nat.le_total other levels with fewer | more
    · rcases readCapped halves fewer text with deep | same
      · rw [read] at deep
        contradiction
      · exact .inl (same.symm.trans read)
    · rcases readCapped halves more text with deep | same
      · exact .inr deep
      · exact .inl (same.trans read)
  exact kept.imp (fun ok => ⟨ok, readNesting ok⟩) fun deep => ⟨deep, deepNesting halves deep⟩

theorem valueNested (levels fuel : Nat) (s : List Char) :
    value halves (levels + 1) (fuel + 2) ('[' :: '[' :: s) =
      (value halves levels fuel ('[' :: s) >>= fun (item, rest) =>
        match skipSpace rest with
        | ',' :: more => items halves levels fuel [item] (skipSpace more)
        | ']' :: after => .ok (.list [item], after)
        | _ => .error .malformed) := by
  have here : skipSpace ('[' :: s) = '[' :: s := List.dropWhile_cons_of_neg (by decide)
  rw [valueList, here]
  exact items.eq_def halves levels (fuel + 1) [] ('[' :: s)

def nested : Nat → Json
  | 0 => .list []
  | depth + 1 => .list [nested depth]

def brackets (depth : Nat) : List Char := List.replicate depth '[' ++ List.replicate depth ']'

omit halves in
theorem mostBrackets (depth n : Nat) (s : List Char) : n + depth ≤ most .outside n (List.replicate depth '[' ++ s) := by
  induction depth generalizing n with
  | zero => exact mostLeast .outside n s
  | succ depth ih =>
      have further := ih (n + 1)
      rw [List.replicate_succ, List.cons_append, openMore (.inl rfl)]
      omega

theorem valueBrackets (depth : Nat) {fuel : Nat} (steps : 2 * depth < fuel) (s : List Char) :
    value halves (depth + 1) fuel (List.replicate (depth + 1) '[' ++ (List.replicate (depth + 1) ']' ++ s)) =
      .ok (nested depth, s) := by
  induction depth generalizing fuel s with
  | zero =>
      obtain ⟨fuel, rfl⟩ : ∃ left, fuel = left + 1 := ⟨fuel - 1, by omega⟩
      rfl
  | succ depth ih =>
      obtain ⟨fuel, rfl⟩ : ∃ left, fuel = left + 2 := ⟨fuel - 2, by omega⟩
      have inner : value halves (depth + 1) fuel _ = _ := ih (by omega) (']' :: s)
      have closing : List.replicate (depth + 1) ']' ++ ']' :: s = List.replicate (depth + 2) ']' ++ s := by
        rw [List.append_cons, ← List.replicate_succ']
      rw [closing, List.replicate_succ, List.cons_append] at inner
      rw [List.replicate_succ, List.cons_append, List.replicate_succ, List.cons_append, valueNested, inner]
      rfl

theorem skipBrackets (depth : Nat) (s : List Char) :
    skipSpace (List.replicate (depth + 1) '[' ++ s) = List.replicate (depth + 1) '[' ++ s := by
  rw [List.replicate_succ, List.cons_append]
  exact List.dropWhile_cons_of_neg (by decide)

theorem readBrackets (depth : Nat) :
    readWithin halves (depth + 1) (brackets (depth + 1)) = .ok (nested depth) := by
  rw [readWithin]
  dsimp only
  rw [brackets, skipBrackets, ← List.append_nil (List.replicate (depth + 1) ']'), valueBrackets halves depth]
  · rfl
  · simp only [List.length_append, List.length_replicate]
    omega

end Levels

end Json

namespace Http

theorem zeroEncode {c : Char} (zero : 0 ∈ String.utf8EncodeChar c) : c.toNat = 0 := by
  have code : c.toNat = c.val.toNat := rfl
  have zeroByte (n : Nat) : 0 = UInt8.ofNat n ↔ n % 256 = 0 := eq_comm.trans (Text.byteIff 0 n)
  unfold String.utf8EncodeChar at zero
  dsimp only at zero
  split at zero
  · rw [List.mem_singleton, zeroByte] at zero
    omega
  · split at zero
    · simp only [List.mem_cons, List.not_mem_nil, or_false, zeroByte] at zero
      omega
    · split at zero <;> simp only [List.mem_cons, List.not_mem_nil, or_false, zeroByte] at zero <;> omega

theorem encodingPlain {bytes : List Nat} (full : 0 ∉ bytes) : Encoding.ofBytes bytes = .utf8 := by
  unfold Encoding.ofBytes
  split <;> simp_all [eq_comm]

theorem bodyPlain (halves : Text.Halves) {s : List Char} (full : ∀ c ∈ s, c.toNat ≠ 0) :
    bodyText halves (String.ofList s) = some (Json.withoutMark s) := by
  have bytes : 0 ∉ (String.ofList s).toUTF8.toList.map (·.toNat) := by
    rw [Text.bytesEncode]
    intro zero
    obtain ⟨byte, inside, none⟩ := List.mem_map.mp zero
    obtain rfl : byte = 0 := UInt8.toNat_inj.mp none
    obtain ⟨c, member, zero⟩ := List.mem_flatMap.mp inside
    exact full c member (zeroEncode zero)
  rw [bodyText, encodingPlain bytes, String.toList_ofList]

def Holds (halves : Text.Halves) (body : String) (value : Json) : Prop :=
  ∃ text levels, bodyText halves body = some text ∧ Json.readWithin halves levels text = .ok value

/-- Lists and objects are nested in the text of a body deeper than they are read. -/
def DeepBody (halves : Text.Halves) (body : String) : Prop :=
  ∃ text, bodyText halves body = some text ∧ bodyDepth < Json.nesting text

theorem readHolds {halves : Text.Halves} {body : String} {value : Json} (holds : Holds halves body value) :
    readBody halves body = .ok value ∧ ¬ DeepBody halves body ∨
    Json.Deep (readBody halves body) ∧ DeepBody halves body := by
  obtain ⟨text, levels, shown, read⟩ := holds
  have here : readBody halves body = Json.readWithin halves bodyDepth text := by rw [readBody, shown]
  have nested : DeepBody halves body ↔ bodyDepth < Json.nesting text := by simp [DeepBody, shown]
  rw [here, nested, Nat.not_lt]
  exact Json.readIff halves read

theorem bodyDeep {halves : Text.Halves} {body : String} (deep : Json.Deep (readBody halves body)) :
    DeepBody halves body := by
  unfold readBody at deep
  split at deep
  · exact ⟨_, ‹_›, Json.deepNesting halves deep⟩
  · contradiction

theorem valueDeep {halves : Text.Halves} {body : String} {value : Json} (holds : Holds halves body value)
    (deep : ¬ Json.Within bodyDepth value) : DeepBody halves body := by
  rcases readHolds holds with ⟨read, _⟩ | ⟨_, nested⟩
  · unfold readBody at read
    split at read
    · exact absurd (Json.readWithinLevels halves read) deep
    · contradiction
  · exact nested

theorem bracketFull {c : Char} {depth : Nat} (inside : c ∈ Json.brackets depth) : c.toNat ≠ 0 := by
  rcases List.mem_append.mp inside with h | h <;> rw [List.eq_of_mem_replicate h] <;> decide

theorem holdsBrackets (halves : Text.Halves) (depth : Nat) :
    Holds halves (String.ofList (Json.brackets (depth + 1))) (Json.nested depth) :=
  ⟨_, depth + 1, bodyPlain halves fun _ => bracketFull, Json.readBrackets halves depth⟩

theorem deepBrackets (halves : Text.Halves) {depth : Nat} (deeper : bodyDepth ≤ depth) :
    DeepBody halves (String.ofList (Json.brackets (depth + 1))) := by
  refine ⟨_, bodyPlain halves fun _ => bracketFull, ?_⟩
  have least := Json.mostBrackets (depth + 1) 0 (List.replicate (depth + 1) ']')
  exact Nat.lt_of_le_of_lt deeper ((Nat.zero_add _).symm.trans_le least)

end Http
end EmailMarkup
