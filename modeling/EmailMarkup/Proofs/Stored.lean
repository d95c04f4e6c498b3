import EmailMarkup.Files.Content
import EmailMarkup.Proofs.Location

/-! Texts in files. A text that is stored in UTF-8 is read back without the byte order mark at its front, and with line
feeds for all its newlines. -/
namespace EmailMarkup

namespace Text

theorem startsMark {c : Char} (start : (String.utf8EncodeChar c).head? = some 0xef) :
    c.toNat / 4096 = 15 ∧ String.utf8EncodeChar c =
      [0xef, UInt8.ofNat (c.toNat / 64 % 64 + 128), UInt8.ofNat (c.toNat % 64 + 128)] := by
  have code : c.val.toNat = c.toNat := rfl
  have lead : (0xef : UInt8).toNat = 239 := rfl
  unfold String.utf8EncodeChar at start ⊢
  simp only [code] at start ⊢
  split at start
  · rw [List.head?_cons, Option.some_inj, byteIff] at start
    omega
  · rename_i ascii
    split at start
    · rw [List.head?_cons, Option.some_inj, byteIff] at start
      omega
    · rename_i two
      split at start
      · rename_i three
        rw [List.head?_cons, Option.some_inj] at start
        rw [if_neg ascii, if_neg two, if_pos three, start]
        rw [byteIff] at start
        exact ⟨by omega, rfl⟩
      · rw [List.head?_cons, Option.some_inj, byteIff] at start
        omega

/- Three bytes come first where the first byte is that of the mark, and if they are all those of the mark, it is one. -/
theorem encodesMark {c : Char} {behind more : List UInt8} (start : String.utf8EncodeChar c ++ behind = 0xef :: more) :
    ∃ second third, more = second :: third :: behind ∧ (second = 0xbb → third = 0xbf → c = '\ufeff') := by
  have lead : (String.utf8EncodeChar c).head? = some 0xef := by
    have head := congrArg List.head? start
    rwa [List.head?_append_of_ne_nil _ String.utf8EncodeChar_ne_nil] at head
  obtain ⟨high, bytes⟩ := startsMark lead
  rw [bytes] at start
  refine ⟨_, _, (List.cons.inj start).2.symm, fun second third => Char.toNat_inj.mp ?_⟩
  rw [byteIff] at second third
  have middle : (0xbb : UInt8).toNat = 187 := rfl
  have last : (0xbf : UInt8).toNat = 191 := rfl
  have mark : '\ufeff'.toNat = 65279 := rfl
  omega

end Text

namespace Files

def unmarked : List Char → List Char
  | '\ufeff' :: rest => rest
  | s => s

def readBack (text : String) : String := String.ofList (Text.foldNewlines (unmarked text.toList))

theorem decodeStored (text : String) : decode text.toUTF8 = some (String.ofList (Text.foldNewlines text.toList)) := by
  have whole : String.fromUTF8? text.toUTF8 = some text := dif_pos text.isValidUTF8
  rw [decode, whole, Option.map_some]

theorem withoutMarkStored (s : List Char) :
    withoutMark (String.ofList s).toUTF8 = (String.ofList (unmarked s)).toUTF8 := by
  have bytes := Text.bytesEncode s
  unfold withoutMark
  rw [bytes]
  cases s with
  | nil => rfl
  | cons c rest =>
      rw [List.flatMap_cons]
      by_cases mark : c = '\ufeff'
      · subst mark
        have three : String.utf8EncodeChar '\ufeff' = [0xef, 0xbb, 0xbf] := by decide
        have size : (List.utf8Encode ['\ufeff']).size = 3 := by decide
        have whole : (String.ofList ('\ufeff' :: rest)).toUTF8 =
            ['\ufeff'].utf8Encode ++ (String.ofList rest).toUTF8 := by
          rw [String.toUTF8_eq_toByteArray, String.toByteArray_ofList, List.utf8Encode_cons,
            String.toUTF8_eq_toByteArray, String.toByteArray_ofList]
        rw [three, whole, ByteArray.size_append]
        exact ByteArray.extract_append_eq_right size.symm rfl
      · have same : unmarked (c :: rest) = c :: rest := by simp [unmarked, mark]
        split
        · rename_i start
          obtain ⟨second, third, more, -⟩ := Text.encodesMark start
          cases more
        · rename_i start
          obtain ⟨second, third, more, -⟩ := Text.encodesMark start
          cases more
        · rename_i start
          obtain ⟨second, third, more, other⟩ := Text.encodesMark start
          cases more
          exact absurd (other rfl rfl) mark
        · rw [same]

theorem readOpened {world : World} {path text : String} (opened : world.nodeAt path = .ok (.file text.toUTF8)) :
    world.read path = .ok (readBack text) := by
  have bytes : world.readBytes path = .ok text.toUTF8 := by
    rw [World.readBytes, opened]
    rfl
  have marked := withoutMarkStored text.toList
  rw [String.ofList_toList] at marked
  rw [World.read, World.readWith, bytes]
  simp only [marked, decodeStored, String.toList_ofList, readBack]

theorem readStored {world : World} (regular : world.top.Regular) {location : Location} {text : String}
    (stored : world.top.find? location = some (.file text.toUTF8))
    (short : (absoluteText location).utf8ByteSize ≤ pathLimit) :
    world.read (absoluteText location) = .ok (readBack text) :=
  readOpened (World.nodeFound regular stored short)

inductive Folded : List Char → List Char → Prop
  | nil : Folded [] []
  | pair {s t : List Char} (rest : Folded s t) : Folded ('\r' :: '\n' :: s) ('\n' :: t)
  | lone {s t : List Char} (alone : s.head? ≠ some '\n') (rest : Folded s t) : Folded ('\r' :: s) ('\n' :: t)
  | other {c : Char} {s t : List Char} (plain : c ≠ '\r') (rest : Folded s t) : Folded (c :: s) (c :: t)

theorem foldFolded (s : List Char) : Folded s (Text.foldNewlines s) := by
  fun_induction Text.foldNewlines s with
  | case1 => exact .nil
  | case2 rest ih => exact .pair ih
  | case3 c rest alone ih =>
      by_cases lone : c = '\r'
      · subst lone
        rw [if_pos rfl]
        refine .lone (fun feed => ?_) ih
        obtain ⟨behind, same⟩ := List.head?_eq_some_iff.mp feed
        exact alone behind rfl same
      · rw [if_neg lone]
        exact .other lone ih

theorem Folded.same {s t : List Char} (folded : Folded s t) (plain : '\r' ∉ s) : t = s := by
  induction folded with
  | nil => rfl
  | pair => exact absurd List.mem_cons_self plain
  | lone => exact absurd List.mem_cons_self plain
  | other _ _ ih => rw [ih fun later => plain (List.mem_cons_of_mem _ later)]

theorem Folded.shortens {s t : List Char} (folded : Folded s t) : t.length ≤ s.length := by
  induction folded with
  | nil => exact Nat.le_refl _
  | pair _ ih => exact Nat.succ_le_succ (Nat.le_succ_of_le ih)
  | lone _ _ ih => exact Nat.succ_le_succ ih
  | other _ _ ih => exact Nat.succ_le_succ ih

theorem readBackSame (text : String) :
    readBack text = text ↔ '\r' ∉ text.toList ∧ text.toList.head? ≠ some '\ufeff' := by
  rw [readBack, ← String.toList_inj, String.toList_ofList]
  constructor
  · intro same
    refine ⟨same ▸ Text.foldNewlinesNoReturn _, fun mark => ?_⟩
    obtain ⟨rest, chars⟩ := List.head?_eq_some_iff.mp mark
    have shorter := (foldFolded rest).shortens
    rw [chars, unmarked] at same
    rw [same, List.length_cons] at shorter
    exact Nat.not_succ_le_self _ shorter
  · rintro ⟨plain, bare⟩
    have kept : unmarked text.toList = text.toList := by
      unfold unmarked
      split
      · rename_i chars
        exact absurd (by rw [chars]; rfl) bare
      · rfl
    rw [kept]
    exact (foldFolded text.toList).same plain

theorem readNoReturn {world : World} {path text : String} (read : world.read path = .ok text) : '\r' ∉ text.toList := by
  rw [World.read, World.readWith] at read
  split at read
  · contradiction
  · split at read
    · rename_i decoded
      obtain ⟨source, -, same⟩ := Option.map_eq_some_iff.mp decoded
      rw [← Except.ok.inj read, ← same, String.toList_ofList]
      exact Text.foldNewlinesNoReturn source.toList
    · contradiction

end Files
end EmailMarkup
