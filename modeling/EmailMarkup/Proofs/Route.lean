import EmailMarkup.Proofs.Location

/-! Routes along paths. A path that is kept by its names leads where its text does, and so does the path as it was given,
unless it ends by asking for a folder or is too long to be looked up at all. -/
namespace EmailMarkup.Files

def AsksFolder (path : String) : Prop := "/".toList <:+ path.toList ∨ "/.".toList <:+ path.toList

instance (path) : Decidable (AsksFolder path) := by unfold AsksFolder; infer_instance

namespace Path

variable {path : String}

theorem rootSlashes (s : List Char) : ∀ c ∈ (rootOf s).toList, c = '/' := by
  have roots : rootOf s ∈ ["", "/", "//"] := by
    unfold rootOf
    split <;> decide
  have all : ∀ root ∈ ["", "/", "//"], ∀ c ∈ root.toList, c = '/' := by decide
  exact all _ roots

theorem rootEmpty (s : List Char) : rootOf s = "" ↔ s.head? ≠ some '/' := by
  unfold rootOf
  split
  · simp
  · simp
  · simp
  · rename_i other
    cases s with
    | nil => simp
    | cons c rest =>
        have apart : c ≠ '/' := fun slash => other rest (by rw [slash])
        simpa using apart

theorem textChars (named : (ofText path).names ≠ []) : (ofText path).text.toList =
    (ofText path).root.toList ++ ['/'].intercalate ((ofText path).names.map String.toList) := by
  rw [text, if_neg fun none => named none.2, String.toList_append, String.toList_intercalate]
  rfl

theorem namesFree : ∀ name ∈ (ofText path).names, name ≠ "" ∧ '/' ∉ name.toList :=
  fun name listed => ⟨(World.namesPlain path name listed).1, (World.namesPlain path name listed).2.2⟩

theorem stepsText (named : (ofText path).names ≠ []) : steps (ofText path).text = (ofText path).names :=
  stepsJoined namesFree (rootSlashes path.toList) (textChars named)

theorem absoluteRoot : isAbsolute path = true ↔ (ofText path).root ≠ "" := by
  rw [isAbsolute, beq_iff_eq, ← not_iff_not, not_not]
  exact (rootEmpty path.toList).symm

theorem textAbsolute (named : (ofText path).names ≠ []) : isAbsolute (ofText path).text = isAbsolute path := by
  have start : (ofText path).text.toList.head? = some '/' ↔ (ofText path).root ≠ "" := by
    have slashes := rootSlashes path.toList
    rw [textChars named]
    cases front : (ofText path).root.toList with
    | nil =>
        rw [String.toList_eq_nil_iff.mp front]
        exact iff_of_false (joinedStart (freePieces namesFree)) (by simp)
    | cons c rest =>
        have slash : c = '/' := slashes c (front ▸ List.mem_cons_self)
        have filled : (ofText path).root ≠ "" := fun none => by simp [none] at front
        exact iff_of_true (by simp [slash]) filled
  have given := @absoluteRoot path
  rw [Bool.eq_iff_iff, given, ← start, isAbsolute, beq_iff_eq]

theorem splitLast {a b : List Char} (single : '/' ∉ b) : (a ++ '/' :: b).splitOn '/' = a.splitOn '/' ++ [b] := by
  rw [List.splitOn_append_cons_self, List.splitOn_eq_singleton single]

theorem asksLast {a b : List Char} (single : '/' ∉ b) (chars : path.toList = a ++ '/' :: b) :
    AsksFolder path ↔ b = [] ∨ b = ['.'] := by
  have last {t c : List Char} (free : '/' ∉ c) (same : t ++ '/' :: c = path.toList) : b = c := by
    have split := congrArg (fun s => (List.splitOn '/' s).getLast?) (same.trans chars)
    simpa [splitLast single, splitLast free, eq_comm] using split
  constructor
  · rintro (⟨t, same⟩ | ⟨t, same⟩)
    · exact .inl (last (by simp) same)
    · exact .inr (last (by decide) same)
  · rintro (rfl | rfl)
    · exact .inl ⟨a, chars.symm⟩
    · exact .inr ⟨a, chars.symm⟩

theorem stepsAsk (named : (ofText path).names ≠ []) :
    (steps path).getLast? = some "." ↔ AsksFolder path := by
  have listed : (slashed path).filter (· != "") ≠ [] := fun none =>
    named (by rw [← World.namesSteps, steps, none]; simp)
  rcases Text.lastPlace '/' path.toList with single | ⟨a, b, chars, single⟩
  · have alone : slashed path = [path] := by simp [slashed, List.splitOn_eq_singleton single]
    have last : path.toList.getLast? ≠ some '/' := fun slash => single (List.mem_of_getLast? slash)
    have kept : path ≠ "" ∧ path ≠ "." := by simpa [ofText, alone] using named
    refine iff_of_false ?_ ?_
    · simp [steps, alone, last, kept]
    · rintro (slash | slash) <;> exact single (slash.subset List.mem_cons_self)
  · have pieces : slashed path = (a.splitOn '/').map String.ofList ++ [String.ofList b] := by
      rw [slashed, chars, splitLast single, List.map_append, List.map_singleton]
    rw [asksLast single chars]
    by_cases ends : b = []
    · subst ends
      have last : path.toList.getLast? = some '/' := by rw [chars, List.getLast?_concat]
      rw [steps, if_pos ⟨last, listed⟩, List.getLast?_concat]
      exact iff_of_true rfl (.inl rfl)
    · have last : path.toList.getLast? ≠ some '/' := by
        rw [chars, List.append_cons, List.getLast?_append_of_ne_nil _ ends]
        exact fun slash => single (List.mem_of_getLast? slash)
      have kept : [String.ofList b].filter (· != "") = [String.ofList b] :=
        List.filter_eq_self.mpr (by simpa using ends)
      rw [steps, if_neg fun both => last both.1, pieces, List.filter_append, kept, List.getLast?_concat, Option.some_inj,
        ← String.toList_inj, String.toList_ofList, or_iff_right ends]
      rfl

theorem zeroText (named : (ofText path).names ≠ []) (zeroless : hasZero (ofText path).text = false) :
    hasZero path = false := by
  simp only [hasZero, List.contains_eq_mem, decide_eq_false_iff_not] at zeroless ⊢
  intro zero
  have whole : ['/'].intercalate (path.toList.splitOn '/') = path.toList := List.intercalate_splitOn '/'
  rw [← whole] at zero
  rcases Text.joinedMember zero with slash | ⟨piece, listed, inside⟩
  · exact absurd (List.mem_singleton.mp slash) (by decide)
  · have member : String.ofList piece ∈ (ofText path).names := by
      refine List.mem_filter.mpr ⟨List.mem_map_of_mem listed, ?_⟩
      have other : ∀ word ∈ ["", "."], String.ofList piece ≠ word := by
        have clear : ∀ word ∈ ["", "."], '\x00' ∉ word.toList := by decide
        rintro word known same
        exact clear word known (by rwa [← same, String.toList_ofList])
      rw [Bool.and_eq_true, bne_iff_ne, bne_iff_ne]
      exact ⟨other "" (by simp), other "." (by simp)⟩
    refine zeroless ?_
    rw [textChars named]
    exact List.mem_append_right _ (Text.joinedHolds (List.mem_map_of_mem member) (by rwa [String.toList_ofList]))

theorem faultGiven (named : (ofText path).names ≠ []) (sound : pathFault? (ofText path).text = none) :
    pathFault? path = if pathLimit < path.utf8ByteSize then some .tooLong else none := by
  have zeroless : hasZero (ofText path).text = false := by
    by_contra zero
    rw [pathFault?, if_pos (by simpa using zero)] at sound
    contradiction
  have filled : path ≠ "" := by
    rintro rfl
    exact named rfl
  rw [pathFault?, zeroText named zeroless, if_neg (by decide), if_neg filled]

end Path

namespace World

variable {world : World} {path : String}

theorem startText (named : (Path.ofText path).names ≠ []) : world.start (Path.ofText path).text = world.start path := by
  rw [start, start, Path.textAbsolute named]

theorem startRoot : world.start path = if (Path.ofText path).root = "" then world.working else [] := by
  by_cases absolute : isAbsolute path = true
  · rw [start, if_pos absolute, if_neg (Path.absoluteRoot.mp absolute)]
  · rw [start, if_neg absolute, if_pos (not_not.mp fun filled => absolute (Path.absoluteRoot.mpr filled))]

end World
end EmailMarkup.Files
