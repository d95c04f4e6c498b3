import EmailMarkup.Query
import Mathlib.Data.List.Basic
import Mathlib.Data.List.Induction

/-! Lower case of a part of a text. Only a capital sigma looks at its neighbours, so the lower case of a needle stands in
the lower case of every text around it if the needle itself tells the form of each of its sigmas. Where it does not, a
letter before or behind the needle makes a text that holds it and is not found any more when case is ignored. Most
letters of ASCII are the lower case of themselves and their capitals alone, so lower case shows where a text ends in
them. -/
namespace EmailMarkup.Text

def lowerAt (afterCased : Bool) (c : Char) (rest : List Char) : List Char :=
  if c = 'Σ' then [if endsWord afterCased rest then 'ς' else 'σ'] else lowerChar c

def casedNext (afterCased : Bool) (c : Char) : Bool :=
  if caseIgnorable.covers c then afterCased else cased.covers c

def lowerBefore (behind : List Char) (afterCased : Bool) : List Char → List Char
  | [] => []
  | c :: rest => lowerAt afterCased c (rest ++ behind) ++ lowerBefore behind (casedNext afterCased c) rest

def casedAhead? (s : List Char) : Option Bool := ((s.dropWhile caseIgnorable.covers).head?).map cased.covers

def endsWord? : (before behind : Option Bool) → Option Bool
  | some false, _ => some false
  | _, some true => some false
  | some true, some false => some true
  | _, _ => none

/-- Whether a text itself tells the form of each of its capital sigmas. The first argument is what is known of the
characters before it. -/
def formsKnown (before : Option Bool) : List Char → Bool
  | [] => true
  | c :: rest =>
      (c != 'Σ' || (endsWord? before (casedAhead? rest)).isSome) &&
        formsKnown (if caseIgnorable.covers c then before else some (cased.covers c)) rest

theorem lowerFromBefore (afterCased : Bool) (s behind : List Char) : lowerFrom afterCased (s ++ behind) =
    lowerBefore behind afterCased s ++ lowerFrom (s.foldl casedNext afterCased) behind := by
  induction s generalizing afterCased with
  | nil => rfl
  | cons c s ih =>
      have step : lowerFrom afterCased (c :: (s ++ behind)) =
          lowerAt afterCased c (s ++ behind) ++ lowerFrom (casedNext afterCased c) (s ++ behind) := rfl
      rw [List.cons_append, step, ih, lowerBefore, List.append_assoc, List.foldl_cons]

theorem lowerFromAlone (afterCased : Bool) (s : List Char) : lowerFrom afterCased s = lowerBefore [] afterCased s := by
  have whole := lowerFromBefore afterCased s []
  simpa [lowerFrom] using whole

theorem lowerAtLength (before after : Bool) (c : Char) (s t : List Char) :
    (lowerAt before c s).length = (lowerAt after c t).length := by
  unfold lowerAt
  split <;> rfl

theorem lowerBeforeLength (behind other : List Char) (before after : Bool) (s : List Char) :
    (lowerBefore behind before s).length = (lowerBefore other after s).length := by
  induction s generalizing before after with
  | nil => rfl
  | cons c s ih =>
      simp only [lowerBefore, List.length_append]
      rw [lowerAtLength before after c _ (s ++ other), ih _ (casedNext after c)]

theorem casedAheadAppend (s behind : List Char) : casedAhead? (s ++ behind) = (casedAhead? s).or (casedAhead? behind) := by
  induction s with
  | nil => rfl
  | cons c s ih =>
      cases h : caseIgnorable.covers c <;> simp_all [casedAhead?]

theorem endsWordAhead (afterCased : Bool) (s : List Char) :
    endsWord afterCased s = (afterCased && casedAhead? s != some true) := by
  unfold endsWord casedAhead?
  cases (s.dropWhile caseIgnorable.covers).head? with
  | none => simp
  | some c => cases h : cased.covers c <;> simp [h]

/- What is known decides the form in every surrounding that agrees with it. -/
theorem endsWordKnown {before : Option Bool} {s : List Char} {ends afterCased : Bool}
    (known : endsWord? before (casedAhead? s) = some ends) (agrees : ∀ b ∈ before, b = afterCased) (behind : List Char) :
    endsWord afterCased (s ++ behind) = ends := by
  rw [endsWordAhead, casedAheadAppend]
  unfold endsWord? at known
  split at known <;> simp_all

theorem lowerKnown {before : Option Bool} {s : List Char} (known : formsKnown before s = true) {one other : Bool}
    (here : ∀ b ∈ before, b = one) (there : ∀ b ∈ before, b = other) (behind beyond : List Char) :
    lowerBefore behind one s = lowerBefore beyond other s := by
  induction s generalizing before one other with
  | nil => rfl
  | cons c s ih =>
      simp only [formsKnown, Bool.and_eq_true, Bool.or_eq_true, bne_iff_ne] at known
      obtain ⟨form, tail⟩ := known
      have first : lowerAt one c (s ++ behind) = lowerAt other c (s ++ beyond) := by
        by_cases sigma : c = 'Σ'
        · obtain ⟨ends, told⟩ := Option.isSome_iff_exists.mp (form.resolve_left (not_not.mpr sigma))
          simp only [lowerAt, if_pos sigma, endsWordKnown told here behind, endsWordKnown told there beyond]
        · simp only [lowerAt, if_neg sigma]
      have rest : lowerBefore behind (casedNext one c) s = lowerBefore beyond (casedNext other c) s := by
        cases ignored : caseIgnorable.covers c with
        | true =>
            simp only [ignored, if_true] at tail
            simpa [casedNext, ignored] using ih tail here there
        | false =>
            simp only [ignored, Bool.false_eq_true, if_false] at tail
            simpa [casedNext, ignored] using ih tail (by simp) (by simp)
      rw [lowerBefore, lowerBefore, first, rest]

theorem infixLower {needle s : List Char} (known : formsKnown none needle = true) (inside : needle <:+: s) :
    lower needle <:+: lower s := by
  obtain ⟨before, behind, rfl⟩ := inside
  have same : lowerBefore behind (before.foldl casedNext false) needle = lowerBefore [] false needle :=
    lowerKnown known (by simp) (by simp) behind []
  rw [lower, lower, List.append_assoc, lowerFromBefore, lowerFromBefore, same, ← lowerFromAlone, ← List.append_assoc]
  exact ⟨_, _, rfl⟩

theorem lowerBeforeCons {behind beyond : List Char} {one other : Bool} {c : Char} {s : List Char}
    (same : lowerBefore behind one (c :: s) = lowerBefore beyond other (c :: s)) :
    lowerAt one c (s ++ behind) = lowerAt other c (s ++ beyond) ∧
    lowerBefore behind (casedNext one c) s = lowerBefore beyond (casedNext other c) s :=
  List.append_inj same (lowerAtLength one other c _ _)

theorem sigmaForms {one other : Bool} {s t : List Char} (same : lowerAt one 'Σ' s = lowerAt other 'Σ' t) :
    endsWord one s = endsWord other t := by
  simp only [lowerAt, if_true] at same
  cases h : endsWord one s <;> cases k : endsWord other t <;> simp_all

def Letter (c : Char) : Prop := caseIgnorable.covers c = false ∧ cased.covers c = true
instance (c) : Decidable (Letter c) := by unfold Letter; infer_instance

theorem casedAheadLetter {c : Char} (letter : Letter c) : casedAhead? [c] = some true := by
  simp [casedAhead?, letter.1, letter.2]

theorem unknownBehind {before : Bool} {behind : Option Bool} (unknown : (endsWord? (some before) behind).isSome = false) :
    before = true ∧ behind = none := by
  rcases before with _ | _ <;> rcases behind with _ | _ | _ <;> simp_all [endsWord?]

theorem unknownAround {behind : Option Bool} (unknown : (endsWord? none behind).isSome = false) : behind ≠ some true := by
  rintro rfl
  simp [endsWord?] at unknown

theorem missesBehind {before : Bool} {s : List Char} (unknown : formsKnown (some before) s = false) {c : Char}
    (letter : Letter c) : lowerBefore [c] before s ≠ lowerBefore [] before s := by
  induction s generalizing before with
  | nil => simp [formsKnown] at unknown
  | cons d s ih =>
      intro same
      obtain ⟨first, rest⟩ := lowerBeforeCons same
      simp only [formsKnown, Bool.and_eq_false_iff, Bool.or_eq_false_iff, bne_eq_false_iff_eq] at unknown
      rcases unknown with ⟨rfl, form⟩ | later
      · obtain ⟨rfl, nothing⟩ := unknownBehind form
        have forms := sigmaForms first
        simp [endsWordAhead, casedAheadAppend, casedAheadLetter letter, nothing] at forms
      · refine ih ?_ rest
        cases ignored : caseIgnorable.covers d <;> simpa [casedNext, ignored] using later

theorem missesAround {s : List Char} (unknown : formsKnown none s = false) :
    lowerBefore [] true s ≠ lowerBefore [] false s ∨
      ∀ c, Letter c → lowerBefore [c] false s ≠ lowerBefore [] false s := by
  induction s with
  | nil => simp [formsKnown] at unknown
  | cons d s ih =>
      simp only [formsKnown, Bool.and_eq_false_iff, Bool.or_eq_false_iff, bne_eq_false_iff_eq] at unknown
      rcases unknown with ⟨rfl, form⟩ | later
      · refine .inl fun same => ?_
        have forms := sigmaForms (lowerBeforeCons same).1
        have uncased := unknownAround form
        simp [endsWordAhead, uncased] at forms
      · cases ignored : caseIgnorable.covers d with
        | true =>
            simp only [ignored, if_true] at later
            have tail : ∀ {behind one other}, lowerBefore behind one (d :: s) = lowerBefore [] other (d :: s) →
                lowerBefore behind one s = lowerBefore [] other s := by
              intro behind one other same
              simpa [casedNext, ignored] using (lowerBeforeCons same).2
            exact (ih later).imp (fun apart same => apart (tail same)) fun apart c letter same =>
              apart c letter (tail same)
        | false =>
            simp only [ignored, Bool.false_eq_true, if_false] at later
            refine .inr fun c letter same => missesBehind later letter ?_
            simpa [casedNext, ignored] using (lowerBeforeCons same).2

theorem infixBehindOne {α : Type} {a : α} {s t : List α} (even : s.length = t.length) (inside : s <:+: a :: t) :
    s = t ∨ s.head? = some a := by
  rcases List.infix_cons_iff.mp inside with starts | later
  · cases s with
    | nil => exact .inl (List.length_eq_zero_iff.mp even.symm).symm
    | cons b s => exact .inr (congrArg some (List.cons_prefix_cons.mp starts).1)
  · exact .inl (later.eq_of_length even)

theorem infixBeforeOne {α : Type} {a : α} {s t : List α} (even : s.length = t.length) (inside : s <:+: t ++ [a]) :
    s = t ∨ s.getLast? = some a := by
  have back : s.reverse <:+: a :: t.reverse := by simpa using List.reverse_infix.mpr inside
  rcases infixBehindOne (by simpa using even) back with same | first
  · exact .inl (List.reverse_inj.mp same)
  · exact .inr (by simpa using first)

theorem letterOther (found : Option Char) :
    ∃ c, Letter c ∧ (∀ before s, lowerAt before c s = [c]) ∧ found ≠ some c := by
  by_cases same : found = some 'a'
  · exact ⟨'b', by decide +kernel, fun _ _ => rfl, by simp [same]⟩
  · exact ⟨'a', by decide +kernel, fun _ _ => rfl, same⟩

theorem lostInside {needle : List Char} (unknown : formsKnown none needle = false) :
    ∃ s, needle <:+: s ∧ ¬ lower needle <:+: lower s := by
  have alone : lower needle = lowerBefore [] false needle := lowerFromAlone false needle
  have even : ∀ behind before, (lower needle).length = (lowerBefore behind before needle).length :=
    fun behind before => alone ▸ lowerBeforeLength [] behind false before needle
  rcases missesAround unknown with apart | apart
  · obtain ⟨c, letter, plain, front⟩ := letterOther (lower needle).head?
    refine ⟨c :: needle, (List.suffix_cons c needle).isInfix, fun inside => ?_⟩
    have text : lower (c :: needle) = c :: lowerBefore [] true needle := by
      rw [lower, lowerFromAlone, lowerBefore, plain, casedNext, if_neg (by simp [letter.1]), letter.2]
      rfl
    rw [text] at inside
    rcases infixBehindOne (even [] true) inside with same | first
    · exact apart (same.symm.trans alone)
    · exact front first
  · obtain ⟨c, letter, plain, back⟩ := letterOther (lower needle).getLast?
    refine ⟨needle ++ [c], (List.prefix_append needle [c]).isInfix, fun inside => ?_⟩
    have text : lower (needle ++ [c]) = lowerBefore [c] false needle ++ [c] := by
      rw [lower, lowerFromBefore, lowerFromAlone _ [c], lowerBefore, plain]
      rfl
    rw [text] at inside
    rcases infixBeforeOne (even [c] false) inside with same | last
    · exact apart c letter (same.symm.trans alone)
    · exact back last

def Settled (a : Char) : Prop := a.toNat < 0x80 ∧ a ≠ 'k' ∧ a ≠ '\x00'
instance (a) : Decidable (Settled a) := by unfold Settled; infer_instance

theorem lowerRunsTargets : ∀ run ∈ lowerRuns, 0x80 ≤ run.target ∨ run.target = 'k'.toNat ∧ run.first = run.last := by
  decide +kernel

theorem codeOfNat (n : Nat) : (Char.ofNat n).toNat = n ∨ Char.ofNat n = '\x00' := by
  by_cases valid : n.isValidChar
  · exact .inl (by rw [Char.ofNat, dif_pos valid]; rfl)
  · exact .inr (by rw [Char.ofNat, dif_neg valid]; rfl)

theorem imageUnsettled {run : CaseRun} (listed : run ∈ lowerRuns) {c d : Char} (image : run.image? c = some d) :
    ¬ Settled d := by
  unfold CaseRun.image? at image
  split at image
  · rename_i inside
    cases image
    rintro ⟨ascii, other, filled⟩
    have code := (codeOfNat _).resolve_right filled
    rcases lowerRunsTargets run listed with high | ⟨target, single⟩
    · omega
    · have kelvin : run.target + (c.toNat - run.first) = 'k'.toNat := by omega
      exact other (kelvin ▸ rfl)
  · contradiction

theorem lowerHigh {c : Char} (high : ¬ c.toNat < 0x80) : c.toLower = c := by
  unfold Char.toLower
  refine dif_neg fun capital => high ?_
  have last : c.toNat ≤ 'Z'.toNat := capital.2
  exact Nat.lt_of_le_of_lt last (by decide)

section Settled

variable {a : Char} (settled : Settled a)
include settled

theorem lowerAtLetter (afterCased : Bool) {c : Char} (letter : c.toLower = a) (rest : List Char) :
    lowerAt afterCased c rest = [a] := by
  have low : c.toNat < 0x80 := by
    by_contra high
    exact high (lowerHigh high ▸ letter ▸ settled.1)
  have other : c ≠ 'Σ' := by
    rintro rfl
    contradiction
  rw [lowerAt, if_neg other, lowerChar, if_pos low, letter]

theorem lowerAtLast {afterCased : Bool} {c : Char} {rest : List Char}
    (last : (lowerAt afterCased c rest).getLast? = some a) : c.toLower = a := by
  have never {d : Char} (same : [d].getLast? = some a) : Settled d := by
    cases same
    exact settled
  unfold lowerAt lowerChar at last
  split at last
  · split at last <;> exact absurd (never last) (by decide)
  · split at last
    · exact Option.some.inj last
    · rename_i high
      split at last
      · exact absurd (never last) (by decide)
      · cases image : lowerRuns.findSome? (·.image? c) with
        | none =>
            rw [image] at last
            exact absurd (never last).1 high
        | some d =>
            rw [image] at last
            obtain ⟨run, listed, here⟩ := List.exists_of_findSome?_eq_some image
            exact absurd (never last) (imageUnsettled listed here)

end Settled

theorem lowerAtFilled (afterCased : Bool) (c : Char) (rest : List Char) : lowerAt afterCased c rest ≠ [] := by
  unfold lowerAt lowerChar
  split
  · simp
  · split
    · simp
    · split <;> simp

theorem lowerBeforeSnoc (behind : List Char) (afterCased : Bool) (s : List Char) (c : Char) :
    lowerBefore behind afterCased (s ++ [c]) =
      lowerBefore (c :: behind) afterCased s ++ lowerAt (s.foldl casedNext afterCased) c behind := by
  induction s generalizing afterCased with
  | nil => simp [lowerBefore]
  | cons d s ih => simp [lowerBefore, ih]

theorem lowerEnds {ending : List Char} (settled : ∀ a ∈ ending, Settled a) (behind : List Char) (afterCased : Bool)
    (s : List Char) : ending <:+ lowerBefore behind afterCased s ↔
      ∃ stem tail, s = stem ++ tail ∧ tail.map Char.toLower = ending := by
  induction ending using List.reverseRecOn generalizing behind s with
  | nil => exact iff_of_true List.nil_suffix ⟨s, [], by simp⟩
  | append_singleton ending a ih =>
      rw [List.forall_mem_append, List.forall_mem_singleton] at settled
      rcases s.eq_nil_or_concat' with rfl | ⟨s, c, rfl⟩
      · simp [lowerBefore]
      · rw [lowerBeforeSnoc]
        constructor
        · rintro ⟨front, whole⟩
          have last := congrArg List.getLast? whole
          rw [List.getLast?_append_of_ne_nil _ (lowerAtFilled _ c behind), ← List.append_assoc,
            List.getLast?_concat] at last
          have letter := lowerAtLast settled.2 last.symm
          rw [lowerAtLetter settled.2 _ letter, ← List.append_assoc] at whole
          obtain ⟨stem, tail, rfl, letters⟩ :=
            (ih settled.1 (c :: behind) s).mp ⟨front, (List.append_inj' whole rfl).1⟩
          exact ⟨stem, tail ++ [c], by simp, by simp [letters, letter]⟩
        · rintro ⟨stem, tail, parts, letters⟩
          obtain ⟨tail, final, rfl, rfl, single⟩ := List.map_eq_append_iff.mp letters
          obtain ⟨d, rfl, letter⟩ := List.map_eq_singleton_iff.mp single
          rw [← List.append_assoc] at parts
          obtain ⟨rfl, same⟩ := List.append_inj' parts rfl
          cases same
          rw [lowerAtLetter settled.2 _ letter]
          obtain ⟨front, whole⟩ := (ih settled.1 (c :: behind) _).mpr ⟨stem, tail, rfl, rfl⟩
          exact ⟨front, by rw [← List.append_assoc, whole]⟩

end EmailMarkup.Text

namespace EmailMarkup.Email

theorem byTextSublist {needle : String} (found : ∀ s, needle.toList <:+: s → Text.lower needle.toList <:+: Text.lower s)
    (email : Email) : (email.byText needle true).Sublist (email.byText needle false) := by
  refine List.monotone_filter_right email fun component here => ?_
  cases text : prose? component.props with
  | none => simp [text] at here
  | some s =>
      simp only [text, if_true, Option.any_some, id, Text.occursIff] at here
      simpa [text, Text.occursIff] using found s.toList here

theorem widensSearch (needle : String) : Text.formsKnown none needle.toList = true ↔
    ∀ email : Email, (email.byText needle true).Sublist (email.byText needle false) := by
  constructor
  · intro known email
    exact byTextSublist (fun s inside => Text.infixLower known inside) email
  · intro widens
    by_contra unknown
    obtain ⟨s, inside, lost⟩ := Text.lostInside (Bool.eq_false_iff.mpr unknown)
    have whole := widens [⟨.str "", .text { text := String.ofList s }⟩]
    simp [byText, prose?, Text.occursIff, inside, lost] at whole

def greekEmail : Email := [⟨.str "t", .text { text := "ΑΣΑ" }⟩]

theorem losesSigma : (greekEmail.byText "ΑΣ" true).map (·.id) = [.str "t"] ∧
    (greekEmail.byText "ΑΣ" false).map (·.id) = [] ∧
    ¬ ∀ (email : Email) (needle : String), (email.byText needle true).Sublist (email.byText needle false) := by
  have found : (greekEmail.byText "ΑΣ" true).map (·.id) = [.str "t"] := by decide +kernel
  have lost : (greekEmail.byText "ΑΣ" false).map (·.id) = [] := by decide +kernel
  refine ⟨found, lost, fun widens => ?_⟩
  have kept := (widens greekEmail "ΑΣ").map (·.id)
  simp [found, lost] at kept

end EmailMarkup.Email
