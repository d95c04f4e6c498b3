/-! Reading pieces out of a text from left to right. Where a piece starts it is taken whole and reading goes on
behind it; any other character stays in place. -/
namespace EmailMarkup.Markup

variable {α : Type}

abbrev Reader (α : Type) := List Char → Option (α × List Char)

structure Swept (α : Type) where
  items : List α
  residue : List Char
  deriving DecidableEq, Repr

def Swept.pick (a : α) (s : Swept α) : Swept α := { s with items := a :: s.items }

def Swept.keep (c : Char) (s : Swept α) : Swept α := { s with residue := c :: s.residue }

def sweepWith (read? : Reader α) : Nat → List Char → Swept α
  | 0, s => ⟨[], s⟩
  | _ + 1, [] => ⟨[], []⟩
  | fuel + 1, c :: rest =>
      match read? (c :: rest) with
      | some (a, after) => (sweepWith read? fuel after).pick a
      | none => (sweepWith read? fuel rest).keep c

/-- Every step takes a character at least, so the length of the text suffices. -/
def sweep (read? : Reader α) (s : List Char) : Swept α := sweepWith read? s.length s

def Shortens (read? : Reader α) : Prop :=
  ∀ s a after, read? s = some (a, after) → after.length < s.length

theorem sweepWithEnough {read? : Reader α} (short : Shortens read?) {fuel : Nat} {s : List Char}
    (enough : s.length ≤ fuel) : sweepWith read? fuel s = sweep read? s := by
  unfold sweep
  induction fuel using Nat.strongRecOn generalizing s with
  | _ fuel ih =>
    cases s with
    | nil => cases fuel <;> rfl
    | cons c rest =>
        cases fuel with
        | zero => simp at enough
        | succ fuel =>
            have enough : rest.length ≤ fuel := by simpa using enough
            simp only [List.length_cons, sweepWith]
            cases h : read? (c :: rest) with
            | none => simp only [ih fuel (Nat.lt_succ_self _) enough]
            | some found =>
                obtain ⟨a, after⟩ := found
                have shorter : after.length ≤ rest.length := Nat.le_of_lt_succ (short _ _ _ h)
                simp only
                rw [ih fuel (Nat.lt_succ_self _) (Nat.le_trans shorter enough),
                  ih rest.length (by omega) shorter]

theorem sweepNil (read? : Reader α) : sweep read? [] = ⟨[], []⟩ := rfl

theorem sweepPiece {read? : Reader α} (short : Shortens read?) {s : List Char} {a : α} {after : List Char}
    (found : read? s = some (a, after)) : sweep read? s = (sweep read? after).pick a := by
  cases s with
  | nil => exact absurd (short _ _ _ found) (by simp)
  | cons c rest =>
      have shorter : after.length ≤ rest.length := Nat.le_of_lt_succ (short _ _ _ found)
      rw [← sweepWithEnough short shorter]
      simp [sweep, sweepWith, found]

theorem sweepChar {read? : Reader α} {c : Char} {rest : List Char} (absent : read? (c :: rest) = none) :
    sweep read? (c :: rest) = (sweep read? rest).keep c := by
  simp [sweep, sweepWith, absent]

end EmailMarkup.Markup
