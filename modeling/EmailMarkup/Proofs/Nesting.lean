import EmailMarkup.Proofs.Arrival

/-! The lines kept of a text, as a walk through its open tags. A line that is dropped leaves the open tags alone, so the
lines that are kept would all be kept again. Taking the blanks off both ends changes the role of no line that stays, and
what goes are blank lines under an open tag. So a text made of the kept lines is kept as it is. -/
namespace EmailMarkup.Stream
open Text (isBlank lines unlines strip linesWithout linesFeed stripBetween)

/-- Lines that are kept one after the other, with the tags that are open before them and behind them, innermost first.
A closing line closes the innermost tag, which has its name. -/
inductive Walk : List (List Char) → List (List Char) → List (List Char) → Prop where
  | nil {stack} : Walk stack [] stack
  | whole {stack line rest after} (role : role line = .whole) (tail : Walk stack rest after) :
      Walk stack (line :: rest) after
  | opens {stack line name rest after} (role : role line = .opens name) (tail : Walk (name :: stack) rest after) :
      Walk stack (line :: rest) after
  | closes {stack line name rest after} (role : role line = .closes name) (tail : Walk stack rest after) :
      Walk (name :: stack) (line :: rest) after
  | content {name outer line rest after} (role : role line = .content) (tail : Walk (name :: outer) rest after) :
      Walk (name :: outer) (line :: rest) after

inductive Mark where
  | opens (name : List Char)
  | closes (name : List Char)
  deriving DecidableEq, Repr

def Role.mark? : Role → Option Mark
  | .opens name => some (.opens name)
  | .closes name => some (.closes name)
  | _ => none

def marks (lines : List (List Char)) : List Mark := lines.filterMap fun line => (role line).mark?

/-- Every tag that is opened is closed again by its own name, and so are those opened in between. -/
inductive Closed : List Mark → Prop where
  | nil : Closed []
  | pair (name : List Char) {inner rest} (inside : Closed inner) (tail : Closed rest) :
      Closed (.opens name :: (inner ++ .closes name :: rest))

inductive Leaves : List Mark → List (List Char) → Prop where
  | closed {marks} (closed : Closed marks) : Leaves marks []
  | opened (name : List Char) {before rest names} (closed : Closed before) (tail : Leaves rest names) :
      Leaves (before ++ .opens name :: rest) (name :: names)

theorem closedAppend {a b : List Mark} (first : Closed a) (second : Closed b) : Closed (a ++ b) := by
  induction first with
  | nil => exact second
  | pair name inside _ _ ih =>
      have whole := Closed.pair name inside ih
      simpa using whole

theorem leavesOpens {marks : List Mark} {names : List (List Char)} (leaves : Leaves marks names) (name : List Char) :
    Leaves (marks ++ [.opens name]) (names ++ [name]) := by
  induction leaves with
  | closed closed => exact .opened name closed (.closed .nil)
  | opened outer closed _ ih =>
      have whole := Leaves.opened outer closed ih
      simpa using whole

theorem leavesCloses {marks : List Mark} {names : List (List Char)} {name : List Char}
    (leaves : Leaves marks (names ++ [name])) : Leaves (marks ++ [.closes name]) names := by
  generalize same : names ++ [name] = all at leaves
  induction leaves generalizing names with
  | closed closed => simp at same
  | @opened outer before rest inner closed tail ih =>
      cases names with
      | nil =>
          obtain ⟨rfl, rfl⟩ : name = outer ∧ inner = [] := by simpa [eq_comm] using same
          cases tail with
          | closed inside =>
              have whole := closedAppend closed (.pair name inside .nil)
              exact .closed (by simpa using whole)
      | cons first names =>
          obtain ⟨rfl, inside⟩ := List.cons.inj same
          have whole := Leaves.opened first closed (ih inside)
          simpa using whole

namespace Walk

variable {stack mid after a b rest : List (List Char)} {line other : List Char}

theorem append (first : Walk stack a mid) (second : Walk mid b after) : Walk stack (a ++ b) after := by
  induction first with
  | nil => exact second
  | whole role _ ih => exact .whole role (ih second)
  | opens role _ ih => exact .opens role (ih second)
  | closes role _ ih => exact .closes role (ih second)
  | content role _ ih => exact .content role (ih second)

theorem split (walk : Walk stack (a ++ b) after) : ∃ mid, Walk stack a mid ∧ Walk mid b after := by
  induction a generalizing stack with
  | nil => exact ⟨stack, .nil, walk⟩
  | cons line a ih =>
      cases walk with
      | whole role tail => exact (ih tail).imp fun _ both => ⟨.whole role both.1, both.2⟩
      | opens role tail => exact (ih tail).imp fun _ both => ⟨.opens role both.1, both.2⟩
      | closes role tail => exact (ih tail).imp fun _ both => ⟨.closes role both.1, both.2⟩
      | content role tail => exact (ih tail).imp fun _ both => ⟨.content role both.1, both.2⟩

theorem exchange (same : role line = role other) (walk : Walk stack (line :: rest) after) :
    Walk stack (other :: rest) after := by
  cases walk with
  | whole role tail => exact .whole (same ▸ role) tail
  | opens role tail => exact .opens (same ▸ role) tail
  | closes role tail => exact .closes (same ▸ role) tail
  | content role tail => exact .content (same ▸ role) tail

theorem skip (content : role line = .content) (walk : Walk stack (line :: rest) after) : Walk stack rest after := by
  cases walk with
  | content _ tail => exact tail
  | _ => simp_all

theorem first (walk : Walk [] (line :: rest) after) : role line ≠ .content := by
  cases walk <;> simp_all

theorem leaves (walk : Walk stack rest after) {before : List Mark} (left : Leaves before stack.reverse) :
    Leaves (before ++ marks rest) after.reverse := by
  induction walk generalizing before with
  | nil => simpa [marks] using left
  | whole role _ ih =>
      have tail := ih left
      simpa [marks, role, Role.mark?] using tail
  | @opens stack _ name _ _ role _ ih =>
      have more : Leaves (before ++ [.opens name]) (name :: stack).reverse := by
        rw [List.reverse_cons]
        exact leavesOpens left name
      have tail := ih more
      simpa [marks, role, Role.mark?] using tail
  | @closes stack _ name _ _ role _ ih =>
      rw [List.reverse_cons] at left
      have tail := ih (leavesCloses left)
      simpa [marks, role, Role.mark?] using tail
  | content role _ ih =>
      have tail := ih left
      simpa [marks, role, Role.mark?] using tail

end Walk

namespace Kept

theorem stepWalks (kept : Kept) (line : List Char) :
    kept.step line = kept ∨ ∃ stack, Walk kept.stack [line] stack ∧ kept.step line = ⟨stack, line :: kept.latest⟩ := by
  obtain ⟨stack, latest⟩ := kept
  cases is : role line with
  | whole => exact .inr ⟨stack, .whole is .nil, stepWhole is⟩
  | opens name => exact .inr ⟨name :: stack, .opens is .nil, stepOpens is⟩
  | closes name =>
      cases stack with
      | nil => exact .inl (by rw [step, is])
      | cons top outer =>
          by_cases same : top = name
          · subst same
            exact .inr ⟨outer, .closes is .nil, @stepCloses ⟨outer, latest⟩ line top is⟩
          · exact .inl (by rw [step, is]; exact if_neg same)
  | content =>
      cases stack with
      | nil => exact .inl (stepDropped is rfl)
      | cons top outer =>
          exact .inr ⟨top :: outer, .content is .nil, @stepContent ⟨outer, latest⟩ line is top⟩

theorem runSnoc (kept : Kept) (ls : List (List Char)) (line : List Char) :
    kept.run (ls ++ [line]) = (kept.run ls).step line := by
  rw [runAppend, runSingle]

theorem runSublist (ls : List (List Char)) : (empty.run ls).lines.Sublist ls := by
  induction ls using List.reverseRecOn with
  | nil => exact .slnil
  | append_singleton ls line ih =>
      rw [runSnoc]
      rcases (empty.run ls).stepWalks line with same | ⟨stack, _, kept⟩
      · rw [same]
        exact ih.trans (List.sublist_append_left ls [line])
      · rw [kept, lines, List.reverse_cons]
        exact ih.append (List.Sublist.refl [line])

theorem runWalks (ls : List (List Char)) : Walk [] (empty.run ls).lines (empty.run ls).stack := by
  induction ls using List.reverseRecOn with
  | nil => exact .nil
  | append_singleton ls line ih =>
      rw [runSnoc]
      rcases (empty.run ls).stepWalks line with same | ⟨stack, walk, kept⟩
      · rwa [same]
      · rw [kept, lines, List.reverse_cons]
        exact ih.append walk

theorem stepWalk {stack after : List (List Char)} {line : List Char} (walk : Walk stack [line] after)
    (latest : List (List Char)) : step ⟨stack, latest⟩ line = ⟨after, line :: latest⟩ := by
  cases walk with
  | whole role tail =>
      cases tail
      exact stepWhole role
  | opens role tail =>
      cases tail
      exact stepOpens role
  | @closes _ _ name _ _ role tail =>
      cases tail
      exact @stepCloses ⟨after, latest⟩ line name role
  | @content name outer _ _ _ role tail =>
      cases tail
      exact @stepContent ⟨outer, latest⟩ line role name

theorem runWalk {stack ls after : List (List Char)} (walk : Walk stack ls after) (latest : List (List Char)) :
    run ⟨stack, latest⟩ ls = ⟨after, ls.reverse ++ latest⟩ := by
  induction ls generalizing stack latest with
  | nil =>
      cases walk
      rfl
  | cons line ls ih =>
      obtain ⟨mid, first, rest⟩ := Walk.split (a := [line]) walk
      have start : run ⟨stack, latest⟩ (line :: ls) = (step ⟨stack, latest⟩ line).run ls := rfl
      rw [start, stepWalk first, ih rest]
      simp

end Kept

theorem roleBlank {line : List Char} (blank : ∀ c ∈ line, isBlank c = true) : role line = .content :=
  roleClear (Text.outsideAll blank (by decide))

theorem roleBetween {a s b : List Char} (before : ∀ c ∈ a, isBlank c = true) (after : ∀ c ∈ b, isBlank c = true) :
    role (a ++ s ++ b) = role s := by
  rw [role, stripBetween before after, ← role]

namespace Walk

variable {stack after rest : List (List Char)} {a s b : List Char}

theorem skipAll (content : ∀ line ∈ rest, role line = .content) (walk : Walk stack rest after) : stack = after := by
  induction rest with
  | nil =>
      cases walk
      rfl
  | cons line rest ih =>
      exact ih (fun l h => content l (List.mem_cons_of_mem _ h)) (walk.skip (content line List.mem_cons_self))

theorem dropFront (blank : ∀ c ∈ a, isBlank c = true) (walk : Walk [] (lines (a ++ s)) after) :
    Walk [] (lines s) after := by
  rcases Text.firstFeed a with single | ⟨line, r, rfl, alone⟩
  · obtain ⟨line, rest, old, new⟩ := Text.linesFront single s
    have same : role (a ++ line) = role line := by simpa using roleBetween (s := line) (b := []) blank (by simp)
    rw [new] at walk
    rw [old]
    exact walk.exchange same
  · rw [List.append_assoc, List.cons_append, linesFeed, linesWithout alone, List.singleton_append] at walk
    exact absurd (roleBlank fun c h => blank c (List.mem_append_left _ h)) walk.first

theorem dropBack (blank : ∀ c ∈ b, isBlank c = true) (walk : Walk stack (lines (s ++ b)) after) :
    Walk stack (lines s) after := by
  have some := List.getLast?_eq_some_getLast (Text.linesNonempty s)
  have alone : '\n' ∉ (lines s).getLast?.getD [] := by
    rw [some]
    exact Text.linesSingle s _ (List.getLast_mem _)
  obtain ⟨first, rest, old, new⟩ := Text.linesFront alone b
  have inside : ∀ line ∈ lines b, ∀ c ∈ line, isBlank c = true := fun line h c hc => blank c (Text.linesInside h hc)
  rw [old, List.forall_mem_cons] at inside
  have same : role ((lines s).getLast?.getD [] ++ first) = role ((lines s).getLast?.getD []) :=
    roleBetween (a := []) (by simp) inside.1
  rw [Text.linesAppend, new] at walk
  obtain ⟨mid, front, behind⟩ := walk.split
  obtain ⟨last, here, tail⟩ := Walk.split (a := [(lines s).getLast?.getD []]) (behind.exchange same)
  rw [tail.skipAll fun line h => roleBlank (inside.2 line h)] at here
  rw [Text.linesSnoc]
  exact front.append here

end Walk

namespace Kept

theorem textUnlines {kept : Kept} (some : kept.lines ≠ []) : kept.text = strip (unlines kept.lines) := by
  rw [text, Text.unlinesFeeds some]
  exact stripBetween (a := []) (by simp) (by decide)

theorem runText (ls : List (List Char)) (single : ∀ line ∈ ls, '\n' ∉ line) :
    (empty.run (Text.lines (empty.run ls).text)).stack = (empty.run ls).stack ∧
    (empty.run (Text.lines (empty.run ls).text)).text = (empty.run ls).text := by
  have walk := runWalks ls
  have whole := runSublist ls
  generalize empty.run ls = kept at walk whole ⊢
  by_cases none : kept.lines = []
  · have blank : kept.text = [] := by rw [text, none]; rfl
    have dropped : empty.run (Text.lines kept.text) = empty := by
      rw [blank]
      exact runDropped (linesClear (by simp)) rfl
    rw [none] at walk
    rw [dropped, blank]
    exact ⟨walk.skipAll (by simp), rfl⟩
  · have again : Text.lines (unlines kept.lines) = kept.lines :=
      Text.linesUnlines (fun line h => single line (whole.subset h)) none
    obtain ⟨a, b, same, before, after⟩ := Text.stripSplit (unlines kept.lines)
    rw [← again, same, ← textUnlines none] at walk
    have run := runWalk ((walk.dropBack after).dropFront before) []
    rw [List.append_nil] at run
    have lines : (empty.run (Text.lines kept.text)).lines = Text.lines kept.text := by
      rw [empty, run, Kept.lines, List.reverse_reverse]
    refine ⟨by rw [empty, run], ?_⟩
    rw [textUnlines (by rw [lines]; exact Text.linesNonempty _), lines, Text.unlinesLines, textUnlines none,
      Text.stripTwice]

end Kept

namespace Session

theorem nestsKept (events : List Event) (last : String) (ids others : Ids) :
    let text := received events ++ last.toList
    let session := (run ({}, ids) (events ++ [.append last])).1
    let again := (({} : Session).append session.wellFormed others).session
    session.kept.lines.Sublist (lines text) ∧
    Walk [] session.kept.lines session.kept.stack ∧ Leaves (marks session.kept.lines) session.kept.openTags ∧
    again.wellFormed = session.wellFormed ∧ again.kept.openTags = session.kept.openTags ∧
    again.status = session.status := by
  intro text session again
  have first : After session text _ := runAfter events last ids
  have second : After again ([] ++ session.wellFormed.toList) [] := appendAfter freshFollows _ others
  rw [List.nil_append, wellFormed, String.toList_ofList, first.kept] at second
  obtain ⟨stack, kept⟩ := Kept.runText (lines text) (Text.linesSingle text)
  have walk := Kept.runWalks (lines text)
  have opened : Leaves ([] ++ marks _) _ := walk.leaves (.closed .nil)
  rw [← first.kept] at walk opened
  refine ⟨first.kept ▸ Kept.runSublist (lines text), walk, opened, ?_, ?_, ?_⟩
  · rw [wellFormed, second.kept, kept, ← first.kept, ← wellFormed]
  · rw [Kept.openTags, second.kept, stack, ← first.kept, ← Kept.openTags]
  · rw [second.status, first.status, verdict, kept, stack, ← verdict]

end Session
end EmailMarkup.Stream
