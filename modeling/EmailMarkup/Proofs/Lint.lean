import EmailMarkup.Lint
import EmailMarkup.Proofs.WellFormed

/-! What lint reports. A component has an issue exactly if it is flawed, the issues stand in the order of the components,
and those of two emails in a row are the issues of each, those of the second moved behind the first. Components that are
read from markup or accepted as JSON have no empty field, so none of them is reported for a missing description. -/
namespace EmailMarkup.Lint

/-- The flaws a record can have. No record has two of them. -/
inductive Flawed (limit : Int) : Props → Flaw → Prop where
  | address {button : Button} (other : ¬ "http".toList <+: button.href.toList) :
      Flawed limit (.button button) .buttonAddress
  | description {image : Image} (missing : image.alt = "") : Flawed limit (.image image) .missingAlt
  | length {block : TextBlock} (long : limit < block.text.toList.length) : Flawed limit (.text block) .longText

theorem flawIff {limit : Int} {props : Props} {flaw : Flaw} :
    flaw? limit props = some flaw ↔ Flawed limit props flaw := by
  constructor
  · intro found
    unfold flaw? at found
    split at found <;> try contradiction
    all_goals split at found <;> try contradiction
    all_goals cases found
    case h_1 button other => exact .address fun starts => other (List.isPrefixOf_iff_prefix.mpr starts)
    case h_2 image missing => exact .description missing
    case h_3 block long => exact .length (by rwa [String.length_toList])
  · intro flawed
    cases flawed with
    | address other => exact if_neg fun starts => other (List.isPrefixOf_iff_prefix.mp starts)
    | description missing => exact if_pos missing
    | length long => exact if_pos (by rwa [String.length_toList] at long)

theorem issuesFromCons (limit : Int) (start : Nat) (props : Props) (rest : List Props) :
    issuesFrom limit start (props :: rest) =
      ((flaw? limit props).map (Issue.flaw start)).toList ++ issuesFrom limit (start + 1) rest := rfl

theorem issuesFromAppend (limit : Int) (start : Nat) (a b : List Props) :
    issuesFrom limit start (a ++ b) = issuesFrom limit start a ++ issuesFrom limit (start + a.length) b := by
  induction a generalizing start with
  | nil => rfl
  | cons props a ih =>
      rw [List.cons_append, issuesFromCons, ih, issuesFromCons, List.append_assoc, List.length_cons, Nat.add_assoc,
        Nat.add_comm 1]

theorem issuesFromLater (limit : Int) (start further : Nat) (contents : List Props) :
    (issuesFrom limit (start + further) contents).map Issue.index =
      ((issuesFrom limit start contents).map Issue.index).map (· + (further : Int)) := by
  induction contents generalizing start with
  | nil => rfl
  | cons props rest ih =>
      rw [issuesFromCons, issuesFromCons, Nat.add_right_comm, List.map_append, ih, List.map_append, List.map_append]
      cases flaw? limit props with
      | none => rfl
      | some flaw => simp [Issue.index]

theorem issueIff {limit : Int} {start : Nat} {contents : List Props} {issue : Issue} :
    issue ∈ issuesFrom limit start contents ↔ ∃ i props flaw, contents[i]? = some props ∧ Flawed limit props flaw ∧
      issue = .flaw (start + i) flaw := by
  induction contents generalizing start with
  | nil => simp [issuesFrom]
  | cons first rest ih =>
      rw [issuesFromCons, List.mem_append, ih, Option.mem_toList, Option.map_eq_some_iff]
      constructor
      · rintro (⟨flaw, found, rfl⟩ | ⟨i, props, flaw, place, flawed, rfl⟩)
        · exact ⟨0, first, flaw, rfl, flawIff.mp found, rfl⟩
        · exact ⟨i + 1, props, flaw, place, flawed, by rw [Nat.add_assoc, Nat.add_comm 1]⟩
      · rintro ⟨i, props, flaw, place, flawed, rfl⟩
        cases i with
        | zero =>
            cases place
            exact .inl ⟨flaw, flawIff.mpr flawed, rfl⟩
        | succ i => exact .inr ⟨i, props, flaw, place, flawed, by rw [Nat.add_assoc, Nat.add_comm 1]⟩

theorem indicesRise (limit : Int) (start : Nat) (contents : List Props) :
    ((issuesFrom limit start contents).map Issue.index).Pairwise (· < ·) := by
  induction contents generalizing start with
  | nil => exact .nil
  | cons props rest ih =>
      rw [issuesFromCons, List.map_append]
      cases flaw? limit props with
      | none => exact ih (start + 1)
      | some flaw =>
          refine List.pairwise_cons.mpr ⟨fun index member => ?_, ih (start + 1)⟩
          obtain ⟨issue, found, rfl⟩ := List.mem_map.mp member
          obtain ⟨i, _, _, _, _, rfl⟩ := issueIff.mp found
          simp only [Issue.index]
          omega

theorem issuesShown {email other : Email} (same : email.contents = other.contents) (limit : Int) :
    issues limit email = issues limit other := by
  have blank : email.isEmpty = other.isEmpty := by
    have lengths := congrArg List.isEmpty same
    simpa [Email.contents] using lengths
  rw [issues, blank, same, issues]

theorem issuesFilled {email : Email} (filled : email ≠ []) (limit : Int) :
    issues limit email = issuesFrom limit 0 email.contents := by
  rw [issues, if_neg (by simpa using filled)]

theorem reportIff {limit : Int} {email : Email} {issue : Issue} :
    issue ∈ issues limit email ↔ issue = .empty ∧ email = [] ∨ ∃ i component flaw,
      email[i]? = some component ∧ Flawed limit component.props flaw ∧ issue = .flaw i flaw := by
  by_cases filled : email = []
  · subst filled
    simp [issues]
  · rw [issuesFilled filled, issueIff, or_iff_right fun none => filled none.2]
    simp only [Nat.zero_add, Email.contents, List.getElem?_map, Option.map_eq_some_iff]
    constructor
    · rintro ⟨i, _, flaw, ⟨component, place, rfl⟩, flawed, same⟩
      exact ⟨i, component, flaw, place, flawed, same⟩
    · rintro ⟨i, component, flaw, place, flawed, same⟩
      exact ⟨i, _, flaw, ⟨component, place, rfl⟩, flawed, same⟩

theorem wellFormedDescribed {component : Component} (formed : component.WellFormed) (limit : Int) :
    ¬ Flawed limit component.props .missingAlt := by
  intro flawed
  generalize same : component.props = props at flawed
  cases flawed with
  | @description image missing =>
      have held : (Field.alt, image.alt) ∈ component.props.fields := by simp [same, Props.fields]
      exact formed.filled _ held missing

theorem reportsFlawed (limit : Int) (email : Email) :
    ((issues limit email).map Issue.index).Pairwise (· < ·) ∧
    (∀ index, index ∈ (issues limit email).map Issue.index ↔ index = -1 ∧ email = [] ∨
      ∃ (i : Nat) (component : Component) (flaw : Flaw),
        index = i ∧ email[i]? = some component ∧ Flawed limit component.props flaw) ∧
    (∀ i flaw, .flaw i flaw ∈ issues limit email ↔
      ∃ component, email[i]? = some component ∧ Flawed limit component.props flaw) ∧
    (∀ other : Email, email ≠ [] → other ≠ [] → (issues limit (email ++ other)).map Issue.index =
      (issues limit email).map Issue.index ++ ((issues limit other).map Issue.index).map (· + (email.length : Int))) ∧
    ((∀ component ∈ email, (∃ source ids, component ∈ (Email.read source ids).1) ∨
        ∃ halves value ids later, Component.ofJson halves value ids = .ok (component, later)) →
      ∀ i, .flaw i .missingAlt ∉ issues limit email) := by
  refine ⟨?_, fun index => ?_, fun i flaw => ?_, fun other filled more => ?_, fun made i reported => ?_⟩
  · by_cases filled : email = []
    · subst filled
      exact List.pairwise_singleton _ _
    · rw [issuesFilled filled]
      exact indicesRise limit 0 email.contents
  · simp only [List.mem_map, reportIff]
    constructor
    · rintro ⟨issue, ⟨rfl, none⟩ | ⟨i, component, flaw, place, flawed, rfl⟩, rfl⟩
      · exact .inl ⟨rfl, none⟩
      · exact .inr ⟨i, component, flaw, rfl, place, flawed⟩
    · rintro (⟨rfl, none⟩ | ⟨i, component, flaw, rfl, place, flawed⟩)
      · exact ⟨.empty, .inl ⟨rfl, none⟩, rfl⟩
      · exact ⟨.flaw i flaw, .inr ⟨i, component, flaw, place, flawed, rfl⟩, rfl⟩
  · simp [reportIff]
  · have both : email ++ other ≠ [] := by simp [filled]
    have joined : Email.contents (email ++ other) = email.contents ++ other.contents := List.map_append
    rw [issuesFilled both, issuesFilled filled, issuesFilled more, joined, issuesFromAppend, List.map_append,
      issuesFromLater, Email.contents, List.length_map]
  · rcases reportIff.mp reported with ⟨other, _⟩ | ⟨place, component, flaw, found, flawed, same⟩
    · contradiction
    · cases same
      have formed : component.WellFormed := by
        rcases made component (List.mem_of_getElem? found) with ⟨source, ids, read⟩ | ⟨_, _, _, _, accepted⟩
        · exact Component.readWellFormed source ids component read
        · exact Component.ofJsonWellFormed accepted
      exact wellFormedDescribed formed limit flawed

def faultyEmail : Email :=
  [⟨.str "a", .button { href := "mailto:x" }⟩, ⟨.str "b", .divider {}⟩, ⟨.str "c", .image { alt := "" }⟩]

def lengthyEmail : Email := [⟨.str "d", .heading {}⟩, ⟨.str "e", .text { text := "é😀é!!" }⟩]

theorem reportsFaulty :
    (issues 4 (faultyEmail ++ lengthyEmail)).map Issue.index = [0, 2, 4] ∧
    ∀ i, .flaw i .missingAlt ∉ issues 4 (Email.read "<Img alt=''/><Text>alt</Text>" Ids.numbered).1 := by
  have joined := (reportsFlawed 4 faultyEmail).2.2.2.1 lengthyEmail (List.cons_ne_nil _ _) (List.cons_ne_nil _ _)
  have first : (issues 4 faultyEmail).map Issue.index = [0, 2] := by decide +kernel
  have second : (issues 4 lengthyEmail).map Issue.index = [1] := by decide +kernel
  rw [first, second] at joined
  exact ⟨joined, (reportsFlawed 4 _).2.2.2.2 fun component read => .inl ⟨_, _, read⟩⟩

end EmailMarkup.Lint
