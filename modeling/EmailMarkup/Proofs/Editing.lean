import EmailMarkup.Editor
import EmailMarkup.Proofs.Gate
import EmailMarkup.Proofs.RoundTrip

/-! Reading an email as markup and writing it back. The gate finds no fault with written components that hold no tags,
and reading gives them back, so a strict edit puts the same component in its place. -/
namespace EmailMarkup
open Markup (Node documentText documentTextIntersperse filterMapIntersperse forallIntersperse)

namespace Props

theorem nodeClear {props : Props} (spellable : props.Spellable) (clear : ∀ field ∈ props.fields, '<' ∉ field.2.toList) :
    props.node.Clear := by
  have tag : ∀ gap, (∀ c ∈ gap, Text.isBlank c = true) → (props.opening gap).Clear := by
    intro gap blank
    refine ⟨openingValid spellable gap blank, fun s hs => ?_⟩
    obtain ⟨_, field, hf, _, same⟩ := props.spellField hs
    exact same ▸ clear field hf
  unfold node
  cases h : props.innerText? with
  | none => exact tag [' '] (by decide)
  | some inner =>
      have content := clear _ (innerField props h)
      exact ⟨tag [] (by simp), by simpa using content⟩

theorem nodeName (props : Props) : props.node.name? = some props.kind.tag.toList := by
  unfold node
  cases props.innerText? <;> rfl

end Props

theorem Kind.tagListed (kind : Kind) : kind.tag ∈ tags.map Prod.fst := by cases kind <;> decide

theorem writeDocument {email : Email} (spellable : ∀ props ∈ email.contents, props.Spellable) :
    email.write = String.ofList
      (documentText ((email.contents.map Props.node).intersperse (.filler ['\n', '\n']))) := by
  have text : (email.contents.map Props.node).map Node.text = email.contents.map Props.write := by
    rw [List.map_map]
    exact List.map_congr_left fun props h => Props.nodeText (spellable props h)
  rw [documentTextIntersperse, text]
  rfl

theorem writtenAdmitted {email : Email} (spellable : ∀ props ∈ email.contents, props.Spellable)
    (clear : ∀ props ∈ email.contents, ∀ field ∈ props.fields, '<' ∉ field.2.toList) :
    Gate.admits email.write = true := by
  have between : (Node.filler ['\n', '\n']).Clear := by decide
  have nodes : ∀ node ∈ email.contents.map Props.node, node.Clear :=
    List.forall_mem_map.mpr fun props h => Props.nodeClear (spellable props h) (clear props h)
  rw [writeDocument spellable, Gate.admitsDocument (forallIntersperse between nodes),
    filterMapIntersperse (f := Node.name?) rfl]
  simp only [List.forall_mem_map, List.mem_filterMap]
  rintro name ⟨node, member, named⟩
  obtain ⟨props, _, rfl⟩ := List.mem_map.mp member
  rw [props.nodeName] at named
  rw [← Option.some.inj named, String.ofList_toList]
  exact props.kind.tagListed

theorem writtenFaultless {email : Email} (plain : ∀ props ∈ email.contents, props.Plain) :
    Gate.faults email.write = [] :=
  List.isEmpty_iff.mp (writtenAdmitted (fun props h => (plain props h).quotable) fun props h => (plain props h).clear)

theorem editAdmitted {source : String} (faultless : Gate.faults source = []) (email : Email) (id : Option Json)
    (ids : Ids) : email.edit source id true ids = email.edit source id false ids := by
  simp [Email.edit, Gate.admits, faultless]

theorem arrangedSingle (props : Props) : arranged [props] = [props] := by
  cases h : props.kind.selfCloses <;> simp [arranged, h]

theorem readSingle {component : Component} (plain : component.props.Plain) (ids : Ids) :
    Email.read (Email.write [component]) ids = ([⟨ids.draw.1, component.props⟩], ids.draw.2) := by
  have restorable : ∀ props ∈ Email.contents [component], props.Restorable := by
    intro props h
    rw [List.mem_singleton.mp h]
    exact plain.restorable
  have shown := writeReadContents restorable ids
  rw [readContents] at shown
  rw [readOfContents, shown]
  exact congrArg (Email.ofContents · ids) (arrangedSingle component.props)

namespace Email

variable {email : Email} {id : Json}

theorem firstHeld (held : ∃ component ∈ email, component.id.same id = true) :
    ∃ before component after, email = before ++ component :: after ∧
      (∀ other ∈ before, other.id.same id = false) ∧ component.id.same id = true := by
  have some : (email.find? (·.id.same id)).isSome := by
    obtain ⟨component, member, same⟩ := held
    exact List.find?_isSome.mpr ⟨component, member, same⟩
  obtain ⟨component, found⟩ := Option.isSome_iff_exists.mp some
  obtain ⟨same, before, after, split, apart⟩ := List.find?_eq_some_iff_append.mp found
  exact ⟨before, component, after, split, by simpa using apart, same⟩

section First

variable {before : Email} {component : Component} (apart : ∀ other ∈ before, other.id.same id = false)
  (same : component.id.same id = true) (after : Email)
include apart same

theorem findFirst : (before ++ component :: after).findIndex id = .ok before.length := by
  have none : before.findIdx? (·.id.same id) = none := List.findIdx?_eq_none_iff.mpr apart
  have found : (before ++ component :: after).indexOf? id = some before.length := by
    rw [indexOf?, List.findIdx?_append, none, List.findIdx?_cons, if_pos same]
    simp
  rw [findIndex, found]

theorem writeFirst : (before ++ component :: after).writeNode (some id) = .ok (Email.write [component]) := by
  have found := findFirst apart same after
  simp [writeNode, found, bind, Except.bind]

theorem replaceFirst (source : String) (ids : Ids) : (before ++ component :: after).replace id source ids =
    .ok (before ++ (Email.read source ids).1 ++ after, (Email.read source ids).2) := by
  have found := findFirst apart same after
  simp [replace, found, bind, Except.bind]

end First

theorem writesBack (email : Email) (plain : ∀ props ∈ email.contents, props.Plain) (ids : Ids) :
    (∀ id : Json, (∃ component ∈ email, component.id.same id = true) →
      ∃ before component after source, email = before ++ component :: after ∧
        (∀ other ∈ before, other.id.same id = false) ∧ component.id.same id = true ∧
        email.writeNode (some id) = .ok source ∧
        email.edit source (some id) true ids =
          .ok (before ++ ⟨ids.draw.1, component.props⟩ :: after, ids.draw.2)) ∧
    ∃ source edited later, email.writeNode none = .ok source ∧
      email.edit source none true ids = .ok (edited, later) ∧ edited.contents = arranged email.contents := by
  constructor
  · intro id held
    obtain ⟨before, component, after, rfl, apart, same⟩ := firstHeld held
    have here : component.props.Plain := plain _ (List.mem_map_of_mem (by simp))
    have faultless : Gate.faults (Email.write [component]) = [] := by
      refine writtenFaultless fun props h => ?_
      rw [List.mem_singleton.mp h]
      exact here
    refine ⟨before, component, after, Email.write [component], rfl, apart, same, writeFirst apart same after, ?_⟩
    rw [editAdmitted faultless]
    have replaced := replaceFirst apart same after (Email.write [component]) ids
    rw [readSingle here] at replaced
    simpa [edit] using replaced
  · refine ⟨email.write, (Email.read email.write ids).1, (Email.read email.write ids).2, rfl, ?_, ?_⟩
    · rw [editAdmitted (writtenFaultless plain)]
      rfl
    · exact writeReadContents (fun props h => (plain props h).restorable) ids

def sharedEmail : Email :=
  [⟨.str "a", .text ⟨"1 > 0 />\n\n\"it's\"", "left", "#000", "/>"⟩⟩, ⟨.str "b", .divider ⟨"\"red\"", "'"⟩⟩,
    ⟨.str "b", .button ⟨"Go", "https://x/?q='\"", "\x7b", "\x7d", "0"⟩⟩]

theorem writesBackShared : (∀ props ∈ sharedEmail.contents, props.Plain) ∧
    (∃ component ∈ sharedEmail, component.id.same (.str "b") = true) ∧
    (∃ source, sharedEmail.writeNode (some (.str "b")) = .ok source ∧
      (sharedEmail.edit source (some (.str "b")) true Ids.numbered).toOption.map (·.1.map (·.id)) =
        some [.str "a", .str "id1", .str "b"]) ∧
    ∃ source edited later, sharedEmail.writeNode none = .ok source ∧
      sharedEmail.edit source none true Ids.numbered = .ok (edited, later) ∧
      edited.contents.map Props.kind = [.divider, .text, .button] := by
  have plain : ∀ props ∈ sharedEmail.contents, props.Plain := by
    intro props h
    simp only [sharedEmail, contents, List.map_cons, List.map_nil, List.mem_cons, List.not_mem_nil, or_false] at h
    rcases h with rfl | rfl | rfl <;> constructor <;> decide
  have held : ∃ component ∈ sharedEmail, component.id.same (.str "b") = true := ⟨_, .tail _ (.head _), by decide⟩
  obtain ⟨node, source, edited, later, written, whole, shown⟩ := writesBack sharedEmail plain Ids.numbered
  refine ⟨plain, held, ?_, source, edited, later, written, whole, by rw [shown]; decide⟩
  obtain ⟨before, component, after, source, split, apart, same, written, edited⟩ := node (.str "b") held
  refine ⟨source, written, ?_⟩
  rw [edited]
  -- The component is the second one: the first has another identity, and the third does not come first.
  rcases before with _ | ⟨first, _ | ⟨second, rest⟩⟩
  · rw [← (List.cons.inj split).1] at same
    exact absurd same (by decide)
  · obtain ⟨rfl, tail⟩ := List.cons.inj split
    obtain ⟨_, rfl⟩ := List.cons.inj tail
    rfl
  · have here := apart second (by simp)
    rw [← (List.cons.inj (List.cons.inj split).2).1] at here
    exact absurd here (by decide)

end Email
end EmailMarkup
