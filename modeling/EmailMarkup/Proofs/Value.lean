import EmailMarkup.Proofs.Handle
import EmailMarkup.Proofs.Settling

/-! Values that look like tags. The gate takes images and dividers out before it counts opening tags, but it looks for
closing tags and for names in the whole text, and there the values still stand. So images and dividers never open a tag;
they pass if no value holds a closing tag or a name that is no component's, and they are refused otherwise. -/
namespace EmailMarkup
namespace Markup
open Text (word isWord isBlank outsideAll wordBehind)

variable {α : Type} {test : List Char → Option α}

/- What is looked for starts at a less-than sign and reaches past words, slashes and greater-than signs only. -/
structure Bounded (test : List Char → Option α) : Prop where
  start : ∀ c rest, c ≠ '<' → test (c :: rest) = none
  stop : ∀ c, isWord c = false → c ∉ ['<', '/', '>'] → ∀ s rest, test ('<' :: (s ++ c :: rest)) = test ('<' :: s)

theorem namedBounded : Bounded named? where
  start := namedElsewhere
  stop := by
    intro c noWord _ s rest
    simp [named?, wordBehind s noWord rest]

theorem closingBounded : Bounded fun s => (closing? s).map (·.1) where
  start := by
    intro c rest other
    rw [closingElsewhere c rest other]
    rfl
  stop := by
    intro c noWord mark s rest
    simp only [List.mem_cons, List.not_mem_nil, or_false, not_or] at mark
    cases s with
    | nil => simp [closing?, mark]
    | cons d s =>
        by_cases slash : d = '/'
        · subst slash
          have behind := wordBehind s noWord rest
          cases ends : (word s).2 with
          | nil => simp [closing?, behind, ends, mark]
          | cons e t =>
              by_cases close : e = '>' <;> by_cases empty : (word s).1 = [] <;>
                simp [closing?, behind, ends, close, empty]
        · simp [closing?, slash]

namespace Bounded

variable (bounded : Bounded test)
include bounded

theorem split {c : Char} (noWord : isWord c = false) (mark : c ∉ ['<', '/', '>']) (s rest : List Char) :
    places test (s ++ c :: rest) = places test s ++ places test rest := by
  induction s with
  | nil =>
      have other : c ≠ '<' := by
        rintro rfl
        simp at mark
      simp [places, bounded.start c rest other]
  | cons d s ih =>
      have here : test (d :: (s ++ c :: rest)) = test (d :: s) := by
        by_cases sign : d = '<'
        · rw [sign, bounded.stop c noWord mark]
        · rw [bounded.start d _ sign, bounded.start d _ sign]
      rw [List.cons_append, places, places, here, ih, List.append_assoc]

theorem entities (before value : List Char) :
    places test (before ++ withoutDoubleQuotes value) = places test (before ++ value) := by
  induction value generalizing before with
  | nil => rfl
  | cons c value ih =>
      by_cases quote : c = '"'
      · have clear : '<' ∉ ['q', 'u', 'o', 't', ';'] := by decide
        have text : withoutDoubleQuotes (c :: value) =
            '&' :: (['q', 'u', 'o', 't', ';'] ++ withoutDoubleQuotes value) := by
          rw [withoutDoubleQuotes, List.flatMap_cons, if_pos quote]
          rfl
        have tail := ih []
        rw [List.nil_append, List.nil_append] at tail
        rw [text, quote, bounded.split (by decide) (by decide), bounded.split (by decide) (by decide),
          placesClear bounded.start clear, tail]
      · have text : withoutDoubleQuotes (c :: value) = [c] ++ withoutDoubleQuotes value := by
          rw [withoutDoubleQuotes, List.flatMap_cons, if_neg quote]
          rfl
        rw [text, ← List.append_assoc, ih, List.append_assoc, List.singleton_append]

theorem legible (value : String) : places test (Markup.legible value).toList = places test value.toList := by
  unfold Markup.legible
  split
  · rfl
  · rw [String.toList_ofList]
    exact bounded.entities [] value.toList

theorem spellings {spellings : List Spelling} (valid : ∀ s ∈ spellings, s.Valid) (rest : List Char) :
    places test (spellings.flatMap Spelling.text ++ rest) =
      spellings.flatMap (fun s => places test s.value) ++ places test rest := by
  induction spellings with
  | nil => rfl
  | cons s spellings ih =>
      obtain ⟨⟨_, blank⟩, ⟨_, all⟩, _⟩ := valid s List.mem_cons_self
      have front : '<' ∉ s.gap ++ s.name ++ ['=', s.quoting.opener] := by
        have opener : '<' ≠ s.quoting.opener := by cases s.quoting <;> decide
        simp [outsideAll blank (c := '<') (by decide), outsideAll all (c := '<') (by decide), opener]
      have close : isWord s.quoting.closer = false ∧ s.quoting.closer ∉ ['<', '/', '>'] := by
        cases s.quoting <;> decide
      have text : (s :: spellings).flatMap Spelling.text ++ rest =
          s.gap ++ s.name ++ ['=', s.quoting.opener] ++
            (s.value ++ s.quoting.closer :: (spellings.flatMap Spelling.text ++ rest)) := by
        simp [Spelling.text, enclose]
      rw [text, placesClear bounded.start front, bounded.split close.1 close.2,
        ih fun t h => valid t (List.mem_cons_of_mem _ h), List.flatMap_cons, List.append_assoc]

theorem single {tag : Tag} (valid : tag.Valid) (rest : List Char) :
    places test ((Node.single tag).text ++ rest) =
      (test ((Node.single tag).text ++ rest)).toList ++ tag.spellings.flatMap (fun s => places test s.value) ++
        places test rest := by
  have blank : isBlank '<' = false := by decide
  have ends : '<' ∉ tag.gap ++ ['/', '>'] := by simp [outsideAll valid.2.2 blank]
  have text : (Node.single tag).text ++ rest =
      '<' :: (tag.name ++ (tag.spellings.flatMap Spelling.text ++ (tag.gap ++ ['/', '>'] ++ rest))) := by
    simp [Node.text, Tag.span]
  rw [text, places, placesClear bounded.start (clearName valid.1.2), bounded.spellings valid.2.1,
    placesClear bounded.start ends, ← List.append_assoc]

end Bounded
end Markup

open Markup (Node Bounded named? closing? places placesClear placesMap namedBounded closingBounded forallIntersperse
  documentText documentTextIntersperse)
open Gate (strangers strangersNone faultsNamed)

variable {α : Type} {test : List Char → Option α}

namespace Props

def closers (props : Props) : List (List Char) :=
  props.fields.flatMap fun field => places (fun s => (closing? s).map (·.1)) field.2.toList

def names (props : Props) : List (List Char) := props.fields.flatMap fun field => places named? field.2.toList

theorem blockPlaces (bounded : Bounded test) {props : Props} (closes : props.kind.selfCloses = true)
    (rest : List Char) : places test (props.write ++ rest) = (test (props.write ++ rest)).toList ++
      props.fields.flatMap (fun field => places test field.2.toList) ++ places test rest := by
  have values : (props.legible.opening [' ']).spellings.flatMap (fun s => places test s.value) =
      props.attributes.flatMap fun pair => places test pair.2.toList := by
    rw [opening, attributesLegible, List.map_map, List.flatMap_map]
    exact List.flatMap_congr fun pair _ => bounded.legible pair.2
  have fields : props.attributes.map Prod.snd = props.fields.map Prod.snd := by
    cases props with
    | image | divider => rfl
    | _ => contradiction
  have held : props.attributes.flatMap (fun pair => places test pair.2.toList) =
      props.fields.flatMap fun field => places test field.2.toList := by
    have same := congrArg (List.flatMap fun value => places test value.toList) fields
    rwa [List.flatMap_map, List.flatMap_map] at same
  have valid : (props.legible.opening [' ']).Valid := props.blockValid
  rw [← blockText closes, block, bounded.single valid, values, held]

theorem blockName {props : Props} (closes : props.kind.selfCloses = true) (rest : List Char) :
    named? (props.write ++ rest) = some props.kind.tag.toList := by
  have valid : (props.legible.opening [' ']).Valid := props.blockValid
  have stop : ∀ c ∈ ('/' :: '>' :: rest).head?, Text.isWord c = false := by
    simp
    decide
  have read := Markup.namedTagged valid stop
  have kind : props.legible.kind = props.kind := mapFieldsKind _ props
  rw [← blockText closes, block, Node.text]
  simpa [opening, kind] using read

theorem blockUnclosed {props : Props} (closes : props.kind.selfCloses = true) (rest : List Char) :
    closing? (props.write ++ rest) = none := by
  have valid : (props.legible.opening [' ']).Valid := props.blockValid
  rw [← blockText closes, block, Node.text, List.cons_append, List.append_assoc]
  exact Markup.closingTagged valid _

end Props

theorem writtenPlaces (bounded : Bounded test) (here : Kind → Option α) {contents : List Props}
    (close : ∀ props ∈ contents, props.kind.selfCloses = true)
    (start : ∀ props ∈ contents, ∀ rest, test (props.write ++ rest) = here props.kind) :
    places test (Email.writeContents contents) = contents.flatMap fun props =>
      (here props.kind).toList ++ props.fields.flatMap fun field => places test field.2.toList := by
  induction contents with
  | nil => rfl
  | cons props others ih =>
      have first := Props.blockPlaces bounded (close props List.mem_cons_self)
      have found := start props List.mem_cons_self
      have tail := ih (fun p h => close p (List.mem_cons_of_mem _ h)) fun p h => start p (List.mem_cons_of_mem _ h)
      rw [List.flatMap_cons, ← tail]
      cases others with
      | nil =>
          have text : Email.writeContents [props] = props.write ++ [] := by simp [Email.writeContents]
          rw [text, first, found]
          rfl
      | cons second others =>
          have text : Email.writeContents (props :: second :: others) =
              props.write ++ (['\n', '\n'] ++ Email.writeContents (second :: others)) := by
            simp [Email.writeContents]
          rw [text, first, found, placesClear bounded.start (by decide)]

theorem writtenUnopened {contents : List Props} (close : ∀ props ∈ contents, props.kind.selfCloses = true) :
    Gate.openCount (Email.writeContents contents) = 0 := by
  have blocks : Email.writeContents contents =
      documentText ((contents.map Props.block).intersperse (.filler ['\n', '\n'])) := by
    rw [documentTextIntersperse, List.map_map]
    exact congrArg _ (List.map_congr_left fun props h => (Props.blockText (close props h)).symm)
  have between : (Node.filler ['\n', '\n']).Valid := by decide
  have valid : ∀ node ∈ (contents.map Props.block).intersperse (.filler ['\n', '\n']), node.Valid :=
    forallIntersperse between (List.forall_mem_map.mpr fun props _ => props.blockValid)
  have stays : ∀ node ∈ (contents.map Props.block).intersperse (.filler ['\n', '\n']),
      node.stays = true → '<' ∉ node.text :=
    forallIntersperse (fun _ => by decide) (List.forall_mem_map.mpr fun _ _ taken => Bool.noConfusion taken)
  have clear : '<' ∉ (Markup.selfClosing (Email.writeContents contents)).residue := by
    have residue := (Markup.selfClosingDocument valid []).2
    rw [List.append_nil, ← blocks] at residue
    rw [residue]
    have nothing : (Markup.selfClosing []).residue = [] := rfl
    simp only [nothing, List.append_nil, documentText, List.mem_flatMap, List.mem_filter, not_exists, not_and]
    exact fun node h => stays node h.1 h.2
  have none := placesClear (Markup.openingElsewhere false) clear []
  rw [List.append_nil] at none
  rw [Gate.openCount, none]
  rfl

theorem writtenClosers {contents : List Props} (close : ∀ props ∈ contents, props.kind.selfCloses = true) :
    Gate.closeCount (Email.writeContents contents) = (contents.flatMap Props.closers).length := by
  have found := writtenPlaces closingBounded (fun _ => none) close fun props h rest => by
    rw [Props.blockUnclosed (close props h)]
    rfl
  have names : (places closing? (Email.writeContents contents)).map (·.1) =
      places (fun s => (closing? s).map (·.1)) (Email.writeContents contents) := placesMap _ _
  rw [found] at names
  have count := congrArg List.length names
  rwa [List.length_map] at count

theorem writtenStrangers {contents : List Props} (close : ∀ props ∈ contents, props.kind.selfCloses = true) :
    strangers ((places named? (Email.writeContents contents)).map String.ofList) =
      strangers ((contents.flatMap Props.names).map String.ofList) := by
  have found := writtenPlaces namedBounded (fun kind => some kind.tag.toList) close fun props h rest =>
    Props.blockName (close props h) rest
  rw [found, strangers, strangers, List.map_flatMap, List.map_flatMap, List.filter_flatMap, List.filter_flatMap]
  refine congrArg List.eraseDups (List.flatMap_congr fun props _ => ?_)
  simp [Props.names, props.kind.tagListed]

theorem judgesValues (email : Email) (close : ∀ props ∈ email.contents, props.kind.selfCloses = true) :
    let closers := email.contents.flatMap Props.closers
    let names := (email.contents.flatMap Props.names).map String.ofList
    Gate.openCount email.write.toList = 0 ∧ Gate.closeCount email.write.toList = closers.length ∧
    Gate.faults email.write =
      (if closers = [] then [] else [.unbalanced]) ++
        ((names.filter (· ∉ Kind.tags.map Prod.fst)).eraseDups).map .unknownTag ∧
    (Gate.admits email.write = true ↔ closers = [] ∧ ∀ name ∈ names, name ∈ Kind.tags.map Prod.fst) ∧
    ∀ (target : Email) (id : Option Json) (ids : Ids), target.edit email.write id true ids =
      if closers = [] ∧ ∀ name ∈ names, name ∈ Kind.tags.map Prod.fst then target.edit email.write id false ids
      else .error (.rejected (Gate.faults email.write)) := by
  intro closers names
  have text : email.write.toList = Email.writeContents email.contents := by rw [Email.write, String.toList_ofList]
  have opened := writtenUnopened close
  have closed := writtenClosers close
  have balance : 0 = closers.length ↔ closers = [] := eq_comm.trans List.length_eq_zero_iff
  have faults : Gate.faults email.write =
      (if closers = [] then [] else [.unbalanced]) ++ (strangers names).map .unknownTag := by
    rw [faultsNamed, text, opened, closed, writtenStrangers close, if_congr balance rfl rfl]
  have admitted : Gate.admits email.write = true ↔ closers = [] ∧ ∀ name ∈ names, name ∈ Kind.tags.map Prod.fst := by
    rw [Gate.admits, faults, List.isEmpty_iff, List.append_eq_nil_iff, List.map_eq_nil_iff, strangersNone]
    refine and_congr ?_ Iff.rfl
    split <;> simp [*]
  refine ⟨by rw [text, opened], by rw [text, closed], faults, admitted, fun target id ids => ?_⟩
  split
  · rename_i passes
    have faultless : Gate.faults email.write = [] := List.isEmpty_iff.mp (admitted.mpr passes)
    exact editAdmitted faultless target id ids
  · rename_i fails
    have refused : Refused email.write true := ⟨rfl, Bool.eq_false_iff.mpr fun passes => fails (admitted.mp passes)⟩
    exact target.editRefused ids refused id

def taggedAlt : Email := [⟨.str "a", .image { alt := "</Text>" }⟩]

def namedColor : Email := [⟨.str "a", .divider { borderColor := "<b" }⟩]

theorem refusesTaggedAlt :
    (∀ props ∈ taggedAlt.contents ++ namedColor.contents, props.kind.selfCloses = true) ∧
    Gate.faults taggedAlt.write = [.unbalanced] ∧ Gate.faults namedColor.write = [.unknownTag "b"] ∧
    ∀ email ∈ [taggedAlt, namedColor], Gate.admits email.write = false ∧
      (email.edit email.write none true Ids.numbered).toOption.isNone = true := by
  decide +kernel

def quietEmail : Email :=
  [⟨.str "a", .image ⟨"<Text \"a\" 'b' \x7d", "</Text", ""⟩⟩, ⟨.str "b", .divider ⟨"/> <Img/> <", "'\"</\">"⟩⟩]

theorem judgesQuietEmail :
    (∀ props ∈ quietEmail.contents, props.kind.selfCloses = true) ∧ Gate.admits quietEmail.write = true ∧
    (∀ props ∈ hostileEmail.contents, props.kind.selfCloses = true) ∧
    Gate.faults hostileEmail.write = [.unbalanced] ∧ Gate.admits hostileEmail.write = false := by
  have quiet : ∀ props ∈ quietEmail.contents, props.kind.selfCloses = true := by decide
  have hostile : ∀ props ∈ hostileEmail.contents, props.kind.selfCloses = true := by decide
  obtain ⟨_, _, _, passes, _⟩ := judgesValues quietEmail quiet
  obtain ⟨_, _, faults, fails, _⟩ := judgesValues hostileEmail hostile
  refine ⟨quiet, passes.mpr (by decide +kernel), hostile, faults.trans (by decide +kernel), ?_⟩
  rw [Bool.eq_false_iff, ne_eq, fails]
  decide +kernel

end EmailMarkup
