import EmailMarkup.Proofs.Arrival
import EmailMarkup.Proofs.WellFormed

/-! A self-closing tag that arrives in chunks. On one line it is a whole element, and nothing is left open. Over several
lines it is judged line by line: as long as every line is kept the tag is read, and what its lines open stays open. Of a
first line that is an element by itself the lines behind it are dropped. -/
namespace EmailMarkup.Stream
open Markup (Element Head elementsOf selfClosing? sweepPiece selfClosingShortens)
open Text (isBlank isWord lines unlines strip stripEnd)

theorem contentsFirst {text after : List Char} {head : Head} (single : selfClosing? text = some (head, after))
    {kind : Kind} (known : Kind.ofTag? (String.ofList head.name) = some kind) :
    ∃ props, contentsOf text = props :: contentsOf after ∧ props.kind = kind := by
  have elements : elementsOf text = Element.ofHead head none :: elementsOf after := by
    rw [elementsOf, Markup.selfClosing, sweepPiece selfClosingShortens single, Markup.Swept.pick, List.map_cons]
    rfl
  have same := Props.ofElementKind (Element.ofHead head none)
  rw [Element.ofHead, known, ← Element.ofHead] at same
  obtain ⟨props, read, named⟩ := Option.map_eq_some_iff.mp same
  refine ⟨props, ?_, named⟩
  rw [contentsOf, elements, List.filterMap_cons_some read]
  rfl

structure Session.Shown (session : Session) (kind : Kind) (names : List (List Char)) : Prop where
  status : session.status = .parsed
  contents : ∃ props, session.email.contents = [props] ∧ props.kind = kind
  openTags : session.kept.openTags = names

theorem shownLines {text : List Char} {chunks : List String} (cut : chunks.flatMap String.toList = text)
    (some : chunks ≠ []) (ids : Ids) :
    let session := (Session.run ({}, ids) (chunks.map .append)).1
    let kept := Kept.empty.run (lines text)
    session.kept = kept ∧ (session.status = .parsed ↔ contentsOf kept.text ≠ []) ∧
      (contentsOf kept.text ≠ [] → session.email.contents = contentsOf kept.text) := by
  intro session kept
  obtain ⟨init, last, rfl⟩ := chunks.eq_nil_or_concat.resolve_left some
  have after : Session.After (Session.run ({}, ids) (init.map .append ++ [.append last])).1 _ _ :=
    Session.runAfter (init.map .append) last ids
  have come : received (init.map .append) ++ last.toList = text := by
    rw [receivedAppends, ← cut]
    simp
  have whole : (Session.run ({}, ids) (init.map .append ++ [.append last])).1 = session := by
    simp [session]
  rw [come, whole] at after
  have parsed : verdict kept = .parsed ↔ contentsOf kept.text ≠ [] := by rw [verdictParsed, List.isEmpty_iff]
  refine ⟨after.kept, by rw [after.status, parsed], fun filled => ?_⟩
  rw [after.contents, if_pos (parsed.mpr filled)]

theorem stripSingle {text : List Char} {head : Head} (single : selfClosing? text = some (head, [])) :
    strip text = text := by
  have ends : text = '<' :: (head.name ++ (head.span ++ ['/']) ++ ['>']) := by
    rw [Markup.selfClosingAppend single]
    simp
  rw [ends, Text.stripBoth (by decide) (by decide)]

theorem singleNamed {text after : List Char} {head : Head} (single : selfClosing? text = some (head, after)) :
    ∃ body, Markup.Named text head.name body := by
  simp only [selfClosing?, bind, Option.bind_eq_some_iff] at single
  obtain ⟨⟨whole, rest⟩, read, found⟩ := single
  split at found <;> try contradiction
  cases found
  obtain ⟨body, named, _⟩ := Markup.headNamed.mp read
  exact ⟨body, named⟩

theorem blankBehind {text body : List Char} {head : Head} (single : selfClosing? text = some (head, []))
    (blank : ∀ c ∈ head.span.head?, isBlank c = true) (named : text = '<' :: (head.name ++ body))
    (laid : '\n' ∈ text) : ∀ c ∈ body.head?, isBlank c = true := by
  obtain ⟨_, _, _, all, _⟩ := singleNamed single
  have whole := Markup.selfClosingAppend single
  rw [named] at whole
  have split : body = head.span ++ ['/', '>'] := List.append_cancel_left (List.cons.inj whole).2
  cases span : head.span with
  | nil =>
      have word : '\n' ∉ head.name := Text.outsideAll all (by decide)
      simp [named, split, span, word] at laid
  | cons c tail =>
      rw [split, span]
      rw [span] at blank
      exact blank

theorem firstNamed {name body first : List Char} {rest : List (List Char)} (all : ∀ c ∈ name, isWord c = true)
    (split : lines ('<' :: (name ++ body)) = first :: rest) : ∃ s, first = '<' :: (name ++ s) ∧ s <+: body := by
  have whole := Text.unlinesLines ('<' :: (name ++ body))
  rw [split] at whole
  by_cases last : rest = []
  · have same : first = '<' :: (name ++ body) := by simpa [last, unlines] using whole
    exact ⟨body, same, List.prefix_refl _⟩
  · rw [Text.unlinesCons first last, ← List.cons_append] at whole
    rcases List.append_eq_append_iff.mp whole with ⟨extra, front, behind⟩ | ⟨s, front, behind⟩
    · -- A line feed cannot stand in the name, so the line ends right behind it.
      cases extra with
      | nil => exact ⟨[], by simpa using front.symm, List.nil_prefix⟩
      | cons c extra =>
          have feed : c = '\n' := (List.cons.inj behind).1.symm
          have inside : '\n' ∈ '<' :: name := by simp [front, feed]
          simp [Text.outsideAll all (c := '\n') (by decide)] at inside
    · exact ⟨s, front, behind ▸ List.prefix_append _ _⟩

theorem sameNamed {name s after : List Char} {own : Head} (all : ∀ c ∈ name, isWord c = true)
    (stop : ∀ c ∈ s.head?, isWord c = false) (single : selfClosing? ('<' :: (name ++ s)) = some (own, after)) :
    own.name = name := by
  obtain ⟨body, text, _, word, ends⟩ := singleNamed single
  have split := congrArg Text.word (List.cons.inj text).2
  rw [Text.wordSplit all stop, Text.wordSplit word ends] at split
  exact (Prod.mk.inj split).1.symm

theorem opensNamed {name other s : List Char} (filled : name ≠ []) (all : ∀ c ∈ name, isWord c = true)
    (stop : ∀ c ∈ s.head?, isBlank c = true ∨ c = '>') (opens : role ('<' :: (name ++ s)) = .opens other) :
    other = name := by
  have apart := unslashed filled all (stripEnd s)
  have opening := openingFirst filled all (headPrefix (Text.stripEndPrefix s) stop)
  rw [role, stripNamed filled all, roleOf, apart] at opens
  split at opens
  · contradiction
  · simp only [Bool.false_eq_true, if_false, opening] at opens
    split at opens
    · contradiction
    · exact (Role.opens.inj opens).symm

def Role.opened? : Role → Option (List Char)
  | .opens name => some name
  | _ => none

def opened (ls : List (List Char)) : List (List Char) := ls.filterMap fun line => (role line).opened?

namespace Kept

theorem textAlone (line : List Char) : (empty.keepAll [line]).text = strip line := by
  have kept : (empty.keepAll [line]).text = strip ([] ++ line ++ ['\n']) := by simp [text, keepAll, lines, empty]
  rw [kept, Text.stripBetween (by simp) (by decide)]

theorem textLines {kept : Kept} {text : List Char} (all : kept.lines = Text.lines text) : kept.text = strip text := by
  have pieces : kept.lines = [text].flatMap Text.lines := by rw [all, List.flatMap_singleton]
  rw [keptText pieces]
  simp [unlines]

theorem runUnclosed {stack latest : List (List Char)} (some : stack ≠ []) {ls : List (List Char)}
    (unclosed : ∀ line ∈ ls, ∀ name, role line ≠ .closes name) :
    run ⟨stack, latest⟩ ls = ⟨(opened ls).reverse ++ stack, ls.reverse ++ latest⟩ := by
  -- While something is open only a closing line can be dropped.
  induction ls generalizing stack latest with
  | nil => rfl
  | cons line ls ih =>
      rw [List.forall_mem_cons] at unclosed
      have first : run ⟨stack, latest⟩ (line :: ls) = (step ⟨stack, latest⟩ line).run ls := rfl
      rw [first]
      cases is : role line with
      | whole =>
          have next : step ⟨stack, latest⟩ line = ⟨stack, line :: latest⟩ := stepWhole is
          rw [next, ih some unclosed.2]
          simp [opened, is, Role.opened?]
      | opens name =>
          have next : step ⟨stack, latest⟩ line = ⟨name :: stack, line :: latest⟩ := stepOpens is
          rw [next, ih (List.cons_ne_nil _ _) unclosed.2]
          simp [opened, is, Role.opened?]
      | closes name => exact absurd is (unclosed.1 name)
      | content =>
          have next : step ⟨stack, latest⟩ line = ⟨stack, line :: latest⟩ := by simp [step, is, some, keep]
          rw [next, ih some unclosed.2]
          simp [opened, is, Role.opened?]

theorem runOpened {first name : List Char} {rest : List (List Char)} (opens : role first = .opens name)
    (unclosed : ∀ line ∈ rest, ∀ other, role line ≠ .closes other) :
    empty.run (first :: rest) = ⟨(opened (first :: rest)).reverse, (first :: rest).reverse⟩ := by
  have start : empty.run (first :: rest) = (empty.step first).run rest := rfl
  have step : empty.step first = ⟨[name], [first]⟩ := stepOpens opens
  rw [start, step, runUnclosed (List.cons_ne_nil _ _) unclosed]
  simp [opened, opens, Role.opened?]

theorem runShut {kept : Kept} (shut : kept.stack = []) {ls : List (List Char)}
    (idle : ∀ line ∈ ls, role line ≠ .whole ∧ ∀ name, role line ≠ .opens name) : kept.run ls = kept := by
  induction ls with
  | nil => rfl
  | cons line ls ih =>
      rw [List.forall_mem_cons] at idle
      have first : kept.run (line :: ls) = (kept.step line).run ls := rfl
      have step : kept.step line = kept := by
        cases is : role line with
        | whole => exact absurd is idle.1.1
        | opens name => exact absurd is (idle.1.2 name)
        | closes name => simp [Kept.step, is, shut]
        | content => exact stepDropped is shut
      rw [first, step, ih idle.2]

theorem runClosed {first after : List Char} {own : Head} (closed : selfClosing? (strip first) = some (own, after))
    {rest : List (List Char)} (idle : ∀ line ∈ rest, role line ≠ .whole ∧ ∀ name, role line ≠ .opens name) :
    empty.run (first :: rest) = empty.keepAll [first] := by
  have start : empty.run (first :: rest) = (empty.step first).run rest := rfl
  rw [start, stepWhole (roleWhole closed), runShut rfl idle]

end Kept

section Single

variable {text first : List Char} {head : Head} (single : selfClosing? text = some (head, []))
  {rest : List (List Char)} (split : lines text = first :: rest)

include single

theorem wholeContents {kind : Kind} (known : Kind.ofTag? (String.ofList head.name) = some kind) {kept : Kept}
    (all : kept.lines = lines text) : ∃ props, contentsOf kept.text = [props] ∧ props.kind = kind := by
  obtain ⟨props, contents, named⟩ := contentsFirst single known
  refine ⟨props, ?_, named⟩
  rw [Kept.textLines all, stripSingle single, contents]
  rfl

theorem runFlat (flat : '\n' ∉ text) : Kept.empty.run (lines text) = Kept.empty.keepAll [text] := by
  have whole : role text = .whole := roleWhole (by rw [stripSingle single]; exact single)
  rw [Text.linesWithout flat, Kept.runSingle, Kept.stepWhole whole]

include split

theorem opensOwn {name : List Char} (opens : role first = .opens name)
    (blank : ∀ c ∈ head.span.head?, isBlank c = true) : name = head.name := by
  have laid : '\n' ∈ text := by
    by_contra flat
    rw [Text.linesWithout flat] at split
    have whole : role text = .whole := roleWhole (by rw [stripSingle single]; exact single)
    rw [← (List.cons.inj split).1, whole] at opens
    contradiction
  obtain ⟨body, word, filled, letters, _⟩ := singleNamed single
  have behind := blankBehind single blank word laid
  rw [word] at split
  obtain ⟨s, rfl, start⟩ := firstNamed letters split
  exact opensNamed filled letters (headPrefix start fun c h => .inl (behind c h)) opens

theorem closesOwn {own : Head} {after : List Char} (closed : selfClosing? (strip first) = some (own, after)) :
    own.name = head.name := by
  obtain ⟨body, word, filled, letters, ends⟩ := singleNamed single
  rw [word] at split
  obtain ⟨s, rfl, start⟩ := firstNamed letters split
  rw [stripNamed filled letters] at closed
  exact sameNamed letters (headPrefix ((Text.stripEndPrefix s).trans start) ends) closed

end Single

namespace Session

theorem showsSingle {text : List Char} {head : Head} (single : selfClosing? text = some (head, [])) {kind : Kind}
    (known : Kind.ofTag? (String.ofList head.name) = some kind) (chunks : List String)
    (cut : chunks.flatMap String.toList = text) (ids : Ids) :
    let session := (run ({}, ids) (chunks.map .append)).1
    let kept := Kept.empty.run (lines text)
    (session.kept = kept ∧ (session.status = .parsed ↔ contentsOf kept.text ≠ []) ∧
      (session.status = .parsed → session.email.contents = contentsOf kept.text)) ∧
    ('\n' ∉ text → session.Shown kind []) ∧
    (kept.lines = lines text → session.Shown kind kept.openTags) ∧
    ∀ first rest, lines text = first :: rest →
      (∀ name, role first = .opens name → (∀ line ∈ rest, ∀ other, role line ≠ .closes other) →
        session.Shown kind (opened (first :: rest)) ∧
        ((∀ c ∈ head.span.head?, isBlank c = true) → name = head.name)) ∧
      ∀ own after, selfClosing? (strip first) = some (own, after) →
        (∀ line ∈ rest, role line ≠ .whole ∧ ∀ name, role line ≠ .opens name) →
        session.status = .parsed ∧ session.kept.openTags = [] ∧
        ∃ props, session.email.contents = props :: contentsOf after ∧ props.kind = kind := by
  intro session kept
  have some : chunks ≠ [] := by
    rintro rfl
    rw [← cut] at single
    contradiction
  obtain ⟨same, parsed, shown⟩ := shownLines cut some ids
  have all (read : kept.lines = lines text) : session.Shown kind kept.openTags := by
    obtain ⟨props, here, named⟩ := wholeContents single known read
    have filled : contentsOf kept.text ≠ [] := by rw [here]; exact List.cons_ne_nil _ _
    exact ⟨parsed.mpr filled, ⟨props, (shown filled).trans here, named⟩, by rw [same]⟩
  refine ⟨⟨same, parsed, fun ok => shown (parsed.mp ok)⟩, fun flat => ?_, all, fun first rest split => ⟨?_, ?_⟩⟩
  · have alone : kept = Kept.empty.keepAll [text] := runFlat single flat
    rw [alone, Text.linesWithout flat] at all
    exact all rfl
  · intro name opens unclosed
    have opening : kept = ⟨(opened (first :: rest)).reverse, (first :: rest).reverse⟩ := by
      rw [← Kept.runOpened opens unclosed, ← split]
    rw [opening, split] at all
    exact ⟨by simpa [Kept.openTags] using all (List.reverse_reverse _), opensOwn single split opens⟩
  · intro own after closed idle
    have alone : kept = Kept.empty.keepAll [first] := by rw [← Kept.runClosed closed idle, ← split]
    obtain ⟨props, contents, kind⟩ := contentsFirst closed (closesOwn single split closed ▸ known)
    have here : contentsOf kept.text = props :: contentsOf after := by rw [alone, Kept.textAlone, contents]
    have filled : contentsOf kept.text ≠ [] := by rw [here]; exact List.cons_ne_nil _ _
    exact ⟨parsed.mpr filled, by rw [same]; exact congrArg Kept.openTags alone, props, (shown filled).trans here, kind⟩

/- Over several lines a tag can be read and stay open. It is not read where a later line closes another tag or where its
first line closes its own, and it is one of two where a second stands behind the first end in its first line. -/
theorem showsSingleOpen :
    (selfClosing? "<Hr\n/>".toList = some (⟨"Hr".toList, "\n".toList⟩, []) ∧
      let session := (run ({}, Ids.numbered) [.append "<Hr\n/>"]).1
      session.status = .parsed ∧ session.email.length = 1 ∧ session.kept.openTags = ["Hr".toList]) ∧
    (selfClosing? "<Hr color=\"\n</Text>\"/>".toList = some (⟨"Hr".toList, " color=\"\n</Text>\"".toList⟩, []) ∧
      let session := (run ({}, Ids.numbered) [.append "<Hr color=\"\n</Text>\"/>"]).1
      session.status = .pending ∧ session.email.length = 0 ∧ session.kept.openTags = ["Hr".toList]) ∧
    (selfClosing? "<Hr a=\"</Hr>\n\"/>".toList = some (⟨"Hr".toList, " a=\"</Hr>\n\"".toList⟩, []) ∧
      let session := (run ({}, Ids.numbered) [.append "<Hr a=\"</Hr>\n\"/>"]).1
      session.status = .invalid ∧ session.email.length = 0) ∧
    (selfClosing? "<Hr a=\"/><Img/>\n\"/>".toList = some (⟨"Hr".toList, " a=\"/><Img/>\n\"".toList⟩, []) ∧
      let session := (run ({}, Ids.numbered) [.append "<Hr a=\"/><Img/>\n\"/>"]).1
      session.status = .parsed ∧ session.email.length = 2) := by
  decide +kernel

theorem showsSingleCut :
    (run ({}, Ids.numbered) (["<", "Img alt=\"</Img> > <Hr/", ">\" /", "", ">"].map .append)).1.Shown .image [] ∧
    (run ({}, Ids.numbered) (["<Hr a=\"</Text>", "\n<b \n<I", "mg/>\n\"\n/", ">"].map .append)).1.Shown .divider
      ["Hr".toList, "b".toList] ∧
    (run ({}, Ids.numbered) (["<Img src=\"/>\n", "</Text>\n\"/>"].map .append)).1.Shown .image [] := by
  have flat : selfClosing? "<Img alt=\"</Img> > <Hr/>\" />".toList =
      some (⟨"Img".toList, " alt=\"</Img> > <Hr/>\" ".toList⟩, []) := by decide +kernel
  have laid : selfClosing? "<Hr a=\"</Text>\n<b \n<Img/>\n\"\n/>".toList =
      some (⟨"Hr".toList, " a=\"</Text>\n<b \n<Img/>\n\"\n".toList⟩, []) := by decide +kernel
  have torn : selfClosing? "<Img src=\"/>\n</Text>\n\"/>".toList =
      some (⟨"Img".toList, " src=\"/>\n</Text>\n\"".toList⟩, []) := by decide +kernel
  have roles : ["<b ".toList, "<Img/>".toList, "\"".toList, "/>".toList].map role =
      [.opens "b".toList, .whole, .content, .content] := by decide +kernel
  have idles : ["</Text>".toList, "\"/>".toList].map role = [.closes "Text".toList, .content] := by decide +kernel
  have image : Kind.ofTag? (String.ofList "Img".toList) = some .image := by decide
  have divider : Kind.ofTag? (String.ofList "Hr".toList) = some .divider := by decide
  refine ⟨(showsSingle flat image _ (by decide) _).2.1 (by decide), ?_, ?_⟩
  · obtain ⟨_, _, _, layout⟩ := showsSingle laid divider ["<Hr a=\"</Text>", "\n<b \n<I", "mg/>\n\"\n/", ">"]
      (by decide) Ids.numbered
    have shown := (layout "<Hr a=\"</Text>".toList ["<b ".toList, "<Img/>".toList, "\"".toList, "/>".toList]
      (by decide)).1 "Hr".toList (by decide +kernel) fun line listed other is => by
        have among := List.mem_map_of_mem (f := role) listed
        rw [roles, is] at among
        simp at among
    have names : opened ["<Hr a=\"</Text>".toList, "<b ".toList, "<Img/>".toList, "\"".toList, "/>".toList] =
        ["Hr".toList, "b".toList] := by decide +kernel
    exact names ▸ shown.1
  · obtain ⟨_, _, _, layout⟩ := showsSingle torn image ["<Img src=\"/>\n", "</Text>\n\"/>"] (by decide) Ids.numbered
    obtain ⟨status, none, props, contents, kind⟩ := (layout "<Img src=\"/>".toList ["</Text>".toList, "\"/>".toList]
      (by decide)).2 ⟨"Img".toList, " src=\"".toList⟩ [] (by decide +kernel) fun line listed => by
        have among := List.mem_map_of_mem (f := role) listed
        rw [idles] at among
        constructor
        · intro is
          rw [is] at among
          simp at among
        · intro name is
          rw [is] at among
          simp at among
    exact ⟨status, ⟨props, contents, kind⟩, none⟩

end Session
end EmailMarkup.Stream
