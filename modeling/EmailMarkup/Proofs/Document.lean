import EmailMarkup.Markup.Element
import EmailMarkup.Proofs.Attribute
import Mathlib.Data.List.Infix

/-! The element grammar and its exact reading. A document is a sequence of filler, self-closing tags and paired tags.
Reading finds the self-closing tags in order and then the paired ones: taking the former out of the text leaves every
paired element as it stands and makes no new tag. -/
namespace EmailMarkup.Markup
open Text (isWord isBlank strip blankNoWord outsideAll)

structure Tag where
  name : List Char
  spellings : List Spelling
  gap : List Char
  deriving DecidableEq, Repr

namespace Tag

def span (tag : Tag) : List Char := tag.spellings.flatMap Spelling.text ++ tag.gap

def Valid (tag : Tag) : Prop :=
  (tag.name ≠ [] ∧ ∀ c ∈ tag.name, isWord c = true) ∧ (∀ s ∈ tag.spellings, s.Valid) ∧
  ∀ c ∈ tag.gap, isBlank c = true
instance (tag) : Decidable (Valid tag) := by unfold Valid; infer_instance

def element (tag : Tag) (text : Option String) : Element :=
  ⟨String.ofList tag.name, lastValues (tag.spellings.map Spelling.pair), text⟩

end Tag

inductive Node where
  | filler (s : List Char)
  | single (tag : Tag)
  | pair (tag : Tag) (content : List Char)
  deriving DecidableEq, Repr

namespace Node

def text : Node → List Char
  | .filler s => s
  | .single tag => '<' :: (tag.name ++ (tag.span ++ ['/', '>']))
  | .pair tag content => '<' :: (tag.name ++ (tag.span ++ '>' :: (content ++ closingTag tag.name)))

def Valid : Node → Prop
  | .filler s => '<' ∉ s
  | .single tag => tag.Valid
  | .pair tag content =>
      tag.Valid ∧ (∀ s ∈ tag.spellings, TagFree s.value) ∧ TagFree content ∧ ¬ closingTag tag.name <:+: content
instance (node) : Decidable (Valid node) := by cases node <;> unfold Valid <;> infer_instance

def single? : Node → Option Element
  | .single tag => some (tag.element none)
  | _ => none

def pair? : Node → Option Element
  | .pair tag content =>
      some (tag.element (if strip content = [] then none else some (String.ofList (strip content))))
  | _ => none

def stays (node : Node) : Bool := node.single?.isNone

end Node

def documentText (nodes : List Node) : List Char := nodes.flatMap Node.text

def documentElements (nodes : List Node) : List Element :=
  nodes.filterMap Node.single? ++ nodes.filterMap Node.pair?

theorem documentTextCons (node : Node) (nodes : List Node) :
    documentText (node :: nodes) = node.text ++ documentText nodes := List.flatMap_cons

theorem tagSpanBlank {tag : Tag} (valid : tag.Valid) : ∀ c ∈ tag.span.head?, isBlank c = true := by
  obtain ⟨_, spellings, blank⟩ := valid
  unfold Tag.span
  cases h : tag.spellings with
  | nil => exact fun c hc => blank c (List.mem_of_head? hc)
  | cons s rest =>
      obtain ⟨⟨some, gap⟩, _⟩ := spellings s (h ▸ List.mem_cons_self)
      obtain ⟨d, tail, same⟩ := List.exists_cons_of_ne_nil some
      intro c hc
      have first : d = c := by simpa [Spelling.text, same] using hc
      exact gap c (same ▸ first ▸ List.mem_cons_self)

theorem tagSpanHead {tag : Tag} (valid : tag.Valid) : ∀ c ∈ tag.span.head?, isWord c = false :=
  fun c hc => blankNoWord (tagSpanBlank valid c hc)

theorem spellingLast (s : Spelling) : s.text.getLast? = some s.quoting.closer := by
  have text : s.text = s.gap ++ s.name ++ ['=', s.quoting.opener] ++ s.value ++ [s.quoting.closer] := by
    simp [Spelling.text, enclose]
  rw [text, List.getLast?_concat]

theorem tagSpanLast {tag : Tag} (valid : tag.Valid) : ∀ c ∈ tag.span.getLast?, c ∉ ['/', '<'] := by
  obtain ⟨_, _, blank⟩ := valid
  have marks : ∀ c ∈ ['/', '<'], isBlank c = false := by decide
  unfold Tag.span
  cases tag.gap.eq_nil_or_concat with
  | inl empty =>
      rw [empty, List.append_nil]
      cases tag.spellings.eq_nil_or_concat with
      | inl none => simp [none]
      | inr some =>
          obtain ⟨init, s, same⟩ := some
          intro c hc
          have last : s.quoting.closer = c := by simpa [same, List.getLast?_append, spellingLast] using hc
          exact last ▸ s.quoting.closerMark
  | inr some =>
      obtain ⟨init, d, same⟩ := some
      intro c hc mark
      have last : d = c := by simpa [same] using hc
      exact outsideAll blank (marks c mark) (by simp [same, last])

theorem spanWithout {tag : Tag} (valid : tag.Valid) {c : Char}
    (other : isWord c = false ∧ c ∉ ['=', '"', '\'', '\x7b', '\x7d']) (gap : c ∉ tag.gap)
    (apart : ∀ s ∈ tag.spellings, c ∉ s.gap ∧ c ∉ s.value) : c ∉ tag.span := by
  obtain ⟨noWord, mark⟩ := other
  simp only [List.mem_cons, List.not_mem_nil, or_false, not_or] at mark
  simp only [Tag.span, List.mem_append, List.mem_flatMap, not_or, not_exists, not_and]
  refine ⟨fun s hs inside => ?_, gap⟩
  obtain ⟨noGap, noValue⟩ := apart s hs
  have noName : c ∉ s.name := outsideAll (valid.2.1 s hs).2.1.2 noWord
  have noQuote : c ≠ s.quoting.opener ∧ c ≠ s.quoting.closer := by
    cases s.quoting <;> simp [Quoting.opener, Quoting.closer, mark]
  simp [Spelling.text, enclose, noGap, noName, noQuote, noValue, mark] at inside

theorem passesTag {tag : Tag} (valid : tag.Valid) : Passes tag.span :=
  passesAppend (passesSpellings valid.2.1) (passesKind (by decide) valid.2.2)

theorem attributesTag {tag : Tag} (valid : tag.Valid) :
    attributes tag.span = lastValues (tag.spellings.map Spelling.pair) :=
  attributesSpellings valid.2.1 valid.2.2

theorem ofHeadTag {tag : Tag} (valid : tag.Valid) (text : Option String) :
    Element.ofHead ⟨tag.name, tag.span⟩ text = tag.element text := by
  rw [Element.ofHead, attributesTag valid, Tag.element]

theorem headTag {tag : Tag} (valid : tag.Valid) (rest : List Char) :
    head? ('<' :: (tag.name ++ (tag.span ++ '>' :: rest))) = some (⟨tag.name, tag.span⟩, rest) :=
  headPasses valid.1.1 valid.1.2 (tagSpanHead valid) (passesTag valid) rest

theorem headSingle {tag : Tag} (valid : tag.Valid) (rest : List Char) :
    head? ('<' :: (tag.name ++ (tag.span ++ '/' :: '>' :: rest))) = some (⟨tag.name, tag.span ++ ['/']⟩, rest) := by
  have stop : ∀ c ∈ (tag.span ++ ['/']).head?, isWord c = false := by
    have slash : isWord '/' = false := by decide
    have first := tagSpanHead valid
    cases h : tag.span with
    | nil => simpa using slash
    | cons d s => simpa [h] using first
  have passes := passesAppend (passesTag valid) (passesPlain (c := '/') (by decide) rfl)
  have read := headPasses valid.1.1 valid.1.2 stop passes rest
  rwa [List.append_assoc] at read

theorem selfClosingSingle {tag : Tag} (valid : tag.Valid) (rest : List Char) :
    selfClosing? ((Node.single tag).text ++ rest) = some (⟨tag.name, tag.span⟩, rest) := by
  have text : (Node.single tag).text ++ rest = '<' :: (tag.name ++ (tag.span ++ '/' :: '>' :: rest)) := by
    simp [Node.text]
  rw [text, selfClosing?, headSingle valid]
  simp

theorem pairText (tag : Tag) (content rest : List Char) : (Node.pair tag content).text ++ rest =
    '<' :: (tag.name ++ (tag.span ++ '>' :: (content ++ (closingTag tag.name ++ rest)))) := by
  simp [Node.text]

theorem selfClosingOpen {tag : Tag} (valid : tag.Valid) (rest : List Char) :
    selfClosing? ('<' :: (tag.name ++ (tag.span ++ '>' :: rest))) = none := by
  have last : tag.span.getLast? ≠ some '/' := fun h => tagSpanLast valid '/' h (by simp)
  rw [selfClosing?, headTag valid]
  simp [last]

theorem selfClosingPair {tag : Tag} (valid : tag.Valid) (content rest : List Char) :
    selfClosing? ((Node.pair tag content).text ++ rest) = none := by
  rw [pairText]
  exact selfClosingOpen valid _

theorem pairedPair {tag : Tag} (valid : tag.Valid) {content : List Char}
    (absent : ¬ closingTag tag.name <:+: content) (rest : List Char) :
    paired? ((Node.pair tag content).text ++ rest) = some ((⟨tag.name, tag.span⟩, content), rest) := by
  rw [pairText, paired?, headTag valid]
  simp [untilClosingTag valid.1.2 absent]

/- Two signs are looked for in tags, and neither can come from the spelling around the values. -/
theorem apartSpelling {sign : Char} {kind : Char → Bool} (mark : sign ∈ ['/', '<'])
    (closers : ∀ q : Quoting, kind q.closer = false) {s : Spelling} (valid : s.Valid)
    (apart : Apart sign kind s.value) : Apart sign kind s.text := by
  obtain ⟨⟨_, blank⟩, ⟨_, all⟩, _⟩ := valid
  have outside : ∀ c ∈ ['/', '<'], isBlank c = false ∧ isWord c = false ∧ c ≠ '=' := by decide
  obtain ⟨noBlank, noWord, noEqual⟩ := outside sign mark
  have noOpener : sign ≠ s.quoting.opener := fun same => s.quoting.openerMark (same ▸ mark)
  have front : sign ∉ s.gap ++ s.name ++ ['=', s.quoting.opener] := by
    simp only [List.mem_append, List.mem_cons, List.not_mem_nil, or_false, not_or]
    exact ⟨⟨outsideAll blank noBlank, outsideAll all noWord⟩, noEqual, noOpener⟩
  have opened := apartJoin (apartWithout front) apart (.inl (notLastWithout front))
  have close : ∀ b ∈ [s.quoting.closer].head?, kind b = false := by simpa using closers s.quoting
  have whole := apartJoin opened (List.isChain_singleton _) (.inr close)
  simpa [Spelling.text, enclose] using whole

theorem apartTag {sign : Char} {kind : Char → Bool} (mark : sign ∈ ['/', '<'])
    (closers : ∀ q : Quoting, kind q.closer = false) {tag : Tag} (valid : tag.Valid)
    (apart : ∀ s ∈ tag.spellings, Apart sign kind s.value) : Apart sign kind tag.span := by
  obtain ⟨_, spellings, blank⟩ := valid
  have outside : ∀ c ∈ ['/', '<'], isBlank c = false := by decide
  have gap : sign ∉ tag.gap := outsideAll blank (outside sign mark)
  unfold Tag.span
  generalize tag.spellings = all at *
  induction all with
  | nil => exact apartWithout gap
  | cons s rest ih =>
      have tail := ih (fun t ht => apart t (List.mem_cons_of_mem _ ht))
        fun t ht => spellings t (List.mem_cons_of_mem _ ht)
      have head := apartSpelling mark closers (spellings s List.mem_cons_self) (apart s List.mem_cons_self)
      have last : s.text.getLast? ≠ some sign := by
        rw [spellingLast]
        intro same
        exact s.quoting.closerMark (Option.some.inj same ▸ mark)
      rw [List.flatMap_cons, List.append_assoc]
      exact apartJoin head tail (.inl last)

theorem closingTagFree {name : List Char} (all : ∀ c ∈ name, isWord c = true) : TagFree (closingTag name) := by
  have rest : '<' ∉ '/' :: (name ++ ['>']) := by simp [outsideAll all (c := '<') (by decide)]
  exact apartJoin (s := ['<']) (List.isChain_singleton _) (apartWithout rest) (.inr (by simp; decide))

theorem pairInside {tag : Tag} {content : List Char} (valid : (Node.pair tag content).Valid) :
    ∃ inside, (Node.pair tag content).text = '<' :: inside ∧ TagFree inside ∧ inside.getLast? ≠ some '<' := by
  obtain ⟨tagValid, values, free, _⟩ := valid
  have name := outsideAll tagValid.1.2 (c := '<') (by decide)
  have last : tag.span.getLast? ≠ some '<' := fun h => tagSpanLast tagValid '<' h (by simp)
  have span := apartTag (by decide) Quoting.closerNoWord tagValid values
  have opening := apartJoin (apartWithout name) span (.inl (notLastWithout name))
  have content := apartJoin free (closingTagFree tagValid.1.2) (.inr (by simp [closingTag]; decide))
  have inner := apartJoin (s := ['>']) (List.isChain_singleton _) content (.inl (by decide))
  have border : (tag.name ++ tag.span).getLast? ≠ some '<' := by
    rw [List.getLast?_append]
    cases h : tag.span.getLast? with
    | none => simpa using notLastWithout name
    | some c => simpa [h] using last
  refine ⟨_, rfl, ?_, ?_⟩
  · rw [← List.append_assoc]
    exact apartJoin opening inner (.inl border)
  · simp [closingTag, List.getLast?_append, List.getLast?_cons]

theorem selfClosingLeaves {node : Node} (valid : node.Valid) (other : node.stays = true)
    (rest : List Char) :
    selfClosing (node.text ++ rest) = ⟨(selfClosing rest).items, node.text ++ (selfClosing rest).residue⟩ := by
  cases node with
  | filler s => exact selfClosingQuiet (apartWithout valid) (notLastWithout valid) rest
  | single tag => contradiction
  | pair tag content =>
      -- Its own head does not close itself, and no head starts behind it.
      obtain ⟨inside, text, free, last⟩ := pairInside valid
      have start := selfClosingPair valid.1 content rest
      rw [text, List.cons_append] at start
      rw [text, List.cons_append, selfClosing, sweepChar start, ← selfClosing, selfClosingQuiet free last rest]
      rfl

theorem selfClosingDocument {nodes : List Node} (valid : ∀ node ∈ nodes, node.Valid) (rest : List Char) :
    ((selfClosing (documentText nodes ++ rest)).items.map (Element.ofHead · none) =
      nodes.filterMap Node.single? ++ (selfClosing rest).items.map (Element.ofHead · none)) ∧
    (selfClosing (documentText nodes ++ rest)).residue =
      documentText (nodes.filter Node.stays) ++ (selfClosing rest).residue := by
  induction nodes with
  | nil => exact ⟨rfl, rfl⟩
  | cons node nodes ih =>
      obtain ⟨items, residue⟩ := ih fun p hp => valid p (List.mem_cons_of_mem _ hp)
      have here := valid node List.mem_cons_self
      rw [documentTextCons, List.append_assoc]
      cases h : node.single? with
      | none =>
          have other : node.stays = true := by rw [Node.stays, h]; rfl
          rw [selfClosingLeaves here other, List.filter_cons_of_pos other, List.filterMap_cons_none h,
            documentTextCons, List.append_assoc, ← residue]
          exact ⟨items, rfl⟩
      | some element =>
          have taken : ¬ node.stays = true := by simp [Node.stays, h]
          cases node with
          | filler s => simp [Node.single?] at h
          | pair tag content => simp [Node.single?] at h
          | single tag =>
              have same : tag.element none = element := by simpa [Node.single?] using h
              rw [selfClosing, sweepPiece selfClosingShortens (selfClosingSingle here _), ← selfClosing,
                List.filter_cons_of_neg taken, List.filterMap_cons_some h, ← same, ← residue]
              simp only [Swept.pick, List.map_cons, items, List.cons_append, ofHeadTag here, and_self]

theorem pairedDocument {nodes : List Node} (valid : ∀ node ∈ nodes, node.Valid)
    (none : ∀ node ∈ nodes, node.stays = true) (rest : List Char) :
    (paired (documentText nodes ++ rest)).map (fun (head, content) => Element.ofHead head (textChild content)) =
      nodes.filterMap Node.pair? ++
        (paired rest).map fun (head, content) => Element.ofHead head (textChild content) := by
  induction nodes with
  | nil => rfl
  | cons node nodes ih =>
      have tail := ih (fun p hp => valid p (List.mem_cons_of_mem _ hp)) fun p hp => none p (List.mem_cons_of_mem _ hp)
      have here := valid node List.mem_cons_self
      rw [documentTextCons, List.append_assoc]
      cases node with
      | single tag => exact absurd (none _ List.mem_cons_self) (by simp [Node.stays, Node.single?])
      | filler s =>
          rw [Node.text, pairedQuiet (apartWithout here) (notLastWithout here), tail]
          rfl
      | pair tag content =>
          have read := pairedPair here.1 here.2.2.2 (documentText nodes ++ rest)
          rw [paired, sweepPiece pairedShortens read]
          have first : Element.ofHead ⟨tag.name, tag.span⟩ (textChild content) = tag.element (textChild content) :=
            ofHeadTag here.1 _
          simp only [Swept.pick, List.map_cons, first]
          rw [← paired, tail]
          simp [Node.pair?, textChild]

theorem elementsBefore {nodes : List Node} (valid : ∀ node ∈ nodes, node.Valid) {rest : List Char}
    (silent : elementsOf rest = []) : elementsOf (documentText nodes ++ rest) = documentElements nodes := by
  obtain ⟨noSingle, noPair⟩ := List.append_eq_nil_iff.mp silent
  obtain ⟨items, residue⟩ := selfClosingDocument valid rest
  -- The second pass reads what the first one left: the same document without its self-closing tags.
  have left : ∀ node ∈ nodes.filter Node.stays, node.Valid :=
    fun p hp => valid p (List.mem_filter.mp hp).1
  have pairs := pairedDocument left (fun p hp => (List.mem_filter.mp hp).2) (selfClosing rest).residue
  have same : (nodes.filter Node.stays).filterMap Node.pair? = nodes.filterMap Node.pair? := by
    rw [List.filterMap_filter]
    refine List.filterMap_congr fun p _ => ?_
    cases p <;> rfl
  rw [elementsOf, items, residue, pairs, noSingle, noPair, List.append_nil, List.append_nil, same, documentElements]

theorem documentTextIntersperse (s : List Char) (nodes : List Node) :
    documentText (nodes.intersperse (.filler s)) = s.intercalate (nodes.map Node.text) := by
  induction nodes with
  | nil => rfl
  | cons first rest ih =>
      cases rest with
      | nil => simp [documentText]
      | cons second rest =>
          simp only [List.map_cons, List.intersperse_cons_cons, List.intercalate_cons_cons, documentTextCons] at ih ⊢
          rw [ih]
          simp [Node.text]

theorem filterMapIntersperse {α β : Type} {f : α → Option β} {sep : α} (none : f sep = none) (xs : List α) :
    (xs.intersperse sep).filterMap f = xs.filterMap f := by
  induction xs with
  | nil => rfl
  | cons first rest ih =>
      cases rest with
      | nil => rfl
      | cons second rest =>
          rw [List.intersperse_cons_cons, List.filterMap_cons, List.filterMap_cons_none none, ih, ← List.filterMap_cons]

theorem forallIntersperse {α : Type} {kind : α → Prop} {sep : α} (here : kind sep) {xs : List α}
    (all : ∀ x ∈ xs, kind x) : ∀ x ∈ xs.intersperse sep, kind x := by
  induction xs with
  | nil => simp
  | cons first rest ih =>
      have head := all first List.mem_cons_self
      have tail := ih fun x h => all x (List.mem_cons_of_mem _ h)
      cases rest with
      | nil => simpa using head
      | cons second rest => simpa using ⟨head, here, by simpa using tail⟩

theorem elementsApart {α : Type} {s : List Char} (clear : '<' ∉ s) {items : List α} {node : α → Node}
    {text : α → List Char} (valid : ∀ item ∈ items, (node item).Valid)
    (same : ∀ item ∈ items, (node item).text = text item) {rest : List Char} (silent : elementsOf rest = []) :
    elementsOf (s.intercalate (items.map text) ++ rest) = documentElements (items.map node) := by
  have between : (Node.filler s).Valid := clear
  have all : ∀ n ∈ (items.map node).intersperse (.filler s), n.Valid :=
    forallIntersperse between (List.forall_mem_map.mpr valid)
  have read := elementsBefore all silent
  have texts : (items.map node).map Node.text = items.map text := by
    rw [List.map_map]
    exact List.map_congr_left same
  rwa [documentTextIntersperse, texts, documentElements, filterMapIntersperse (f := Node.single?) rfl,
    filterMapIntersperse (f := Node.pair?) rfl] at read

theorem readsDocument (nodes : List Node) (valid : ∀ node ∈ nodes, node.Valid) :
    elements (String.ofList (documentText nodes)) = documentElements nodes := by
  have read : elementsOf (documentText nodes ++ []) = documentElements nodes := elementsBefore valid rfl
  rwa [elements, String.toList_ofList, ← List.append_nil (documentText nodes)]

def nestedNodes : List Node :=
  [.filler "a > b ".toList,
    .single ⟨"Img".toList, [⟨[' '], "src".toList, .double, "<Text>'/>".toList⟩,
      ⟨['\n', ' '], "alt".toList, .single, "a \"b\"".toList⟩, ⟨[' '], "src".toList, .braces, "\"'".toList⟩], [' ']⟩,
    .filler "\n/>".toList,
    .pair ⟨"Text".toList, [⟨[' '], "as".toList, .single, "> < ".toList⟩], ['\n']⟩ " 5 < 6 </Heading>\n<".toList,
    .pair ⟨"Text".toList, [], []⟩ []]

theorem readsNestedNodes : (∀ node ∈ nestedNodes, node.Valid) ∧
    String.ofList (documentText nestedNodes) =
      "a > b <Img src=\"<Text>'/>\"\n alt='a \"b\"' src=\x7b\"'\x7d />\n/>" ++
        "<Text as='> < '\n> 5 < 6 </Heading>\n<</Text><Text></Text>" ∧
    elements (String.ofList (documentText nestedNodes)) =
      [⟨"Img", [("src", "\"'"), ("alt", "a \"b\"")], none⟩,
        ⟨"Text", [("as", "> < ")], some "5 < 6 </Heading>\n<"⟩, ⟨"Text", [], none⟩] := by
  have valid : ∀ node ∈ nestedNodes, node.Valid := by decide
  exact ⟨valid, by decide, (readsDocument nestedNodes valid).trans (by decide)⟩

end EmailMarkup.Markup
