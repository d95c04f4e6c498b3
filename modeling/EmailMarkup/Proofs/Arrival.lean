import EmailMarkup.Proofs.Torn
import EmailMarkup.Proofs.Rescan

/-! Written components that arrive in chunks. Blocks stand on lines of their own among lines without tags. What has
come of the text is some whole blocks and at most one torn block; the lines kept are theirs, and they show the whole
blocks only. So a session follows an email block by block, wherever the chunks are cut. -/
namespace EmailMarkup.Stream
open Markup (Node elementsOf closingTag)
open Text (isBlank strip stripEnd lines unlines linesFeed)

def Streams : Part → Prop
  | .block props => Streamable props
  | .other s => '<' ∉ s

theorem streamsValid {part : Part} (streams : Streams part) : part.Valid := by
  cases part with
  | block props => exact Streamable.restorable streams
  | other s => exact streams

def arrived : Nat → List Part → List Props
  | _, [] => []
  | n, part :: rest =>
      if n < part.text.length then [] else part.props?.toList ++ arrived (n - (part.text.length + 1)) rest

theorem writeEnds (props : Props) : ∃ inside, props.write = '<' :: (inside ++ ['>']) := by
  let opening := props.kind.tag.toList ++ ' ' :: Markup.writeAttributes props.attributes
  unfold Props.write
  cases props.innerText? with
  | none => exact ⟨opening ++ " /".toList, by simp [opening]⟩
  | some inner =>
      refine ⟨opening ++ ">\n  ".toList ++ inner.toList ++ "\n</".toList ++ props.kind.tag.toList, ?_⟩
      simp [opening, closingTag]

theorem arrivedNone (parts : List Part) : arrived 0 parts = [] := by
  induction parts with
  | nil => rfl
  | cons part rest ih =>
      unfold arrived
      split
      · rfl
      · rename_i empty
        cases part with
        | other s => rw [Nat.zero_sub, ih]; rfl
        | block props =>
            obtain ⟨inside, text⟩ := writeEnds props
            simp [Part.text, text] at empty

theorem arrivedGrows {m n : Nat} (le : m ≤ n) (parts : List Part) : arrived m parts <+: arrived n parts := by
  induction parts generalizing m n with
  | nil => exact List.prefix_refl _
  | cons part rest ih =>
      by_cases short : m < part.text.length
      · rw [arrived, if_pos short]
        exact List.nil_prefix
      · have long : ¬ n < part.text.length := by omega
        rw [arrived, if_neg short, arrived, if_neg long]
        exact (List.prefix_append_right_inj _).mpr (ih (by omega))

theorem arrivedFirst (n : Nat) (parts : List Part) : arrived n parts <+: parts.filterMap Part.props? := by
  induction parts generalizing n with
  | nil => exact List.prefix_refl _
  | cons part rest ih =>
      rw [arrived, propsCons]
      split
      · exact List.nil_prefix
      · exact (List.prefix_append_right_inj _).mpr (ih _)

theorem arrivedAll (parts : List Part) :
    arrived (unlines (parts.map Part.text)).length parts = parts.filterMap Part.props? := by
  induction parts with
  | nil => rfl
  | cons part rest ih =>
      by_cases last : rest = []
      · subst last
        simp [arrived, unlines, propsCons]
      · have some : rest.map Part.text ≠ [] := by simpa using last
        have length : (unlines ((part :: rest).map Part.text)).length =
            part.text.length + 1 + (unlines (rest.map Part.text)).length := by
          rw [List.map_cons, Text.unlinesCons _ some, List.length_append, List.length_cons]
          omega
        rw [length, arrived, if_neg (by omega), Nat.add_sub_cancel_left, ih, propsCons]

/-- What is kept behind the whole blocks, under the open tags given: nothing, or a torn block. -/
inductive Tail : List (List Char) → List (List Char) → Prop where
  | none : Tail [] []
  | torn {name outer props q} (streamable : Streamable props) (start : q <+: props.write) (other : q ≠ props.write)
      (some : q ≠ []) : Tail (name :: outer) [q]

theorem runWhole {part : Part} (streams : Streams part) {kept : Kept} (shut : kept.stack = []) :
    kept.run (lines part.text) = kept.keepAll ((part.props?.toList.map Props.write).flatMap lines) := by
  cases part with
  | other s => exact Kept.runDropped (linesClear streams) shut
  | block props =>
      have whole := Streamable.blockKept streams kept
      simpa [Part.text, Part.props?] using whole

theorem runTorn {part : Part} (streams : Streams part) {q : List Char} (start : q <+: part.text)
    (other : q ≠ part.text) {kept : Kept} (shut : kept.stack = []) :
    ∃ tail, (kept.run (lines q)).lines = kept.lines ++ tail.flatMap lines ∧ Tail (kept.run (lines q)).stack tail := by
  cases part with
  | other s =>
      have clear : '<' ∉ q := fun h => streams (start.subset h)
      rw [Kept.runDropped (linesClear clear) shut, shut]
      exact ⟨[], by simp, .none⟩
  | block props =>
      rcases Streamable.tornKept streams start other shut with nothing | ⟨name, some, filled⟩
      · rw [nothing, shut]
        exact ⟨[], by simp, .none⟩
      · rw [some]
        refine ⟨[q], ?_, .torn streams start other filled⟩
        change (kept.keepAll (lines q)).lines = _
        rw [Kept.keepAllLines, List.flatMap_singleton]

theorem runArrived {parts : List Part} (streams : ∀ part ∈ parts, Streams part) {b : List Char}
    (come : b <+: unlines (parts.map Part.text)) {kept : Kept} (shut : kept.stack = []) :
    ∃ tail, (kept.run (lines b)).lines =
        kept.lines ++ ((arrived b.length parts).map Props.write ++ tail).flatMap lines ∧
      Tail (kept.run (lines b)).stack tail := by
  induction parts generalizing kept b with
  | nil =>
      have none : b = [] := List.prefix_nil.mp come
      rw [none, Kept.runDropped (linesClear (by simp)) shut, shut]
      exact ⟨[], by simp [arrived], .none⟩
  | cons part rest ih =>
      have here := streams part List.mem_cons_self
      have whole := runWhole here shut
      -- What has come ends within this part, perhaps at its very end, or goes on behind its line feed.
      rcases Text.unlinesPrefix come with inside | ⟨r, rfl, behind⟩
      · by_cases same : b = part.text
        · rw [same, arrived, if_neg (Nat.lt_irrefl _), Nat.sub_eq_zero_of_le (Nat.le_succ _), arrivedNone, whole,
            Kept.keepAllLines]
          refine ⟨[], ?_, ?_⟩
          · simp
          · rw [Kept.keepAll, shut]
            exact .none
        · rw [arrived, if_pos (Text.prefixShorter inside same)]
          exact runTorn here inside same shut
      · have later : (part.text ++ '\n' :: r).length - (part.text.length + 1) = r.length := by
          rw [List.length_append, List.length_cons]
          omega
        have long : ¬ (part.text ++ '\n' :: r).length < part.text.length := by
          rw [List.length_append]
          omega
        have next : (kept.keepAll ((part.props?.toList.map Props.write).flatMap lines)).stack = [] := shut
        obtain ⟨tail, held, ends⟩ := ih (fun p h => streams p (List.mem_cons_of_mem _ h)) behind next
        rw [linesFeed, Kept.runAppend, whole, arrived, if_neg long, later]
        refine ⟨tail, ?_, ends⟩
        rw [held, Kept.keepAllLines]
        simp only [List.map_append, List.flatMap_append, List.append_assoc]

theorem runAll {parts : List Part} (streams : ∀ part ∈ parts, Streams part) {kept : Kept}
    (shut : kept.stack = []) : kept.run (lines (unlines (parts.map Part.text))) =
      kept.keepAll (((parts.filterMap Part.props?).map Props.write).flatMap lines) := by
  induction parts generalizing kept with
  | nil => exact Kept.runDropped (linesClear (by simp [unlines])) shut
  | cons part rest ih =>
      have here := runWhole (streams part List.mem_cons_self) shut
      have next : (kept.keepAll ((part.props?.toList.map Props.write).flatMap lines)).stack = [] := shut
      rw [propsCons, List.map_append, List.flatMap_append, Kept.keepAllAppend, ← here]
      by_cases last : rest = []
      · simp [last, unlines, Kept.keepAll]
      · have some : rest.map Part.text ≠ [] := by simpa using last
        have tail := ih (fun p h => streams p (List.mem_cons_of_mem _ h)) next
        rw [List.map_cons, Text.unlinesCons _ some, linesFeed, Kept.runAppend, here, tail]

theorem linesFeeds (s : List Char) : (lines s).flatMap (· ++ ['\n']) = s ++ ['\n'] := by
  rw [Text.unlinesFeeds (Text.linesNonempty s), Text.unlinesLines]

theorem keptText {kept : Kept} {pieces : List (List Char)} (same : kept.lines = pieces.flatMap lines) :
    kept.text = strip (unlines pieces) := by
  have fed : kept.lines.flatMap (· ++ ['\n']) = pieces.flatMap (· ++ ['\n']) := by
    rw [same, List.flatMap_assoc]
    exact List.flatMap_congr fun piece _ => linesFeeds piece
  rw [Kept.text, fed]
  by_cases none : pieces = []
  · rw [none]
    rfl
  · rw [Text.unlinesFeeds none]
    exact Text.stripBetween (a := []) (by simp) (by decide)

theorem writtenEnds {contents : List Props} (some : contents ≠ []) :
    ∃ inside, unlines (contents.map Props.write) = '<' :: (inside ++ ['>']) := by
  induction contents with
  | nil => contradiction
  | cons props rest ih =>
      obtain ⟨first, text⟩ := writeEnds props
      by_cases last : rest = []
      · exact ⟨first, by simp [last, unlines, text]⟩
      · obtain ⟨inside, tail⟩ := ih last
        have filled : rest.map Props.write ≠ [] := by simpa using last
        refine ⟨first ++ '>' :: '\n' :: '<' :: inside, ?_⟩
        rw [List.map_cons, Text.unlinesCons _ filled, tail, text]
        simp

theorem stripWritten (contents : List Props) :
    strip (unlines (contents.map Props.write)) = unlines (contents.map Props.write) := by
  by_cases none : contents = []
  · rw [none]
    rfl
  · obtain ⟨inside, text⟩ := writtenEnds none
    rw [text, Text.stripBoth (by decide) (by decide)]

theorem stripTorn (contents : List Props) {props : Props} (streamable : Streamable props) {q : List Char}
    (start : q <+: props.write) (other : q ≠ props.write) (some : q ≠ []) :
    ∃ rest, strip (unlines (contents.map Props.write ++ [q])) = unlines (contents.map Props.write) ++ rest ∧
      elementsOf rest = [] := by
  have shorter : (stripEnd q).length < props.write.length :=
    Nat.lt_of_le_of_lt (Text.stripEndPrefix q).length_le (Text.prefixShorter start other)
  have silent : elementsOf (stripEnd q) = [] :=
    streamable.tornSilent ((Text.stripEndPrefix q).trans start) fun same => by simp [same] at shorter
  have first : ∃ inside, q = '<' :: inside := by
    obtain ⟨d, inside, rfl⟩ := List.exists_cons_of_ne_nil some
    obtain ⟨_, text⟩ := writeEnds props
    rw [text] at start
    exact ⟨inside, by rw [(List.cons_prefix_cons.mp start).1]⟩
  obtain ⟨inside, rfl⟩ := first
  by_cases none : contents = []
  · refine ⟨stripEnd ('<' :: inside), ?_, silent⟩
    have visible : isBlank '<' = false := by decide
    have single : unlines (contents.map Props.write ++ ['<' :: inside]) = '<' :: inside := by simp [none, unlines]
    rw [single, none, Text.stripVisible visible, Text.stripEndVisible visible]
    rfl
  · have filled : contents.map Props.write ≠ [] := by simpa using none
    obtain ⟨blocks, text⟩ := writtenEnds none
    refine ⟨'\n' :: stripEnd ('<' :: inside), ?_, ?_⟩
    · have feed : stripEnd ('\n' :: '<' :: inside) = '\n' :: stripEnd ('<' :: inside) :=
        Text.stripEndAppend ['\n'] ⟨'<', List.mem_cons_self, by decide⟩
      rw [Text.unlinesSnoc filled, text, List.cons_append, Text.stripVisible (by decide),
        Text.stripEndAppend _ ⟨'<', by simp, by decide⟩, feed, List.cons_append]
    · have feed : ∀ node ∈ [Node.filler ['\n']], node.Valid := by simp [Node.Valid]
      exact Markup.elementsBefore feed silent

theorem keptContents {kept : Kept} {done : List Props} {tail : List (List Char)}
    (streamable : ∀ props ∈ done, Streamable props)
    (held : kept.lines = (done.map Props.write ++ tail).flatMap lines) (ends : Tail kept.stack tail) :
    contentsOf kept.text = arranged done := by
  have restorable : ∀ props ∈ done, props.Restorable := fun props h => (streamable props h).restorable
  rw [keptText held]
  generalize kept.stack = tags at ends
  cases ends with
  | none =>
      rw [List.append_nil, stripWritten, ← List.append_nil (unlines _)]
      exact writtenContents (by decide) restorable rfl
  | torn torn start other some =>
      obtain ⟨rest, same, silent⟩ := stripTorn done torn start other some
      rw [same]
      exact writtenContents (by decide) restorable silent

/- As long as nothing is open and no block is whole, nothing is kept. So a text is never taken for an invalid one. -/
theorem keptVerdict {kept : Kept} {done : List Props} {tail : List (List Char)}
    (held : kept.lines = (done.map Props.write ++ tail).flatMap lines) (ends : Tail kept.stack tail)
    (shown : contentsOf kept.text = arranged done) : verdict kept = if done = [] then .pending else .parsed := by
  by_cases none : done = []
  · subst none
    have text := keptText held
    rw [verdict, shown]
    generalize kept.stack = tags at *
    cases ends with
    | none =>
        rw [text]
        rfl
    | torn => split <;> rfl
  · rw [if_neg none, verdictParsed, shown, List.isEmpty_iff, arrangedEmpty]
    exact none

theorem arrivedStreamable {parts : List Part} (streams : ∀ part ∈ parts, Streams part) (n : Nat) :
    ∀ props ∈ arrived n parts, Streamable props := by
  intro props h
  obtain ⟨part, member, shown⟩ := List.mem_filterMap.mp ((arrivedFirst n parts).subset h)
  cases part with
  | other s => simp [Part.props?] at shown
  | block first =>
      have same : first = props := by simpa [Part.props?] using shown
      exact same ▸ streams _ member

theorem receivedAppends (chunks : List String) :
    received (chunks.map Event.append) = chunks.flatMap String.toList := by
  have behind : ∀ s, receivedFrom s (chunks.map Event.append) = s ++ chunks.flatMap String.toList := by
    induction chunks with
    | nil => simp [receivedFrom]
    | cons chunk rest ih =>
        intro s
        rw [List.map_cons, receivedFrom, ih, List.flatMap_cons, List.append_assoc]
  exact behind []

namespace Session

structure Shows (session : Session) (shown : List Props) : Prop where
  contents : session.email.contents = arranged shown
  status : session.status = if shown = [] then .pending else .parsed

theorem appendsKept {parts : List Part} (streams : ∀ part ∈ parts, Streams part) {b : List Char}
    (come : b <+: unlines (parts.map Part.text)) :
    contentsOf (Kept.empty.run (lines b)).text = arranged (arrived b.length parts) ∧
    verdict (Kept.empty.run (lines b)) = if arrived b.length parts = [] then .pending else .parsed := by
  have shut : Kept.empty.stack = [] := rfl
  obtain ⟨tail, held, ends⟩ := runArrived streams come shut
  have shown := keptContents (arrivedStreamable streams _) held ends
  exact ⟨shown, keptVerdict held ends shown⟩

theorem appendsShow {parts : List Part} (streams : ∀ part ∈ parts, Streams part) {chunks : List String}
    (come : chunks.flatMap String.toList <+: unlines (parts.map Part.text)) (ids : Ids) :
    (run ({}, ids) (chunks.map .append)).1.Shows (arrived (chunks.flatMap String.toList).length parts) := by
  induction chunks using List.reverseRecOn with
  | nil =>
      rw [List.flatMap_nil, List.length_nil, arrivedNone]
      exact ⟨rfl, rfl⟩
  | append_singleton chunks last ih =>
      have text : (chunks ++ [last]).flatMap String.toList = chunks.flatMap String.toList ++ last.toList := by simp
      rw [text] at come ⊢
      have before := ih ((List.prefix_append _ _).trans come)
      have after := runAfter (chunks.map .append) last ids
      rw [receivedAppends] at after
      obtain ⟨contents, judged⟩ := appendsKept streams come
      rw [List.map_append, List.map_singleton]
      refine ⟨?_, after.status.trans judged⟩
      rw [after.contents, judged, contents]
      -- Nothing has arrived now, so nothing had arrived before either.
      by_cases none : arrived (chunks.flatMap String.toList ++ last.toList).length parts = []
      · have fewer := arrivedGrows (List.prefix_append (chunks.flatMap String.toList) last.toList).length_le parts
        rw [none, List.prefix_nil] at fewer
        rw [if_pos none, none, before.contents, fewer]
        rfl
      · rw [if_neg none, if_pos rfl]

theorem appendsEnd {parts : List Part} (streams : ∀ part ∈ parts, Streams part) {chunks : List String}
    (whole : chunks.flatMap String.toList = unlines (parts.map Part.text)) (ids : Ids) :
    (run ({}, ids) (chunks.map .append)).1.buffer = unlines (parts.map Part.text) ∧
    (run ({}, ids) (chunks.map .append)).1.kept =
      Kept.empty.keepAll (((parts.filterMap Part.props?).map Props.write).flatMap lines) := by
  have fresh : (({}, ids) : Session × Ids).1.Follows := freshFollows
  have buffer : (run ({}, ids) (chunks.map .append)).1.buffer = unlines (parts.map Part.text) := by
    rw [← whole, ← receivedAppends]
    exact runBuffer _ _
  refine ⟨buffer, ?_⟩
  rw [followsKept (runFollows fresh _), buffer]
  exact runAll streams rfl

theorem followsWritten (parts : List Part) (streams : ∀ part ∈ parts, Streams part) (chunks : List String)
    (whole : chunks.flatMap String.toList = unlines (parts.map Part.text)) (ids later : Ids) :
    let blocks := parts.filterMap Part.props?
    let session := (run ({}, ids) (chunks.map .append)).1
    (∀ before after, chunks = before ++ after →
      (run ({}, ids) (before.map .append)).1.Shows (arrived (before.flatMap String.toList).length parts)) ∧
    session.Shows blocks ∧ session.kept.openTags = [] ∧
    session.wellFormed = String.ofList (unlines (blocks.map Props.write)) ∧
    (session.finalize later).session.email.contents = arranged blocks := by
  intro blocks session
  have shows : ∀ before after, chunks = before ++ after →
      (run ({}, ids) (before.map .append)).1.Shows (arrived (before.flatMap String.toList).length parts) := by
    rintro before after rfl
    refine appendsShow streams ?_ ids
    rw [← whole, List.flatMap_append]
    exact List.prefix_append _ _
  have last := shows chunks [] (List.append_nil _).symm
  rw [whole, arrivedAll] at last
  obtain ⟨buffer, kept⟩ : session.buffer = unlines (parts.map Part.text) ∧
    session.kept = Kept.empty.keepAll ((blocks.map Props.write).flatMap lines) := appendsEnd streams whole ids
  have text : session.kept.text = unlines (blocks.map Props.write) := by
    rw [keptText (by rw [kept]; exact Kept.keepAllLines _ _), stripWritten]
  have read : contentsOf session.buffer = arranged blocks := by
    rw [buffer, ← List.append_nil (unlines _)]
    exact apartContents (by decide) (fun part h => streamsValid (streams part h)) rfl
  refine ⟨shows, last, by rw [Kept.openTags, kept]; rfl, by rw [wellFormed, text], ?_⟩
  rw [finalizeContents, read]
  split
  · exact last.contents
  · rfl

def saleHeading : Props := .heading ⟨"Sale />\n> today", "h1", "left", "it's \"red\"", "a > b"⟩

def saleImage : Props := .image ⟨"x/'y'", ">\x7b", "600"⟩

def saleParts : List Part :=
  [.other "1 > 0 />".toList, .block saleHeading, .other [], .block saleImage, .other "bye".toList]

def saleChunks : List String :=
  ["1 > 0 />\n<Hea", "ding as=\"h1\" fontSize=\"a >", " b\" align=\"left\" color=\x7bit's \"red\"\x7d>\n  Sale />\n",
    "> today\n</Head", "", "ing>", "\n\n<Img src=\"x/'y'\" alt=\">\x7b\" width=\"600\" /", ">\nbye"]

theorem followsSale : (∀ part ∈ saleParts, Streams part) ∧
    saleChunks.flatMap String.toList = unlines (saleParts.map Part.text) ∧
    (run ({}, Ids.numbered) ((saleChunks.take 5).map .append)).1.Shows [] ∧
    (run ({}, Ids.numbered) ((saleChunks.take 7).map .append)).1.Shows [saleHeading] ∧
    (run ({}, Ids.numbered) (saleChunks.map .append)).1.email.contents = [saleImage, saleHeading] := by
  have streams : ∀ part ∈ saleParts, Streams part := by
    intro part h
    simp only [saleParts, List.mem_cons, List.not_mem_nil, or_false] at h
    rcases h with rfl | rfl | rfl | rfl | rfl
    · exact (by decide : '<' ∉ "1 > 0 />".toList)
    · exact (by constructor <;> decide : Streamable saleHeading)
    · exact (by decide : '<' ∉ [])
    · exact (by constructor <;> decide : Streamable saleImage)
    · exact (by decide : '<' ∉ "bye".toList)
  have whole : saleChunks.flatMap String.toList = unlines (saleParts.map Part.text) := by decide +kernel
  have none : arrived ((saleChunks.take 5).flatMap String.toList).length saleParts = [] := by decide +kernel
  have one : arrived ((saleChunks.take 7).flatMap String.toList).length saleParts = [saleHeading] := by decide +kernel
  obtain ⟨shows, last, _⟩ := followsWritten saleParts streams saleChunks whole Ids.numbered Ids.numbered
  have early := shows (saleChunks.take 5) (saleChunks.drop 5) rfl
  have later := shows (saleChunks.take 7) (saleChunks.drop 7) rfl
  rw [none] at early
  rw [one] at later
  exact ⟨streams, whole, early, later, last.contents⟩

end Session
end EmailMarkup.Stream
