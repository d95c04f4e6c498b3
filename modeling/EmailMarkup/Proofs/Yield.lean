import EmailMarkup.Proofs.Canonical

/-! What reading yields, however malformed the text is. Each element was read at some place of the text, and each of
its attributes at some place of its span. There a value stops at the first closer of the form it is found in, so that
form is free for it, and the text of an element stops at the first closing tag. So what was read is written again
without loss. -/
namespace EmailMarkup.Markup
open Text (word isWord isBlank strip stripTwice stripInfix)
open Props (spell spellPairs spellWritten writePairsSpelled)

variable {α : Type}

theorem sweepOrigin {read? : Reader α} {s : List Char} {a : α} (h : a ∈ (sweep read? s).items) :
    ∃ place after, read? place = some (a, after) := by
  unfold sweep at h
  generalize s.length = fuel at h
  induction fuel generalizing s with
  | zero => contradiction
  | succ fuel ih =>
      cases s with
      | nil => contradiction
      | cons c rest =>
          rw [sweepWith] at h
          split at h
          · rename_i first after found
            rcases List.mem_cons.mp h with rfl | later
            · exact ⟨_, after, found⟩
            · exact ih later
          · exact ih h

theorem closerQuoting {opener close : Char} (pair : closer? opener = some close) :
    ∃ quoting : Quoting, quoting.opener = opener ∧ quoting.closer = close := by
  unfold closer? at pair
  split at pair
  · exact ⟨.double, rfl, Option.some.inj pair⟩
  · exact ⟨.single, rfl, Option.some.inj pair⟩
  · exact ⟨.braces, rfl, Option.some.inj pair⟩
  · contradiction

structure Lossless (pair : String × String) : Prop where
  filled : pair.1.toList ≠ []
  word : ∀ c ∈ pair.1.toList, isWord c = true
  quotable : Quotable pair.2.toList

/- A value is read up to the first closer, so it lacks the closer of the form it is found in. -/
theorem attributeLossless {s : List Char} {pair : String × String} {after : List Char}
    (found : attribute? s = some (pair, after)) : Lossless pair := by
  unfold attribute? at found
  split at found
  · contradiction
  · rename_i name opener rest filled read
    simp only [bind, Option.bind_eq_some_iff] at found
    obtain ⟨close, closes, ⟨value, tail⟩, first, same⟩ := found
    cases same
    obtain ⟨quoting, -, rfl⟩ := closerQuoting closes
    have free : quoting.closer ∉ value := by
      have early := untilEarliest (List.cons_ne_nil _ _) first
      rwa [List.singleton_infix_iff] at early
    have all : ∀ c ∈ name, isWord c = true := by
      have chars := fun c => @Text.wordChars s c
      rwa [read] at chars
    refine ⟨?_, ?_, ?_⟩ <;> rw [String.toList_ofList]
    · exact filled
    · exact all
    · exact closerQuotable free
  · contradiction

theorem attributesLossless {span : List Char} : ∀ pair ∈ attributes span, Lossless pair := by
  intro pair h
  rw [attributes, ofPairsLastValues] at h
  obtain ⟨place, after, found⟩ := sweepOrigin (lastValuesMember h)
  exact attributeLossless found

theorem attributesDistinct (span : List Char) : ((attributes span).map Prod.fst).Nodup := by
  rw [attributes, ofPairsLastValues, lastValues, List.map_map]
  simpa [Function.comp_def] using eraseDupsDistinct _

theorem attributesBlank {c : Char} (blank : isBlank c = true) (span : List Char) :
    attributes (c :: span) = attributes span := by
  rw [attributes, sweepChar (attributeNone (Text.blankNoWord blank))]
  rfl

theorem attributesPairs {pairs : Attributes} (lossless : ∀ pair ∈ pairs, Lossless pair) :
    attributes (writeAttributes pairs) = lastValues pairs := by
  by_cases none : pairs = []
  · subst none
    rfl
  · have valid : ∀ s ∈ pairs.map spell, s.Valid := by
      rw [List.forall_mem_map]
      intro pair h
      obtain ⟨filled, word, quotable⟩ := lossless pair h
      exact ⟨⟨List.cons_ne_nil _ _, by simp [spell]; decide⟩, ⟨filled, word⟩, quotingFree quotable⟩
    have read := @attributesSpellings _ valid [] (by simp)
    rw [List.append_nil, spellPairs, ← writePairsSpelled none fun pair h => (lossless pair h).quotable,
      attributesBlank (by decide)] at read
    exact read

theorem attributesWritten {pairs : Attributes} (lossless : ∀ pair ∈ pairs, Lossless pair)
    (distinct : (pairs.map Prod.fst).Nodup) : attributes (writeAttributes pairs) = pairs := by
  rw [attributesPairs lossless, lastValuesDistinct distinct]

theorem textChildTrimmed {content : List Char} {text : String} (h : text ∈ textChild content) :
    text ≠ "" ∧ text.toList = strip content := by
  unfold textChild at h
  split at h
  · contradiction
  · rename_i filled
    cases Option.some.inj h
    rw [String.toList_ofList]
    refine ⟨fun none => filled ?_, rfl⟩
    have gone := congrArg String.toList none
    rw [String.toList_ofList] at gone
    rw [gone]
    rfl

structure Element.Yielded (element : Element) : Prop where
  tagged : element.tag.toList ≠ [] ∧ ∀ c ∈ element.tag.toList, isWord c = true
  lossless : ∀ pair ∈ element.attributes, Lossless pair
  distinct : (element.attributes.map Prod.fst).Nodup
  inner : ∀ text ∈ element.text, text ≠ "" ∧ strip text.toList = text.toList ∧
    ¬ closingTag element.tag.toList <:+: text.toList

theorem headYields {s : List Char} {head : Head} {after : List Char} (found : head? s = some (head, after))
    {span : List Char} {child : Option String} (inner : ∀ text ∈ child, text ≠ "" ∧ strip text.toList = text.toList ∧
      ¬ closingTag head.name <:+: text.toList) : (Element.ofHead ⟨head.name, span⟩ child).Yielded where
  tagged := by
    obtain ⟨body, named, -⟩ := headNamed.mp found
    rw [Element.ofHead, String.toList_ofList]
    exact ⟨named.filled, named.word⟩
  lossless := attributesLossless
  distinct := attributesDistinct span
  inner := by
    rw [Element.ofHead, String.toList_ofList]
    exact inner

theorem selfClosingYields {s : List Char} {head : Head} {after : List Char}
    (found : selfClosing? s = some (head, after)) : (Element.ofHead head none).Yielded := by
  simp only [selfClosing?, bind, Option.bind_eq_some_iff] at found
  obtain ⟨⟨whole, rest⟩, read, found⟩ := found
  split at found <;> try contradiction
  cases found
  exact headYields read (by simp)

theorem pairedYields {s : List Char} {head : Head} {content after : List Char}
    (found : paired? s = some ((head, content), after)) : (Element.ofHead head (textChild content)).Yielded := by
  simp only [paired?, bind, Option.bind_eq_some_iff] at found
  obtain ⟨⟨other, rest⟩, read, ⟨body, tail⟩, first, same⟩ := found
  cases same
  have early := untilEarliest (by simp [closingTag]) first
  refine headYields read fun text h => ?_
  obtain ⟨filled, trimmed⟩ := textChildTrimmed h
  rw [trimmed]
  exact ⟨filled, stripTwice body, fun closes => early (closes.trans (stripInfix body))⟩

theorem elementsYield {source : String} {element : Element} (h : element ∈ elements source) : element.Yielded := by
  rcases List.mem_append.mp h with single | pair
  · obtain ⟨head, member, rfl⟩ := List.mem_map.mp single
    obtain ⟨place, after, found⟩ := sweepOrigin member
    exact selfClosingYields found
  · obtain ⟨⟨head, content⟩, member, rfl⟩ := List.mem_map.mp pair
    obtain ⟨place, after, found⟩ := sweepOrigin member
    exact pairedYields found

theorem attributeWritten {name value : String} (lossless : Lossless (name, value)) :
    attributes (writeAttribute name value) = [(name, value)] := by
  have read := @attributesWritten [(name, value)] (by simpa using lossless) (by simp)
  rwa [writeAttributes, List.map_singleton, List.intercalate_singleton] at read

/- The last form of writing, with entities for the double quotes, is for values that nothing read ever has. -/
theorem yieldsLossless (source : String) (element : Element) (read : element ∈ elements source) :
    element.Yielded ∧ attributes (writeAttributes element.attributes) = element.attributes ∧
    ∀ name value, (name, value) ∈ element.attributes →
      ('"' ∉ value.toList ∨ '\'' ∉ value.toList ∨ '\x7d' ∉ value.toList) ∧
      (∃ quoting : Quoting, quoting.closer ∉ value.toList ∧
        writeAttribute name value = enclose name.toList [quoting.opener] value.toList [quoting.closer]) ∧
      attributes (writeAttribute name value) = [(name, value)] := by
  have yielded := elementsYield read
  refine ⟨yielded, attributesWritten yielded.lossless yielded.distinct, fun name value h => ?_⟩
  have lossless := yielded.lossless _ h
  refine ⟨?_, ⟨_, quotingFree lossless.quotable, writeQuotable lossless.quotable⟩, attributeWritten lossless⟩
  simpa only [Quotable, not_and_or] using lossless.quotable

theorem yieldsLosslessStray : ∃ element, element ∈ elements "</b <Tag \x7ba=\"1\" b='\x7d c=\x7b\"'\x7d ' > </Ta\n</Tag>" ∧
    element.tag = "Tag" ∧ ("b", "\x7d c=\x7b\"") ∈ element.attributes ∧
    writeAttribute "b" "\x7d c=\x7b\"" = "b='\x7d c=\x7b\"'".toList ∧ element.text = some "</Ta" ∧ element.Yielded ∧
    attributes (writeAttribute "b" "\x7d c=\x7b\"") = [("b", "\x7d c=\x7b\"")] := by
  have read : (⟨"Tag", [("a", "1"), ("b", "\x7d c=\x7b\"")], some "</Ta"⟩ : Element) ∈
      elements "</b <Tag \x7ba=\"1\" b='\x7d c=\x7b\"'\x7d ' > </Ta\n</Tag>" := by decide
  obtain ⟨yielded, -, each⟩ := yieldsLossless _ _ read
  have second := each "b" "\x7d c=\x7b\"" (by decide)
  exact ⟨_, read, rfl, by decide, by decide, rfl, yielded, second.2.2⟩

end EmailMarkup.Markup
