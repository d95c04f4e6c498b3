import EmailMarkup.Markup.Attribute
import EmailMarkup.Proofs.Head
import Mathlib.Data.List.Induction

/-! Attributes as they are spelled out in a document: white space, a name, an equals sign and a value in quotes or
braces. A span of them passes over every sign inside the values and is read back name by name. -/
namespace EmailMarkup.Markup
open Text (word isWord isBlank wordSplit blankNoWord)

inductive Quoting where
  | double
  | single
  | braces
  deriving DecidableEq, Repr

namespace Quoting

def opener : Quoting → Char
  | .double => '"'
  | .single => '\''
  | .braces => '\x7b'

def closer : Quoting → Char
  | .double => '"'
  | .single => '\''
  | .braces => '\x7d'

theorem pair (quoting : Quoting) : closer? quoting.opener = some quoting.closer := by cases quoting <;> rfl

theorem closerMark (quoting : Quoting) : quoting.closer ∉ ['/', '<'] := by cases quoting <;> decide

theorem openerMark (quoting : Quoting) : quoting.opener ∉ ['/', '<'] := by cases quoting <;> decide

theorem closerNoWord (quoting : Quoting) : isWord quoting.closer = false := by cases quoting <;> decide

end Quoting

structure Spelling where
  gap : List Char
  name : List Char
  quoting : Quoting
  value : List Char
  deriving DecidableEq, Repr

namespace Spelling

def text (s : Spelling) : List Char :=
  s.gap ++ enclose s.name [s.quoting.opener] s.value [s.quoting.closer]

def pair (s : Spelling) : String × String := (String.ofList s.name, String.ofList s.value)

def Valid (s : Spelling) : Prop :=
  (s.gap ≠ [] ∧ ∀ c ∈ s.gap, isBlank c = true) ∧ (s.name ≠ [] ∧ ∀ c ∈ s.name, isWord c = true) ∧
  s.quoting.closer ∉ s.value
instance (s) : Decidable (Valid s) := by unfold Valid; infer_instance

end Spelling

theorem attributeNone {c : Char} {s : List Char} (h : isWord c = false) : attribute? (c :: s) = none := by
  simp [attribute?, word, h]

theorem attributeShortens : Shortens attribute? := by
  intro s a after found
  unfold attribute? at found
  split at found
  · contradiction
  · rename_i name opener rest _ read
    simp only [bind, Option.bind_eq_some_iff] at found
    obtain ⟨close, _, ⟨value, tail⟩, hu, same⟩ := found
    obtain ⟨_, rfl⟩ : _ ∧ tail = after := by simpa using same
    have whole := congrArg List.length (Text.wordAppend s)
    have inner := congrArg List.length (untilAppend hu)
    simp only [read, List.length_append, List.length_cons] at whole inner
    omega
  · contradiction

theorem attributeEnclosed {name value : List Char} (quoting : Quoting) (filled : name ≠ [])
    (all : ∀ c ∈ name, isWord c = true) (free : quoting.closer ∉ value) (rest : List Char) :
    attribute? (enclose name [quoting.opener] value [quoting.closer] ++ rest) =
      some ((String.ofList name, String.ofList value), rest) := by
  obtain ⟨first, name, rfl⟩ := List.exists_cons_of_ne_nil filled
  have stop : ∀ c ∈ ('=' :: quoting.opener :: (value ++ quoting.closer :: rest)).head?, isWord c = false := by
    rintro c hc
    cases Option.some.inj hc
    decide
  have text : enclose (first :: name) [quoting.opener] value [quoting.closer] ++ rest =
      first :: name ++ '=' :: quoting.opener :: (value ++ quoting.closer :: rest) := by simp [enclose]
  rw [text, attribute?, wordSplit all stop]
  simp [quoting.pair, untilChar free]

theorem sweepSpelling {s : Spelling} (valid : s.Valid) (rest : List Char) :
    (sweep attribute? (s.text ++ rest)).items = s.pair :: (sweep attribute? rest).items := by
  obtain ⟨⟨_, blank⟩, ⟨filled, all⟩, free⟩ := valid
  have gap : ∀ c t, (c :: t) <:+ s.gap →
      attribute? (c :: (t ++ (enclose s.name [s.quoting.opener] s.value [s.quoting.closer] ++ rest))) = none :=
    fun c t here => attributeNone (blankNoWord (blank c (here.subset List.mem_cons_self)))
  rw [Spelling.text, List.append_assoc, sweepInert gap,
    sweepPiece attributeShortens (attributeEnclosed s.quoting filled all free rest)]
  rfl

theorem sweepSpellings {spellings : List Spelling} (valid : ∀ s ∈ spellings, s.Valid) (rest : List Char) :
    (sweep attribute? (spellings.flatMap Spelling.text ++ rest)).items =
      spellings.map Spelling.pair ++ (sweep attribute? rest).items := by
  induction spellings with
  | nil => rfl
  | cons s spellings ih =>
      have tail := ih fun t ht => valid t (List.mem_cons_of_mem _ ht)
      rw [List.flatMap_cons, List.append_assoc, sweepSpelling (valid s List.mem_cons_self), tail]
      rfl

theorem passesSpelling {s : Spelling} (valid : s.Valid) : Passes s.text := by
  obtain ⟨⟨_, blank⟩, ⟨_, all⟩, free⟩ := valid
  have name : Passes (s.name ++ ['=']) :=
    passesAppend (passesKind (by decide) all) (passesPlain (by decide) rfl)
  have value := passesEnclosed s.quoting.pair free
  have whole := passesAppend (passesKind (by decide) blank) (passesAppend name value)
  simpa [Spelling.text, enclose] using whole

theorem passesSpellings {spellings : List Spelling} (valid : ∀ s ∈ spellings, s.Valid) :
    Passes (spellings.flatMap Spelling.text) := by
  induction spellings with
  | nil => exact passesNil
  | cons s spellings ih =>
      exact passesAppend (passesSpelling (valid s List.mem_cons_self))
        (ih fun t ht => valid t (List.mem_cons_of_mem _ ht))

def lastValues (pairs : List (String × String)) : Attributes :=
  (pairs.map Prod.fst).eraseDups.map fun name => (name, (pairs.reverse.lookup name).getD "")

theorem eraseDupsSnoc (names : List String) (name : String) :
    (names ++ [name]).eraseDups = if name ∈ names then names.eraseDups else names.eraseDups ++ [name] := by
  rw [List.eraseDups_append]
  split <;> simp [List.removeAll, List.eraseDups_cons, *]

theorem eraseDupsDistinct (names : List String) : names.eraseDups.Nodup := by
  induction names using List.reverseRecOn with
  | nil => simp
  | append_singleton names name ih =>
      rw [eraseDupsSnoc]
      split
      · exact ih
      · rename_i fresh
        have apart : ∀ other ∈ names, other ≠ name := by
          rintro other h rfl
          exact fresh h
        simpa [List.nodup_append] using ⟨ih, apart⟩

theorem putFresh {attributes : Attributes} {name : String} (fresh : name ∉ attributes.map Prod.fst) (value : String) :
    attributes.put name value = attributes ++ [(name, value)] := by
  induction attributes with
  | nil => rfl
  | cons pair rest ih =>
      simp only [List.map_cons, List.mem_cons, not_or] at fresh
      simp [Attributes.put, Ne.symm fresh.1, ih fresh.2]

theorem putKnown {names : List String} {name : String} (f : String → String) (distinct : names.Nodup)
    (known : name ∈ names) (value : String) :
    Attributes.put (names.map fun n => (n, f n)) name value =
      names.map fun n => (n, if n = name then value else f n) := by
  induction names with
  | nil => simp at known
  | cons other names ih =>
      obtain ⟨apart, distinct⟩ := List.nodup_cons.mp distinct
      by_cases same : other = name
      · subst same
        have rest : ∀ n ∈ names, (n, f n) = (n, if n = other then value else f n) := by
          intro n hn
          rw [if_neg fun h : n = other => apart (h ▸ hn)]
        simpa [Attributes.put] using rest
      · have tail := (List.mem_cons.mp known).resolve_left (Ne.symm same)
        simp [Attributes.put, same, ih distinct tail]

theorem lookupCons {α : Type} (name key : String) (value : α) (rest : List (String × α)) :
    ((name, value) :: rest).lookup key = if key = name then some value else rest.lookup key := by
  by_cases same : key = name
  · simp [same]
  · simp [List.lookup_cons, beq_false_of_ne same, same]

theorem lookupSnoc (pairs : List (String × String)) (name value n : String) :
    (pairs ++ [(name, value)]).reverse.lookup n = if n = name then some value else pairs.reverse.lookup n := by
  rw [List.reverse_append]
  exact lookupCons name n value pairs.reverse

theorem ofPairsSnoc (pairs : List (String × String)) (name value : String) :
    Attributes.ofPairs (pairs ++ [(name, value)]) = (Attributes.ofPairs pairs).put name value := by
  simp [Attributes.ofPairs]

theorem ofPairsLastValues (pairs : List (String × String)) : Attributes.ofPairs pairs = lastValues pairs := by
  induction pairs using List.reverseRecOn with
  | nil => rfl
  | append_singleton pairs pair ih =>
      obtain ⟨name, value⟩ := pair
      have names : (lastValues pairs).map Prod.fst = (pairs.map Prod.fst).eraseDups := by
        simp [lastValues, Function.comp_def]
      have grown : lastValues (pairs ++ [(name, value)]) =
          (if name ∈ pairs.map Prod.fst then (pairs.map Prod.fst).eraseDups
            else (pairs.map Prod.fst).eraseDups ++ [name]).map
            fun n => (n, (if n = name then some value else pairs.reverse.lookup n).getD "") := by
        simp only [lastValues, List.map_append, List.map_singleton, eraseDupsSnoc, lookupSnoc]
      rw [ofPairsSnoc, ih, grown]
      split
      · rename_i known
        rw [lastValues, putKnown _ (eraseDupsDistinct _) (List.mem_eraseDups.mpr known)]
        refine List.map_congr_left fun n _ => ?_
        by_cases same : n = name <;> simp [same]
      · rename_i fresh
        rw [putFresh (fun h => fresh (List.mem_eraseDups.mp (names ▸ h))), List.map_append]
        congr 1
        · refine List.map_congr_left fun n hn => ?_
          have apart : n ≠ name := fun same => fresh (same ▸ List.mem_eraseDups.mp hn)
          rw [if_neg apart]
        · simp

theorem lastValuesDistinct {pairs : List (String × String)} (distinct : (pairs.map Prod.fst).Nodup) :
    lastValues pairs = pairs := by
  rw [← ofPairsLastValues]
  induction pairs using List.reverseRecOn with
  | nil => rfl
  | append_singleton pairs pair ih =>
      rw [List.map_append, List.nodup_append] at distinct
      obtain ⟨front, _, apart⟩ := distinct
      have fresh : pair.1 ∉ pairs.map Prod.fst := fun h => apart _ h _ (by simp) rfl
      rw [ofPairsSnoc, ih front, putFresh fresh]

theorem attributesSpellings {spellings : List Spelling} (valid : ∀ s ∈ spellings, s.Valid) {gap : List Char}
    (blank : ∀ c ∈ gap, isBlank c = true) :
    attributes (spellings.flatMap Spelling.text ++ gap) = lastValues (spellings.map Spelling.pair) := by
  have tail : (sweep attribute? (gap ++ [])).items = [] := by
    rw [sweepInert fun c t here => attributeNone (blankNoWord (blank c (here.subset List.mem_cons_self))), sweepNil]
  rw [List.append_nil] at tail
  rw [attributes, sweepSpellings valid, tail, List.append_nil, ofPairsLastValues]

def Quotable (value : List Char) : Prop := ¬ ('"' ∈ value ∧ '\'' ∈ value ∧ '\x7d' ∈ value)
instance (value) : Decidable (Quotable value) := by unfold Quotable; infer_instance

def Quoting.of (value : List Char) : Quoting :=
  if '"' ∉ value then .double else if '\'' ∉ value then .single else .braces

theorem quotingFree {value : List Char} (quotable : Quotable value) : (Quoting.of value).closer ∉ value := by
  unfold Quoting.of
  split
  · assumption
  · split
    · assumption
    · intro h
      exact quotable ⟨by simp_all, by simp_all, h⟩

theorem writeQuotable {name value : String} (quotable : Quotable value.toList) : writeAttribute name value =
    enclose name.toList [(Quoting.of value.toList).opener] value.toList [(Quoting.of value.toList).closer] := by
  by_cases double : '"' ∈ value.toList
  · by_cases single : '\'' ∈ value.toList
    · have brace : '\x7d' ∉ value.toList := fun h => quotable ⟨double, single, h⟩
      simp [writeAttribute, Quoting.of, double, single, brace, Quoting.opener, Quoting.closer]
    · simp [writeAttribute, Quoting.of, double, single, Quoting.opener, Quoting.closer]
  · simp [writeAttribute, Quoting.of, double, Quoting.opener, Quoting.closer]

def legible (value : String) : String :=
  if Quotable value.toList then value else String.ofList (withoutDoubleQuotes value.toList)

theorem noDoubleQuotes (value : List Char) : '"' ∉ withoutDoubleQuotes value := by
  simp only [withoutDoubleQuotes, List.mem_flatMap, not_exists, not_and]
  intro c _
  split
  · decide
  · rename_i other
    simpa using Ne.symm other

theorem legibleQuotable (value : String) : Quotable (legible value).toList := by
  unfold legible
  split
  · assumption
  · rw [String.toList_ofList]
    exact fun all => noDoubleQuotes value.toList all.1

theorem entityFilled {value : List Char} (filled : value ≠ []) : withoutDoubleQuotes value ≠ [] := by
  obtain ⟨c, rest, rfl⟩ := List.exists_cons_of_ne_nil filled
  rw [withoutDoubleQuotes, List.flatMap_cons]
  refine List.append_ne_nil_of_left_ne_nil ?_ _
  split
  · decide
  · exact List.cons_ne_nil c []

theorem legibleFilled {value : String} (filled : value ≠ "") : legible value ≠ "" := by
  unfold legible
  split
  · exact filled
  · have some : value.toList ≠ [] := fun none => filled (String.toList_eq_nil_iff.mp none)
    intro none
    rw [← String.toList_eq_nil_iff, String.toList_ofList] at none
    exact entityFilled some none

theorem legibleSame {value : String} (quotable : Quotable value.toList) : legible value = value := if_pos quotable

/- The fourth form is the first form of another value. -/
theorem writeLegible (name value : String) : writeAttribute name (legible value) = writeAttribute name value := by
  by_cases quotable : Quotable value.toList
  · rw [legibleSame quotable]
  · have whole := not_not.mp quotable
    rw [legible, if_neg quotable]
    simp [writeAttribute, noDoubleQuotes, whole]

theorem writePairsLegible (pairs : Attributes) :
    writeAttributes (pairs.map fun (name, value) => (name, legible value)) = writeAttributes pairs := by
  rw [writeAttributes, writeAttributes, List.map_map]
  exact congrArg _ (List.map_congr_left fun pair _ => writeLegible pair.1 pair.2)

end EmailMarkup.Markup
