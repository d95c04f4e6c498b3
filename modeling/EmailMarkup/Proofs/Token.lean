import EmailMarkup.Markup.Place
import EmailMarkup.Proofs.Document

/-! Documents as tokens: words, opening tags, self-closing tags and closing tags, none with a less-than sign inside.
Every token but words starts with the only less-than sign it has, so whatever is looked for at such signs is found
token by token. -/
namespace EmailMarkup.Markup
open Text (word isWord isBlank wordSplit outsideAll)

def Tag.Clear (tag : Tag) : Prop := tag.Valid ∧ ∀ s ∈ tag.spellings, '<' ∉ s.value
instance (tag) : Decidable (Tag.Clear tag) := by unfold Tag.Clear; infer_instance

inductive Token where
  | words (s : List Char)
  | opening (tag : Tag)
  | single (tag : Tag)
  | closing (name : List Char)
  deriving DecidableEq, Repr

namespace Token

def text : Token → List Char
  | .words s => s
  | .opening tag => '<' :: (tag.name ++ (tag.span ++ ['>']))
  | .single tag => (Node.single tag).text
  | .closing name => closingTag name

def Valid : Token → Prop
  | .words s => '<' ∉ s
  | .opening tag => tag.Clear
  | .single tag => tag.Clear
  | .closing name => name ≠ [] ∧ ∀ c ∈ name, isWord c = true
instance (token) : Decidable (Valid token) := by cases token <;> unfold Valid <;> infer_instance

def stays : Token → Bool
  | .single _ => false
  | _ => true

def opened? : Token → Option (List Char)
  | .opening tag => some tag.name
  | _ => none

def closed? : Token → Option (List Char)
  | .closing name => some name
  | _ => none

def named? : Token → Option (List Char)
  | .opening tag => some tag.name
  | .single tag => some tag.name
  | _ => none

end Token

def tokensText (tokens : List Token) : List Char := tokens.flatMap Token.text

theorem tokensTextCons (token : Token) (tokens : List Token) :
    tokensText (token :: tokens) = token.text ++ tokensText tokens := List.flatMap_cons

theorem clearName {name : List Char} (all : ∀ c ∈ name, isWord c = true) : '<' ∉ name := outsideAll all (by decide)

theorem clearSpan {tag : Tag} (clear : tag.Clear) : '<' ∉ tag.span := by
  have blank : isBlank '<' = false := by decide
  refine spanWithout clear.1 (by decide) (outsideAll clear.1.2.2 blank) fun s hs => ?_
  exact ⟨outsideAll (clear.1.2.1 s hs).1.2 blank, clear.2 s hs⟩

/- A token is words, or it has a single less-than sign, in front. -/
theorem tokenSign {token : Token} (valid : token.Valid) :
    (∃ s, token = .words s ∧ '<' ∉ s) ∨ ∃ inside, token.text = '<' :: inside ∧ '<' ∉ inside := by
  cases token with
  | words s => exact .inl ⟨s, rfl, valid⟩
  | opening tag =>
      have name := clearName valid.1.1.2
      exact .inr ⟨_, rfl, by simp [name, clearSpan valid]⟩
  | single tag =>
      have name := clearName valid.1.1.2
      exact .inr ⟨_, rfl, by simp [name, clearSpan valid]⟩
  | closing name => exact .inr ⟨_, rfl, by simp [clearName valid.2]⟩

variable {α : Type} {test : List Char → Option α}

theorem placesClear (start : ∀ c rest, c ≠ '<' → test (c :: rest) = none) {s : List Char} (clear : '<' ∉ s)
    (rest : List Char) : places test (s ++ rest) = places test rest := by
  induction s with
  | nil => rfl
  | cons c s ih =>
      simp only [List.mem_cons, not_or] at clear
      rw [List.cons_append, places, start c _ (Ne.symm clear.1), ih clear.2]
      rfl

theorem placesTokens (start : ∀ c rest, c ≠ '<' → test (c :: rest) = none) {found : Token → Option α}
    (words : ∀ s, found (.words s) = none) {tokens : List Token} (valid : ∀ token ∈ tokens, token.Valid)
    (here : ∀ token ∈ tokens, '<' ∈ token.text → ∀ rest, test (token.text ++ rest) = found token) :
    places test (tokensText tokens) = tokens.filterMap found := by
  induction tokens with
  | nil => rfl
  | cons token tokens ih =>
      have tail := ih (fun t h => valid t (List.mem_cons_of_mem _ h)) fun t h => here t (List.mem_cons_of_mem _ h)
      rw [tokensTextCons]
      rcases tokenSign (valid token List.mem_cons_self) with ⟨s, rfl, clear⟩ | ⟨inside, text, clear⟩
      · rw [Token.text, placesClear start clear, tail, List.filterMap_cons_none (words s)]
      · have first := here token List.mem_cons_self (by simp [text]) (tokensText tokens)
        rw [text, List.cons_append] at first
        rw [text, List.cons_append, places, first, placesClear start clear, tail]
        cases h : found token <;> simp [h]

theorem placesMap {β : Type} (f : α → β) (s : List Char) :
    (places test s).map f = places (fun t => (test t).map f) s := by
  induction s with
  | nil => rfl
  | cons c s ih =>
      rw [places, List.map_append, ih, places]
      cases test (c :: s) <;> rfl

theorem openingElsewhere (atEnd : Bool) (c : Char) (rest : List Char) (other : c ≠ '<') :
    opening? atEnd (c :: rest) = none := by
  unfold opening?
  split <;> simp_all

theorem closingElsewhere (c : Char) (rest : List Char) (other : c ≠ '<') : closing? (c :: rest) = none := by
  unfold closing?
  split <;> simp_all

theorem namedElsewhere (c : Char) (rest : List Char) (other : c ≠ '<') : named? (c :: rest) = none := by
  unfold named?
  split <;> simp_all

theorem wordTag {tag : Tag} (valid : tag.Valid) {rest : List Char} (stop : ∀ c ∈ rest.head?, isWord c = false) :
    word (tag.name ++ (tag.span ++ rest)) = (tag.name, tag.span ++ rest) := by
  refine wordSplit valid.1.2 ?_
  cases h : tag.span with
  | nil => exact stop
  | cons d span =>
      have head := tagSpanHead valid
      rw [h] at head
      exact head

theorem wordSlash (rest : List Char) : word ('/' :: rest) = ([], '/' :: rest) := by
  have none : ∀ c ∈ ([] : List Char), isWord c = true := by simp
  exact wordSplit none (by simp; decide)

theorem openingNamed {atEnd : Bool} {name s : List Char} (filled : name ≠ []) (all : ∀ c ∈ name, isWord c = true)
    (stop : ∀ c ∈ s.head?, isBlank c = true ∨ c = '>') (ends : s ≠ [] ∨ atEnd = true) :
    opening? atEnd ('<' :: (name ++ s)) = some name := by
  have read : word (name ++ s) = (name, s) := by
    refine wordSplit all fun c h => ?_
    rcases stop c h with blank | rfl
    · exact Text.blankNoWord blank
    · decide
  obtain ⟨first, rest, rfl⟩ := List.exists_cons_of_ne_nil filled
  rw [opening?, read]
  cases s with
  | nil => simpa using ends
  | cons c s => rcases stop c rfl with blank | rfl <;> simp [*]

theorem openingTag (atEnd : Bool) {tag : Tag} (valid : tag.Valid) (rest : List Char) :
    opening? atEnd ('<' :: (tag.name ++ (tag.span ++ '>' :: rest))) = some tag.name := by
  refine openingNamed valid.1.1 valid.1.2 ?_ (.inl (by simp))
  cases h : tag.span with
  | nil => simp
  | cons c span =>
      have blank := tagSpanBlank valid c (by rw [h]; rfl)
      simp [blank]

theorem closingTagged {tag : Tag} (valid : tag.Valid) (rest : List Char) :
    closing? ('<' :: (tag.name ++ rest)) = none := by
  obtain ⟨first, name, filled⟩ := List.exists_cons_of_ne_nil valid.1.1
  have slash : first ≠ '/' := by
    rintro rfl
    exact absurd (valid.1.2 '/' (by simp [filled])) (by decide)
  rw [filled, List.cons_append]
  unfold closing?
  split <;> simp_all

theorem namedTagged {tag : Tag} (valid : tag.Valid) {rest : List Char} (stop : ∀ c ∈ rest.head?, isWord c = false) :
    named? ('<' :: (tag.name ++ (tag.span ++ rest))) = some tag.name := by
  simp [named?, wordTag valid stop, valid.1.1]

theorem openingToken (atEnd : Bool) {token : Token} (valid : token.Valid) (stays : token.stays = true)
    (sign : '<' ∈ token.text) (rest : List Char) : opening? atEnd (token.text ++ rest) = token.opened? := by
  cases token with
  | words s => exact absurd sign valid
  | single tag => contradiction
  | opening tag =>
      rw [Token.opened?, ← openingTag atEnd valid.1 rest]
      simp [Token.text]
  | closing name => simp [Token.text, closingTag, opening?, wordSlash, Token.opened?]

theorem closingToken {token : Token} (valid : token.Valid) (sign : '<' ∈ token.text) (rest : List Char) :
    (closing? (token.text ++ rest)).map (·.1) = token.closed? := by
  cases token with
  | words s => exact absurd sign valid
  | opening tag =>
      rw [Token.text, List.cons_append, List.append_assoc, closingTagged valid.1]
      rfl
  | single tag =>
      rw [Token.text, Node.text, List.cons_append, List.append_assoc, closingTagged valid.1]
      rfl
  | closing name =>
      have read : word (name ++ '>' :: rest) = (name, '>' :: rest) := wordSplit valid.2 (by simp; decide)
      simp [Token.text, closingTag, closing?, read, valid.1, Token.closed?]

theorem namedToken {token : Token} (valid : token.Valid) (sign : '<' ∈ token.text) (rest : List Char) :
    named? (token.text ++ rest) = token.named? := by
  cases token with
  | words s => exact absurd sign valid
  | opening tag =>
      have read : named? ('<' :: (tag.name ++ (tag.span ++ '>' :: rest))) = some tag.name :=
        namedTagged valid.1 (by simp; decide)
      simpa [Token.text, Token.named?] using read
  | single tag =>
      have read : named? ('<' :: (tag.name ++ (tag.span ++ '/' :: '>' :: rest))) = some tag.name :=
        namedTagged valid.1 (by simp; decide)
      simpa [Token.text, Node.text, Token.named?] using read
  | closing name => simp [Token.text, closingTag, named?, wordSlash, Token.named?]

theorem selfClosingToken {token : Token} (valid : token.Valid) (stays : token.stays = true) (sign : '<' ∈ token.text)
    (rest : List Char) : selfClosing? (token.text ++ rest) = none := by
  cases token with
  | words s => exact absurd sign valid
  | single tag => contradiction
  | opening tag =>
      have read := selfClosingOpen valid.1 rest
      simpa [Token.text] using read
  | closing name =>
      refine selfClosingNone (headNone fun _ => ?_)
      simp
      decide

theorem residueTokens {tokens : List Token} (valid : ∀ token ∈ tokens, token.Valid) :
    (selfClosing (tokensText tokens)).residue = tokensText (tokens.filter Token.stays) := by
  induction tokens with
  | nil => rfl
  | cons token tokens ih =>
      have here := valid token List.mem_cons_self
      have tail := ih fun t h => valid t (List.mem_cons_of_mem _ h)
      rw [tokensTextCons]
      cases stays : token.stays with
      | false =>
          rw [List.filter_cons_of_neg (by simp [stays]), ← tail]
          cases token with
          | single tag =>
              rw [Token.text, selfClosing, sweepPiece selfClosingShortens (selfClosingSingle here.1 _)]
              rfl
          | _ => contradiction
      | true =>
          rw [List.filter_cons_of_pos stays, tokensTextCons, ← tail]
          rcases tokenSign here with ⟨s, rfl, clear⟩ | ⟨inside, text, clear⟩
          · rw [Token.text, selfClosingQuiet (apartWithout clear) (notLastWithout clear)]
          · have start := selfClosingToken here stays (by simp [text]) (tokensText tokens)
            rw [text, List.cons_append] at start
            rw [text, List.cons_append, selfClosing, sweepChar start, ← selfClosing,
              selfClosingQuiet (apartWithout clear) (notLastWithout clear)]
            rfl

/-! Nodes without less-than signs in their values and contents, as tokens. -/

namespace Node

def Clear : Node → Prop
  | .filler s => '<' ∉ s
  | .single tag => tag.Clear
  | .pair tag content => tag.Clear ∧ '<' ∉ content
instance (node) : Decidable (Clear node) :=
  match node with
  | .filler s => inferInstanceAs (Decidable ('<' ∉ s))
  | .single tag => inferInstanceAs (Decidable tag.Clear)
  | .pair tag content => inferInstanceAs (Decidable (tag.Clear ∧ '<' ∉ content))

def tokens : Node → List Token
  | .filler s => [.words s]
  | .single tag => [.single tag]
  | .pair tag content => [.opening tag, .words content, .closing tag.name]

def name? : Node → Option (List Char)
  | .filler _ => none
  | .single tag => some tag.name
  | .pair tag _ => some tag.name

theorem tokensValid {node : Node} (clear : node.Clear) : ∀ token ∈ node.tokens, token.Valid := by
  cases node with
  | filler s => simpa [tokens, Token.Valid, Clear] using clear
  | single tag => simpa [tokens, Token.Valid, Clear] using clear
  | pair tag content => simpa [tokens, Token.Valid] using ⟨clear.1, clear.2, clear.1.1.1⟩

theorem textTokens (node : Node) : tokensText node.tokens = node.text := by
  cases node <;> simp [tokens, tokensText, Token.text, Node.text]

end Node

theorem documentTokens (nodes : List Node) : tokensText (nodes.flatMap Node.tokens) = documentText nodes := by
  rw [tokensText, List.flatMap_assoc, documentText]
  exact List.flatMap_congr fun node _ => node.textTokens

end EmailMarkup.Markup
