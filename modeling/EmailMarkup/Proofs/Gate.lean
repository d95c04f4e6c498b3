import EmailMarkup.Gate
import EmailMarkup.Proofs.Token

/-! The gate on documents of tokens. It counts as many opening tags as there are and as many closing tags, and it names
the tags it does not know. -/
namespace EmailMarkup.Gate
open Markup (Node Token tokensText documentText documentTokens placesTokens placesMap places closing? residueTokens)

variable {tokens : List Token}

theorem openCountTokens (valid : ∀ token ∈ tokens, token.Valid) :
    openCount (tokensText tokens) = (tokens.filterMap Token.opened?).length := by
  have left : ∀ token ∈ tokens.filter Token.stays, token.Valid := fun token h => valid token (List.mem_filter.mp h).1
  have found := placesTokens (Markup.openingElsewhere false) (fun _ => rfl) left fun token h sign rest =>
    Markup.openingToken false (left token h) (List.mem_filter.mp h).2 sign rest
  have same : (tokens.filter Token.stays).filterMap Token.opened? = tokens.filterMap Token.opened? := by
    rw [List.filterMap_filter]
    refine List.filterMap_congr fun token _ => ?_
    cases token <;> rfl
  rw [openCount, residueTokens valid, found, same]

theorem closeCountTokens (valid : ∀ token ∈ tokens, token.Valid) :
    closeCount (tokensText tokens) = (tokens.filterMap Token.closed?).length := by
  have start : ∀ c rest, c ≠ '<' → (closing? (c :: rest)).map (·.1) = none := by
    intro c rest other
    rw [Markup.closingElsewhere c rest other]
    rfl
  have found : places (fun s => (closing? s).map (·.1)) (tokensText tokens) = tokens.filterMap Token.closed? :=
    placesTokens start (fun _ => rfl) valid fun token h sign rest => Markup.closingToken (valid token h) sign rest
  rw [closeCount, ← found, ← placesMap, List.length_map]

theorem namesTokens (valid : ∀ token ∈ tokens, token.Valid) :
    places Markup.named? (tokensText tokens) = tokens.filterMap Token.named? :=
  placesTokens Markup.namedElsewhere (fun _ => rfl) valid fun token h sign rest =>
    Markup.namedToken (valid token h) sign rest

theorem balancedNodes (nodes : List Node) :
    (nodes.flatMap Node.tokens).filterMap Token.opened? = (nodes.flatMap Node.tokens).filterMap Token.closed? := by
  rw [List.filterMap_flatMap, List.filterMap_flatMap]
  refine List.flatMap_congr fun node _ => ?_
  cases node <;> rfl

theorem namesNodes (nodes : List Node) :
    (nodes.flatMap Node.tokens).filterMap Token.named? = nodes.filterMap Node.name? := by
  induction nodes with
  | nil => rfl
  | cons node nodes ih =>
      rw [List.flatMap_cons, List.filterMap_append, ih]
      cases node <;> rfl

theorem distinctNames (seen names : List String) : distinct seen names = (names.filter (· ∉ seen)).eraseDups := by
  induction names generalizing seen with
  | nil => rfl
  | cons name rest ih =>
      by_cases known : name ∈ seen
      · simp [distinct, known, ih]
      · have others : rest.filter (· ∉ name :: seen) = (rest.filter (· ∉ seen)).filter (!· == name) := by
          rw [List.filter_filter]
          refine List.filter_congr fun other _ => ?_
          simp [not_or, beq_eq_decide]
        rw [distinct, if_neg known, ih, others, List.filter_cons_of_pos (by simpa using known), List.eraseDups_cons]

def strangers (names : List String) : List String := (names.filter (· ∉ Kind.tags.map Prod.fst)).eraseDups

theorem strangersNone {names : List String} : strangers names = [] ↔ ∀ name ∈ names, name ∈ Kind.tags.map Prod.fst := by
  have empty : ∀ names : List String, names.eraseDups = [] ↔ names = [] := by
    rintro (_ | ⟨name, names⟩) <;> simp [List.eraseDups_cons]
  simp [strangers, empty, List.filter_eq_nil_iff]

theorem faultsNamed (source : String) :
    faults source =
      (if openCount source.toList = closeCount source.toList then [] else [.unbalanced]) ++
        (strangers ((places Markup.named? source.toList).map String.ofList)).map .unknownTag := by
  have known : ∀ name : String, (Kind.ofTag? name).isNone = decide (name ∉ Kind.tags.map Prod.fst) := by
    intro name
    rw [Bool.eq_iff_iff, Option.isNone_iff_eq_none, Kind.ofTag?, List.lookup_eq_none_iff, decide_eq_true_eq]
    simp only [List.mem_map, not_exists, not_and, bne_iff_ne]
    exact forall₂_congr fun pair _ => ne_comm
  rw [faults, unknownTags, distinctNames]
  simp [strangers, known]

theorem faultsTokens (valid : ∀ token ∈ tokens, token.Valid) :
    faults (String.ofList (tokensText tokens)) =
      (if (tokens.filterMap Token.opened?).length = (tokens.filterMap Token.closed?).length then [] else [.unbalanced]) ++
        (strangers ((tokens.filterMap Token.named?).map String.ofList)).map .unknownTag := by
  rw [faultsNamed, String.toList_ofList, openCountTokens valid, closeCountTokens valid, namesTokens valid]

theorem faultsDocument {nodes : List Node} (clear : ∀ node ∈ nodes, node.Clear) :
    faults (String.ofList (documentText nodes)) =
      (strangers ((nodes.filterMap Node.name?).map String.ofList)).map .unknownTag := by
  have valid : ∀ token ∈ nodes.flatMap Node.tokens, token.Valid := by
    intro token h
    obtain ⟨node, member, inside⟩ := List.mem_flatMap.mp h
    exact Node.tokensValid (clear node member) token inside
  rw [← documentTokens, faultsTokens valid, balancedNodes, if_pos rfl, List.nil_append, namesNodes]

theorem admitsDocument {nodes : List Node} (clear : ∀ node ∈ nodes, node.Clear) :
    admits (String.ofList (documentText nodes)) = true ↔
      ∀ name ∈ (nodes.filterMap Node.name?).map String.ofList, name ∈ Kind.tags.map Prod.fst := by
  rw [admits, faultsDocument clear, List.isEmpty_iff, List.map_eq_nil_iff, strangersNone]

end EmailMarkup.Gate
