import EmailMarkup.Proofs.Editing

/-! What the gate makes of element documents. A whole document is at fault only for the tags that are no component's,
and each of them is named once. Every closing tag that is taken out leaves one opening tag too many, so a document
without some of them is unbalanced first of all. -/
namespace EmailMarkup
open Gate (strangers faultsTokens faultsDocument admitsDocument)

namespace Markup

def Node.textLess : Node → Bool → List Char
  | .pair tag content, true => '<' :: (tag.name ++ (tag.span ++ '>' :: content))
  | node, _ => node.text

def documentLess (marked : List (Node × Bool)) : List Char := marked.flatMap fun (node, lost) => node.textLess lost

def Node.tokensLess (node : Node) (lost : Bool) : List Token :=
  if lost then node.tokens.filter (·.closed?.isNone) else node.tokens

def Node.loses : Node → Bool → Bool
  | .pair _ _, lost => lost
  | _, _ => false

theorem Node.textTokensLess (node : Node) (lost : Bool) : tokensText (node.tokensLess lost) = node.textLess lost := by
  cases lost with
  | false =>
      have text : node.textLess false = node.text := by cases node <;> rfl
      exact (textTokens node).trans text.symm
  | true => cases node <;> simp [tokensLess, tokens, textLess, tokensText, Token.text, Token.closed?, Node.text]

theorem Node.tokensLessValid {node : Node} (clear : node.Clear) (lost : Bool) :
    ∀ token ∈ node.tokensLess lost, token.Valid := by
  intro token h
  unfold tokensLess at h
  split at h
  · exact tokensValid clear token (List.mem_filter.mp h).1
  · exact tokensValid clear token h

theorem Node.openedLess (node : Node) (lost : Bool) :
    ((node.tokensLess lost).filterMap Token.opened?).length =
      ((node.tokensLess lost).filterMap Token.closed?).length + if node.loses lost then 1 else 0 := by
  cases node <;> cases lost <;> rfl

theorem Node.namesLess (node : Node) (lost : Bool) :
    (node.tokensLess lost).filterMap Token.named? = node.name?.toList := by
  cases node <;> cases lost <;> rfl

def tokensLess (marked : List (Node × Bool)) : List Token := marked.flatMap fun (node, lost) => node.tokensLess lost

theorem documentLessTokens (marked : List (Node × Bool)) : tokensText (tokensLess marked) = documentLess marked := by
  rw [tokensText, tokensLess, List.flatMap_assoc, documentLess]
  exact List.flatMap_congr fun pair _ => pair.1.textTokensLess pair.2

theorem openedLess (marked : List (Node × Bool)) :
    ((tokensLess marked).filterMap Token.opened?).length =
      ((tokensLess marked).filterMap Token.closed?).length + (marked.filter fun (node, lost) => node.loses lost).length := by
  induction marked with
  | nil => rfl
  | cons pair rest ih =>
      have here := pair.1.openedLess pair.2
      have parts : tokensLess (pair :: rest) = pair.1.tokensLess pair.2 ++ tokensLess rest := List.flatMap_cons
      rw [parts, List.filterMap_append, List.filterMap_append, List.length_append, List.length_append, ih, here,
        List.filter_cons]
      split <;> simp [*] <;> omega

theorem namesLess (marked : List (Node × Bool)) :
    (tokensLess marked).filterMap Token.named? = (marked.map Prod.fst).filterMap Node.name? := by
  induction marked with
  | nil => rfl
  | cons pair rest ih =>
      have parts : tokensLess (pair :: rest) = pair.1.tokensLess pair.2 ++ tokensLess rest := List.flatMap_cons
      rw [parts, List.filterMap_append, ih, pair.1.namesLess, List.map_cons, List.filterMap_cons]
      cases pair.1.name? <;> rfl

end Markup

open Markup (Node documentText documentLess tokensLess)

def Markup.tagNames (nodes : List Node) : List String := (nodes.filterMap Node.name?).map String.ofList

def Gate.complaint (name : String) : String :=
  "Unknown component: " ++ name ++ ". Valid components: Heading, Text, Button, Img, Image, Hr, Divider"

theorem Gate.complaints (names : List String) : (names.map Fault.unknownTag).map Fault.message = names.map complaint := by
  have listed : ". Valid components: " ++ ", ".intercalate (Kind.tags.map (·.1)) =
      ". Valid components: Heading, Text, Button, Img, Image, Hr, Divider" := by decide +kernel
  rw [List.map_map]
  refine List.map_congr_left fun name _ => ?_
  exact String.append_assoc.trans (congrArg ("Unknown component: " ++ name ++ ·) listed)

theorem Gate.faultsLess {marked : List (Node × Bool)} (clear : ∀ pair ∈ marked, pair.1.Clear)
    (some : ∃ pair ∈ marked, pair.1.loses pair.2 = true) :
    faults (String.ofList (documentLess marked)) =
      .unbalanced :: (strangers (Markup.tagNames (marked.map Prod.fst))).map .unknownTag := by
  have valid : ∀ token ∈ tokensLess marked, token.Valid := by
    intro token h
    obtain ⟨pair, member, inside⟩ := List.mem_flatMap.mp h
    exact Node.tokensLessValid (clear pair member) pair.2 token inside
  have lost : 0 < (marked.filter fun (node, lost) => node.loses lost).length := by
    obtain ⟨pair, member, loses⟩ := some
    exact List.length_pos_of_mem (List.mem_filter.mpr ⟨member, loses⟩)
  have more := Markup.openedLess marked
  rw [← Markup.documentLessTokens, faultsTokens valid, if_neg (by omega), Markup.namesLess]
  rfl

theorem judgesDocuments :
    (∀ nodes : List Node, (∀ node ∈ nodes, node.Clear) →
      (Gate.faults (String.ofList (documentText nodes))).map Fault.message =
        (((Markup.tagNames nodes).filter (· ∉ Kind.tags.map Prod.fst)).eraseDups).map Gate.complaint ∧
      (Gate.admits (String.ofList (documentText nodes)) = true ↔
        ∀ name ∈ Markup.tagNames nodes, name ∈ Kind.tags.map Prod.fst)) ∧
    (∀ marked : List (Node × Bool), (∀ pair ∈ marked, pair.1.Clear) →
      (∃ tag content, (Node.pair tag content, true) ∈ marked) →
      ((Gate.faults (String.ofList (documentLess marked))).map Fault.message).head? = some "Unbalanced tags detected") ∧
    ∀ email : Email, (∀ props ∈ email.contents, props.Spellable) →
      (∀ props ∈ email.contents, ∀ field ∈ props.fields, '<' ∉ field.2.toList) →
      Gate.admits email.write = true := by
  refine ⟨fun nodes clear => ⟨?_, admitsDocument clear⟩, fun marked clear lost => ?_, fun email => writtenAdmitted⟩
  · rw [faultsDocument clear, Gate.complaints]
    rfl
  · obtain ⟨tag, content, member⟩ := lost
    rw [Gate.faultsLess clear ⟨_, member, rfl⟩]
    rfl

def strangeNodes : List Node :=
  [.pair ⟨"Section".toList, [⟨[' '], "a".toList, .single, "\">".toList⟩], []⟩ "x 'y".toList,
    .filler "\n\" > ".toList,
    .single ⟨"Foo".toList, [⟨['\n'], "b".toList, .braces, "/>'".toList⟩], [' ']⟩,
    .pair ⟨"Text".toList, [], ['\t']⟩ [], .pair ⟨"Section".toList, [], []⟩ "/>".toList]

def bareEmail : Email := [⟨.str "a", .heading ⟨" \n", "h9", "", "/>", "'\""⟩⟩, ⟨.str "b", .image ⟨"", "\"", "\x7d"⟩⟩]

theorem judgesStrangeNodes :
    ((∀ node ∈ strangeNodes, node.Clear) ∧
      (Gate.faults (String.ofList (documentText strangeNodes))).map Fault.message =
        ["Section", "Foo"].map Gate.complaint ∧
      Gate.admits (String.ofList (documentText strangeNodes)) = false) ∧
    (∃ marked, marked = strangeNodes.zip [true, false, false, false, true] ∧ (∀ pair ∈ marked, pair.1.Clear) ∧
      (∃ tag content, (Node.pair tag content, true) ∈ marked) ∧
      String.ofList (documentLess marked) =
        "<Section a='\">'>x 'y\n\" > <Foo\nb=\x7b/>'\x7d /><Text\t></Text><Section>/>" ∧
      ((Gate.faults (String.ofList (documentLess marked))).map Fault.message).head? = some "Unbalanced tags detected") ∧
    (∀ props ∈ bareEmail.contents, props.Spellable) ∧
    (∀ props ∈ bareEmail.contents, ∀ field ∈ props.fields, '<' ∉ field.2.toList) ∧
    Gate.admits bareEmail.write = true := by
  obtain ⟨whole, less, written⟩ := judgesDocuments
  have clear : ∀ node ∈ strangeNodes, node.Clear := by decide
  have marked : ∀ pair ∈ strangeNodes.zip [true, false, false, false, true], pair.1.Clear :=
    fun pair h => clear pair.1 (List.of_mem_zip h).1
  have lost : ∃ tag content, (Node.pair tag content, true) ∈ strangeNodes.zip [true, false, false, false, true] :=
    ⟨_, _, .head _⟩
  have spellable : ∀ props ∈ bareEmail.contents, props.Spellable := by
    unfold Props.Spellable
    decide
  have free : ∀ props ∈ bareEmail.contents, ∀ field ∈ props.fields, '<' ∉ field.2.toList := by decide
  obtain ⟨messages, admitted⟩ := whole strangeNodes clear
  refine ⟨⟨clear, messages.trans (by decide +kernel), ?_⟩,
    ⟨_, rfl, marked, lost, by decide, less _ marked lost⟩, spellable, free, written bareEmail spellable free⟩
  rw [Bool.eq_false_iff, ne_eq, admitted]
  decide +kernel

end EmailMarkup
