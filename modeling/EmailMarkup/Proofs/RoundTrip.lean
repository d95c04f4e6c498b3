import EmailMarkup.Proofs.Block

/-! The round trip of whole emails. An email that markup can restore is read back field by field, images and dividers
first, and from then on writing and reading change nothing. -/
namespace EmailMarkup

theorem arrangedRestorable {contents : List Props} (restorable : ∀ props ∈ contents, props.Restorable) :
    ∀ props ∈ arranged contents, props.Restorable := by
  intro props h
  rcases List.mem_append.mp h with first | second
  · exact restorable props (List.mem_filter.mp first).1
  · exact restorable props (List.mem_filter.mp second).1

theorem writeReadContents {email : Email} (restorable : ∀ props ∈ email.contents, props.Restorable) (ids : Ids) :
    (Email.read email.write ids).1.contents = arranged email.contents := by
  have written : contentsOf (Email.writeContents email.contents ++ []) = _ :=
    writtenContents (by decide) restorable rfl
  rwa [readContents, Email.write, String.toList_ofList, ← List.append_nil (Email.writeContents email.contents)]

theorem restoresEmail (email : Email) (restorable : ∀ props ∈ email.contents, props.Restorable) (ids later : Ids) :
    (Email.read email.write ids).1.contents = arranged email.contents ∧
    (Email.read (Email.read email.write ids).1.write later).1.write = (Email.read email.write ids).1.write := by
  have first := writeReadContents restorable ids
  refine ⟨first, ?_⟩
  have settled : ∀ props ∈ (Email.read email.write ids).1.contents, props.Restorable := by
    rw [first]
    exact arrangedRestorable restorable
  have second := writeReadContents settled later
  rw [first, arrangedTwice, ← first] at second
  exact congrArg (fun contents => String.ofList (Email.writeContents contents)) second

def mixedEmail : Email :=
  [⟨.str "a", .heading ⟨"5 > 4\n</Text> < 6", "h3", "center", "it's \"red\"", "/>"⟩⟩,
    ⟨.str "b", .image ⟨"<Text>x</Text>", "a \"b\" \x7d", "'>'\n"⟩⟩,
    ⟨.str "c", .button ⟨"<", "https://x/?a=\"1\"&b='2'", "\x7b\x7d", "'", "\""⟩⟩]

theorem restoresMixedEmail : (∀ props ∈ mixedEmail.contents, props.Restorable) ∧
    (Email.read mixedEmail.write Ids.numbered).1.contents =
      [.image ⟨"<Text>x</Text>", "a \"b\" \x7d", "'>'\n"⟩,
        .heading ⟨"5 > 4\n</Text> < 6", "h3", "center", "it's \"red\"", "/>"⟩,
        .button ⟨"<", "https://x/?a=\"1\"&b='2'", "\x7b\x7d", "'", "\""⟩] := by
  have restorable : ∀ props ∈ mixedEmail.contents, props.Restorable := by
    intro props h
    simp only [mixedEmail, Email.contents, List.map_cons, List.map_nil, List.mem_cons, List.not_mem_nil, or_false] at h
    rcases h with rfl | rfl | rfl <;> constructor <;> decide
  exact ⟨restorable, (restoresEmail mixedEmail restorable Ids.numbered Ids.numbered).1⟩

end EmailMarkup
