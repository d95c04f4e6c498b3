/-! Lines of a text, and the newline convention: a carriage return, alone or with a line feed after it,
counts as one line feed. -/
namespace EmailMarkup.Text

def lines (s : List Char) : List (List Char) := s.splitOn '\n'

def unlines (pieces : List (List Char)) : List Char := ['\n'].intercalate pieces

def foldNewlines : List Char → List Char
  | [] => []
  | '\r' :: '\n' :: rest => '\n' :: foldNewlines rest
  | c :: rest => (if c = '\r' then '\n' else c) :: foldNewlines rest

theorem foldNewlinesNoReturn (s : List Char) : '\r' ∉ foldNewlines s := by
  fun_induction foldNewlines s with
  | case1 => simp
  | case2 rest ih => simp [ih]
  | case3 c rest _ ih =>
      simp only [List.mem_cons, not_or]
      refine ⟨?_, ih⟩
      split <;> simp_all [eq_comm]

end EmailMarkup.Text
