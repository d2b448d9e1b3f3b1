/-!
# Ends of lines

A line may end with a line feed, a carriage return, or both in this order. `unifyLines` writes a
line feed for each of them, which leaves no carriage return.
-/

namespace NodeDataplane.Text

/-- Every end of a line as a line feed. -/
def unifyLines : List Char → List Char
  | '\r' :: '\n' :: rest => '\n' :: unifyLines rest
  | '\r' :: rest => '\n' :: unifyLines rest
  | c :: rest => c :: unifyLines rest
  | [] => []

/-- A text without carriage returns stays as it is. -/
theorem unifyLines_of_not_mem {cs : List Char} (h : '\r' ∉ cs) : unifyLines cs = cs := by
  fun_induction unifyLines cs with
  | case1 rest => simp at h
  | case2 rest => simp at h
  | case3 c rest _ _ ih =>
    simp only [List.mem_cons, not_or] at h
    rw [ih h.2]
  | case4 => rfl

end NodeDataplane.Text
