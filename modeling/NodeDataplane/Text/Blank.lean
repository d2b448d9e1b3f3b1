/-!
# Blank characters

The characters with the Unicode property that makes them separate words, together with the four
ASCII information separators. `trim` takes them off both ends of a text; what is left is empty
exactly when the text is blank throughout.
-/

namespace NodeDataplane.Text

/-- A character that separates words: the ASCII controls of layout, the information separators,
next line, and every space, line or paragraph separator of Unicode. -/
def isBlank (c : Char) : Bool :=
  let n := c.toNat
  (0x09 ≤ n && n ≤ 0x0d) || (0x1c ≤ n && n ≤ 0x20) || n == 0x85 || n == 0xa0 || n == 0x1680 ||
    (0x2000 ≤ n && n ≤ 0x200a) || n == 0x2028 || n == 0x2029 || n == 0x202f || n == 0x205f ||
    n == 0x3000

/-- Drop the longest end of a list whose members all satisfy `p`. -/
def dropEndWhile {α : Type} (p : α → Bool) (cs : List α) : List α :=
  (cs.reverse.dropWhile p).reverse

/-- Drop the members that satisfy `p` from both ends of a list. -/
def dropAroundWhile {α : Type} (p : α → Bool) (cs : List α) : List α :=
  dropEndWhile p (cs.dropWhile p)

def trim (s : String) : String :=
  String.ofList (dropAroundWhile isBlank s.toList)

section

variable {α : Type} {p : α → Bool}

theorem dropWhile_of_head? {cs : List α} (h : ∀ c ∈ cs.head?, p c = false) :
    cs.dropWhile p = cs := by
  cases cs with
  | nil => rfl
  | cons c cs => exact List.dropWhile_cons_of_neg (by simpa using h)

theorem not_head?_dropWhile (cs : List α) : ∀ c ∈ (cs.dropWhile p).head?, p c = false := by
  intro c first
  have := List.head?_dropWhile_not p cs
  rwa [Option.mem_def.1 first] at this

theorem dropEndWhile_prefix (p : α → Bool) (cs : List α) : dropEndWhile p cs <+: cs := by
  rw [dropEndWhile, ← List.reverse_suffix, List.reverse_reverse]
  exact List.dropWhile_suffix p

theorem dropEndWhile_dropEndWhile (cs : List α) :
    dropEndWhile p (dropEndWhile p cs) = dropEndWhile p cs := by
  simp only [dropEndWhile, List.reverse_reverse]
  rw [dropWhile_of_head? (not_head?_dropWhile _)]

/-- What is left between the ends has nothing at its ends that would be dropped. -/
theorem dropAroundWhile_dropAroundWhile (cs : List α) :
    dropAroundWhile p (dropAroundWhile p cs) = dropAroundWhile p cs := by
  have front : ∀ c ∈ (dropAroundWhile p cs).head?, p c = false := by
    intro c first
    apply not_head?_dropWhile cs c
    obtain ⟨rest, whole⟩ := dropEndWhile_prefix p (cs.dropWhile p)
    rw [dropAroundWhile, Option.mem_def] at first
    rw [Option.mem_def, ← whole, List.head?_append, first, Option.some_or]
  rw [dropAroundWhile, dropWhile_of_head? front, dropAroundWhile, dropEndWhile_dropEndWhile]

end

theorem trim_trim (s : String) : trim (trim s) = trim s := by
  simp only [trim, String.toList_ofList, dropAroundWhile_dropAroundWhile]

end NodeDataplane.Text
