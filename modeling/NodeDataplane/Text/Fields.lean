/-!
# Fields between separators

`fields sep` cuts a text at every separator; `cut?` cuts it at the first one only. Joining the
fields with the separator gives the text back.
-/

namespace NodeDataplane.Text

/-- The pieces of a text between separators; one more than there are separators. -/
def fields (sep : Char) : List Char → List (List Char)
  | [] => [[]]
  | c :: rest =>
    if c = sep then [] :: fields sep rest
    else
      match fields sep rest with
      | [] => [[c]]
      | field :: more => (c :: field) :: more

def cut? (sep : Char) : List Char → Option (List Char × List Char)
  | [] => none
  | c :: rest =>
    if c = sep then some ([], rest)
    else (cut? sep rest).map fun (before, behind) => (c :: before, behind)

def joined (sep : Char) (pieces : List (List Char)) : List Char :=
  (pieces.intersperse [sep]).flatten

theorem fields_ne_nil (sep : Char) (cs : List Char) : fields sep cs ≠ [] := by
  induction cs with
  | nil => simp [fields]
  | cons c cs ih =>
    rw [fields]
    split
    · simp
    · split <;> simp

theorem joined_fields (sep : Char) (cs : List Char) : joined sep (fields sep cs) = cs := by
  induction cs with
  | nil => rfl
  | cons c cs ih =>
    rw [fields]
    have some_field := fields_ne_nil sep cs
    cases rest : fields sep cs with
    | nil => exact absurd rest some_field
    | cons field more =>
      rw [rest] at ih
      split
      next is_sep => cases more <;> simp_all [joined]
      next => cases more <;> simp_all [joined]

theorem fields_of_not_mem {sep : Char} {cs : List Char} (h : sep ∉ cs) : fields sep cs = [cs] := by
  induction cs with
  | nil => rfl
  | cons c cs ih =>
    simp only [List.mem_cons, not_or] at h
    simp [fields, ih h.2, Ne.symm h.1]

/-! ### Pieces that are joined -/

@[simp] theorem joined_nil (sep : Char) : joined sep [] = [] := rfl

@[simp] theorem joined_singleton (sep : Char) (piece : List Char) :
    joined sep [piece] = piece := by simp [joined]

theorem joined_cons_cons (sep : Char) (piece next : List Char) (more : List (List Char)) :
    joined sep (piece :: next :: more) = piece ++ sep :: joined sep (next :: more) := by
  simp [joined]

theorem joined_cons_prefix (sep : Char) (piece : List Char) (more : List (List Char)) :
    ∃ behind, joined sep (piece :: more) = piece ++ behind := by
  cases more with
  | nil => exact ⟨[], by simp⟩
  | cons next more => exact ⟨_, joined_cons_cons ..⟩

theorem mem_joined_iff {sep c : Char} {pieces : List (List Char)} (other : c ≠ sep) :
    c ∈ joined sep pieces ↔ ∃ piece ∈ pieces, c ∈ piece := by
  induction pieces with
  | nil => simp
  | cons piece more ih =>
    cases more with
    | nil => simp
    | cons next more => simp [joined_cons_cons, other, ih]

theorem mem_of_mem_fields {sep c : Char} {cs piece : List Char} (mem : piece ∈ fields sep cs)
    (inside : c ∈ piece) : c ∈ cs := by
  induction cs generalizing piece with
  | nil => simp_all [fields]
  | cons d cs ih =>
    rw [fields] at mem
    grind

theorem fields_eq_splitOn (sep : Char) (cs : List Char) : fields sep cs = cs.splitOn sep := by
  induction cs with
  | nil => rfl
  | cons c cs ih =>
    rw [fields, List.splitOn_cons_eq_if_modifyHead, ih]
    have some_field := List.splitOn_ne_nil sep cs
    cases rest : cs.splitOn sep with
    | nil => exact absurd rest some_field
    | cons field more => simp

/-- Pieces that hold no separator are cut apart where they were joined. -/
theorem fields_joined {sep : Char} {pieces : List (List Char)} (some_piece : pieces ≠ [])
    (apart : ∀ piece ∈ pieces, sep ∉ piece) : fields sep (joined sep pieces) = pieces := by
  rw [fields_eq_splitOn]
  exact List.splitOn_intercalate sep apart some_piece

theorem fields_append {sep : Char} {piece : List Char} (rest : List Char) (apart : sep ∉ piece) :
    fields sep (piece ++ sep :: rest) = piece :: fields sep rest := by
  simp only [fields_eq_splitOn]
  exact List.splitOn_append_cons_self_of_not_mem apart rest

theorem not_mem_of_mem_fields {sep : Char} {cs piece : List Char} (mem : piece ∈ fields sep cs) :
    sep ∉ piece := by
  induction cs generalizing piece with
  | nil => simp_all [fields]
  | cons c cs ih =>
    rw [fields] at mem
    grind

/-! ### The first separator -/

theorem cut?_of_not_mem {sep : Char} {cs : List Char} (apart : sep ∉ cs) : cut? sep cs = none := by
  fun_induction cut? sep cs <;> simp_all

theorem cut?_append {sep : Char} {before : List Char} (behind : List Char) (apart : sep ∉ before) :
    cut? sep (before ++ sep :: behind) = some (before, behind) := by
  induction before with
  | nil => simp [cut?]
  | cons c before ih =>
    simp only [List.mem_cons, not_or] at apart
    simp [cut?, ih apart.2, Ne.symm apart.1]

theorem append_of_cut? {sep : Char} {cs before behind : List Char}
    (found : cut? sep cs = some (before, behind)) : before ++ sep :: behind = cs := by
  fun_induction cut? sep cs generalizing before with
  | case1 => cases found
  | case2 => cases found; rfl
  | case3 c rest other ih =>
    obtain ⟨⟨front, _⟩, cut, same⟩ := Option.map_eq_some_iff.1 found
    cases same
    rw [List.cons_append, ih cut]

end NodeDataplane.Text
