import Mathlib.Data.List.Forall2

/-!
# Steps that may fail

A reader goes from step to step, and through a list from member to member. The first step that fails
decides what it fails with.

## Main results

- `mapM_eq_ok_iff`: a list is read if its members are, one for one.
- `mapM_eq_error_iff`: a list that is not read fails as the first of its members that does.
-/

namespace NodeDataplane

variable {ε α β : Type} {f : α → Except ε β} {xs : List α}

theorem bind_eq_ok_iff {x : Except ε α} {b : β} :
    x >>= f = .ok b ↔ ∃ a, x = .ok a ∧ f a = .ok b := by
  cases x <;> simp [bind, Except.bind]

theorem bind_eq_error_iff {x : Except ε α} {e : ε} :
    x >>= f = .error e ↔ x = .error e ∨ ∃ a, x = .ok a ∧ f a = .error e := by
  cases x <;> simp [bind, Except.bind]

/-- Successful reading of a list is reading of its members, one for one. -/
theorem mapM_eq_ok_iff {ys : List β} :
    xs.mapM f = .ok ys ↔ List.Forall₂ (fun x y => f x = .ok y) xs ys := by
  induction xs generalizing ys with
  | nil => cases ys <;> simp [pure, Except.pure]
  | cons x rest ih =>
    simp only [List.mapM_cons, bind_eq_ok_iff, ih, pure, Except.pure, Except.ok.injEq]
    constructor
    · rintro ⟨y, here, later, there, rfl⟩
      exact .cons here there
    · rintro (_ | ⟨here, there⟩)
      exact ⟨_, here, _, there, rfl⟩

theorem exists_of_mapM_eq_ok {ys : List β} (read : xs.mapM f = .ok ys) :
    ∀ x ∈ xs, ∃ y, f x = .ok y := by
  have each := mapM_eq_ok_iff.1 read
  clear read
  induction each with
  | nil => nofun
  | cons here _ ih => exact List.forall_mem_cons.2 ⟨⟨_, here⟩, ih⟩

/-- A list fails where the first of its members does. -/
theorem mapM_eq_error_iff {e : ε} :
    xs.mapM f = .error e ↔ ∃ before x after, xs = before ++ x :: after ∧
      (∀ earlier ∈ before, ∃ b, f earlier = .ok b) ∧ f x = .error e := by
  induction xs with
  | nil => exact iff_of_false nofun (by simp)
  | cons x rest ih =>
    rw [List.mapM_cons, bind_eq_error_iff]
    constructor
    · rintro (here | ⟨b, read, later⟩)
      · exact ⟨[], x, rest, rfl, nofun, here⟩
      · rw [bind_eq_error_iff, ih] at later
        rcases later with ⟨before, y, after, rfl, earlier, fails⟩ | ⟨_, -, returned⟩
        · exact ⟨x :: before, y, after, rfl, List.forall_mem_cons.2 ⟨⟨b, read⟩, earlier⟩, fails⟩
        · cases returned
    · rintro ⟨before, y, after, split, earlier, fails⟩
      cases before with
      | nil =>
        cases split
        exact .inl fails
      | cons first before =>
        cases split
        obtain ⟨⟨b, read⟩, earlier⟩ := List.forall_mem_cons.1 earlier
        exact .inr ⟨b, read, bind_eq_error_iff.2 (.inl (ih.2 ⟨before, y, after, rfl, earlier, fails⟩))⟩

end NodeDataplane
