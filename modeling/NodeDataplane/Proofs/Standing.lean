import Mathlib.Data.List.Basic

/-!
# What stands of a history

In a history one member may revoke earlier ones. What stands are the members that no later one
revokes, in the order in which they came.

## Main results

- `mem_standing_iff`: the members that stand.
- `standing_concat`: what stands when one more member comes.
- `filterMap_standing_concat`: the same, for what the members tell.
- `exists_split_concat_iff`: the same, for a member behind which all others are of some kind.
-/

namespace NodeDataplane

variable {α : Type} {revokes : α → α → Bool}

/-- The members of a history that no later one revokes. -/
def standing (revokes : α → α → Bool) : List α → List α
  | [] => []
  | a :: later =>
    if later.any (revokes · a) then standing revokes later else a :: standing revokes later

theorem mem_standing_iff {history : List α} {a : α} :
    a ∈ standing revokes history ↔
      ∃ front back, history = front ++ a :: back ∧ ∀ b ∈ back, revokes b a = false := by
  induction history with
  | nil => simp [standing]
  | cons first later ih =>
    have stands_later : a ∈ standing revokes later ↔ ∃ front back,
        first :: later = (first :: front) ++ a :: back ∧ ∀ b ∈ back, revokes b a = false := by
      simp [ih]
    rw [standing]
    constructor
    · intro member
      split at member
      next =>
        obtain ⟨front, back, split, kept⟩ := stands_later.1 member
        exact ⟨first :: front, back, split, kept⟩
      next unrevoked =>
        rcases List.mem_cons.1 member with rfl | member
        · refine ⟨[], later, rfl, fun b behind => ?_⟩
          simp only [List.any_eq_true, not_exists, not_and, Bool.not_eq_true] at unrevoked
          exact unrevoked b behind
        · obtain ⟨front, back, split, kept⟩ := stands_later.1 member
          exact ⟨first :: front, back, split, kept⟩
    · rintro ⟨front, back, split, kept⟩
      cases front with
      | nil =>
        -- The first member itself, which nothing behind it revokes.
        obtain ⟨rfl, rfl⟩ := List.cons.inj split
        have unrevoked : ¬ (later.any (revokes · first) = true) := by
          simpa using kept
        rw [if_neg unrevoked]
        exact List.mem_cons_self
      | cons other front =>
        have stands : a ∈ standing revokes later := by
          refine ih.2 ⟨front, back, ?_, kept⟩
          exact (List.cons.inj split).2
        split
        next => exact stands
        next => exact List.mem_cons_of_mem _ stands

/-- One more member stands, and takes away what it revokes. -/
theorem standing_concat (history : List α) (a : α) :
    standing revokes (history ++ [a]) =
      (standing revokes history).filter (fun b => !revokes a b) ++ [a] := by
  induction history with
  | nil => rfl
  | cons first later ih =>
    rw [List.cons_append, standing, standing, ih, List.any_append]
    by_cases revoked : later.any (revokes · first) = true
    · simp [revoked]
    · cases last : revokes a first <;> simp [revoked, last]

/-- What the members that stand tell, where it is seen from this what another one revokes. -/
theorem filterMap_standing_concat {β : Type} {told? : α → Option β} {stays : β → Bool} {a : α}
    (seen : ∀ b c, told? b = some c → revokes a b = !stays c) (history : List α) :
    (standing revokes (history ++ [a])).filterMap told? =
      ((standing revokes history).filterMap told?).filter stays ++ (told? a).toList := by
  have last : [a].filterMap told? = (told? a).toList := by
    cases now : told? a <;> simp [now]
  rw [standing_concat, List.filterMap_append, List.filterMap_filter, last, List.filter_filterMap]
  congr 1
  apply List.filterMap_congr
  intro b _
  cases before : told? b with
  | none => simp
  | some c => simp [seen b c before, Option.filter_some]

/-- Behind a member all others are of some kind: it is the last one, or it was so before and the
last one is of this kind. -/
theorem exists_split_concat_iff {P Q : α → Prop} {history : List α} {a : α} :
    (∃ front b back, history ++ [a] = front ++ b :: back ∧ P b ∧ ∀ c ∈ back, Q c) ↔
      P a ∨ Q a ∧ ∃ front b back, history = front ++ b :: back ∧ P b ∧ ∀ c ∈ back, Q c := by
  constructor
  · rintro ⟨front, b, back, split, holds, all⟩
    -- The member is the last one, or the last one is behind it.
    rcases List.eq_nil_or_concat back with rfl | ⟨init, last, rfl⟩
    · obtain ⟨-, same⟩ := List.append_inj' split rfl
      cases same
      exact Or.inl holds
    · have longer : history ++ [a] = (front ++ b :: init) ++ [last] := by simpa using split
      obtain ⟨rfl, same⟩ := List.append_inj' longer rfl
      cases same
      rw [List.concat_eq_append, List.forall_mem_append, List.forall_mem_singleton] at all
      exact Or.inr ⟨all.2, front, b, init, rfl, holds, all.1⟩
  · rintro (holds | ⟨kept, front, b, back, rfl, holds, all⟩)
    · exact ⟨history, a, [], rfl, holds, nofun⟩
    · refine ⟨front, b, back ++ [a], by simp, holds, ?_⟩
      rw [List.forall_mem_append]
      exact ⟨all, List.forall_mem_singleton.2 kept⟩

end NodeDataplane
