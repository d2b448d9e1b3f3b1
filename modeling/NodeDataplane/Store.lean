import NodeDataplane.Record
import NodeDataplane.Table

/-!
# The store

The store holds what records have set, as far as no later record deleted it. What is found under a
key is what the last record with that key says, so the order of records matters only among those
that share a key.
-/

namespace NodeDataplane

abbrev Store := Table Key Value

namespace Store

def write (store : Store) (r : Record) : Store :=
  match r.value with
  | some value => store.put r.key value
  | none => store.erase r.key

def writeAll (store : Store) (records : List Record) : Store := records.foldl write store

theorem get?_write_self (store : Store) (r : Record) : (store.write r).get? r.key = r.value := by
  unfold write
  cases r.value <;> simp

theorem get?_write_of_ne (store : Store) {r : Record} {key : Key} (h : r.key ≠ key) :
    (store.write r).get? key = store.get? key := by
  unfold write
  cases r.value with
  | none => exact Table.get?_erase_of_ne store h
  | some value => exact Table.get?_put_of_ne store value h

theorem writeAll_append (store : Store) (first second : List Record) :
    store.writeAll (first ++ second) = (store.writeAll first).writeAll second :=
  List.foldl_append

theorem get?_writeAll_of_forall_ne (store : Store) {records : List Record} {key : Key}
    (h : ∀ r ∈ records, r.key ≠ key) : (store.writeAll records).get? key = store.get? key := by
  induction records generalizing store with
  | nil => rfl
  | cons r rest ih =>
    rw [List.forall_mem_cons] at h
    exact (ih (store.write r) h.2).trans (get?_write_of_ne store h.1)

/-! ### What was there before -/

theorem get?_write_congr {s t : Store} (r : Record) {key : Key} (same : s.get? key = t.get? key) :
    (s.write r).get? key = (t.write r).get? key := by
  by_cases h : r.key = key
  · subst h
    rw [get?_write_self, get?_write_self]
  · rw [get?_write_of_ne s h, get?_write_of_ne t h, same]

theorem get?_writeAll_congr {s t : Store} (records : List Record) {key : Key}
    (same : s.get? key = t.get? key) :
    (s.writeAll records).get? key = (t.writeAll records).get? key := by
  induction records generalizing s t with
  | nil => exact same
  | cons r rest ih => exact ih (get?_write_congr r same)

/-- Where a record tells of a key, it does not matter what was there before. -/
theorem get?_writeAll_of_told {records : List Record} {key : Key}
    (told : ∃ r ∈ records, r.key = key) (s t : Store) :
    (s.writeAll records).get? key = (t.writeAll records).get? key := by
  induction records generalizing s t with
  | nil => simp at told
  | cons r rest ih =>
    obtain ⟨x, member, rfl⟩ := told
    rcases List.mem_cons.1 member with rfl | behind
    · exact get?_writeAll_congr rest
        ((get?_write_self s x).trans (get?_write_self t x).symm)
    · exact ih ⟨x, behind, rfl⟩ (s.write r) (t.write r)

/-- Records that agree on a key set it to what they agree on. -/
theorem get?_writeAll_of_agreed {records : List Record} {key : Key} {value : Option Value}
    (told : ∃ r ∈ records, r.key = key) (agreed : ∀ r ∈ records, r.key = key → r.value = value)
    (store : Store) : (store.writeAll records).get? key = value := by
  induction records generalizing store with
  | nil => simp at told
  | cons r rest ih =>
    rw [List.forall_mem_cons] at agreed
    by_cases later : ∃ x ∈ rest, x.key = key
    · exact ih later agreed.2 (store.write r)
    · -- The record at hand is the last one with the key.
      have now : r.key = key := by
        obtain ⟨x, member, same⟩ := told
        rcases List.mem_cons.1 member with rfl | behind
        · exact same
        · exact absurd ⟨x, behind, same⟩ later
      have others : ∀ x ∈ rest, x.key ≠ key := fun x behind same => later ⟨x, behind, same⟩
      refine (get?_writeAll_of_forall_ne (store.write r) others).trans ?_
      rw [← now, get?_write_self, agreed.1 now]

/-- What is found was there before, or a record told it. -/
theorem told_of_get?_writeAll {store : Store} {records : List Record} {key : Key} {value : Value}
    (found : (store.writeAll records).get? key = some value) :
    store.get? key = some value ∨ ∃ r ∈ records, r.key = key ∧ r.value = some value := by
  induction records generalizing store with
  | nil => exact Or.inl found
  | cons r rest ih =>
    rcases ih found with now | ⟨x, member, told⟩
    · by_cases same : r.key = key
      · subst same
        rw [get?_write_self] at now
        exact Or.inr ⟨r, List.mem_cons_self, rfl, now⟩
      · rw [get?_write_of_ne store same] at now
        exact Or.inl now
    · exact Or.inr ⟨x, List.mem_cons_of_mem _ member, told⟩

/-! ### Records that change the store -/

/-- Every record, when its turn comes, changes what is found under its key. -/
inductive Effective : Store → List Record → Prop
  | nil (store : Store) : Effective store []
  | cons {store : Store} {r : Record} {rest : List Record} (changes : store.get? r.key ≠ r.value)
      (behind : Effective (store.write r) rest) : Effective store (r :: rest)

theorem Effective.append {store : Store} {first second : List Record}
    (before : store.Effective first) (behind : (store.writeAll first).Effective second) :
    store.Effective (first ++ second) := by
  induction before with
  | nil => exact behind
  | cons changes _ ih => exact .cons changes (ih behind)

/-- Where no two records share a key, each finds what was there before all of them. -/
theorem effective_of_nodup {store : Store} {records : List Record}
    (distinct : (records.map (·.key)).Nodup) (h : ∀ r ∈ records, store.get? r.key ≠ r.value) :
    store.Effective records := by
  induction records generalizing store with
  | nil => exact .nil store
  | cons r rest ih =>
    rw [List.map_cons, List.nodup_cons] at distinct
    rw [List.forall_mem_cons] at h
    refine .cons h.1 (ih distinct.2 ?_)
    -- Writing one record leaves what the others will find.
    intro x behind
    have apart : r.key ≠ x.key := by
      intro same
      apply distinct.1
      rw [same]
      exact List.mem_map_of_mem behind
    rw [get?_write_of_ne store apart]
    exact h.2 x behind

end Store

end NodeDataplane
