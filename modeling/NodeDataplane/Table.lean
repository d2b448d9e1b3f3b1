/-!
# Tables

A table is a map that keeps its keys in the order in which they came in. Writing to a key that is
there keeps its place; a key that was erased comes in again at the end. No key stands twice, which
is part of the type, so an entry of the table is the same as an answer of `get?`.
-/

namespace NodeDataplane

namespace Table

variable {κ υ : Type} [DecidableEq κ]

/-! ### Lists of entries -/

def find? (key : κ) : List (κ × υ) → Option υ
  | [] => none
  | (k, v) :: rest => if k = key then some v else find? key rest

/-- Give a value to the first entry with a key, or add an entry at the end. -/
def putEntry (key : κ) (value : υ) : List (κ × υ) → List (κ × υ)
  | [] => [(key, value)]
  | (k, v) :: rest => if k = key then (k, value) :: rest else (k, v) :: putEntry key value rest

theorem find?_putEntry (key other : κ) (value : υ) (entries : List (κ × υ)) :
    find? other (putEntry key value entries) =
      if key = other then some value else find? other entries := by
  induction entries with
  | nil => simp [putEntry, find?]
  | cons entry rest ih =>
    obtain ⟨k, v⟩ := entry
    by_cases same : k = key
    · subst same
      by_cases h : k = other <;> simp [putEntry, find?, h]
    · by_cases h : k = other
      · subst h
        simp [putEntry, find?, same, Ne.symm same]
      · simp [putEntry, find?, same, h, ih]

theorem find?_filter (key other : κ) (entries : List (κ × υ)) :
    find? other (entries.filter fun entry => entry.1 ≠ key) =
      if key = other then none else find? other entries := by
  induction entries with
  | nil => simp [find?]
  | cons entry rest ih =>
    obtain ⟨k, v⟩ := entry
    by_cases same : k = key
    · subst same
      simp only [ne_eq, decide_not] at ih
      by_cases h : k = other
      · subst h
        simpa using ih
      · simp [find?, h, ih]
    · simp only [ne_eq, decide_not] at ih
      by_cases h : k = other
      · subst h
        simp [find?, same, Ne.symm same]
      · simp [find?, same, h, ih]

/-- Writing keeps the keys in place; a new one comes last. -/
theorem map_fst_putEntry (key : κ) (value : υ) (entries : List (κ × υ)) :
    (putEntry key value entries).map (·.1) =
      if key ∈ entries.map (·.1) then entries.map (·.1) else entries.map (·.1) ++ [key] := by
  induction entries with
  | nil => rfl
  | cons entry rest ih =>
    obtain ⟨k, v⟩ := entry
    by_cases same : k = key
    · simp [putEntry, same]
    · rw [putEntry, if_neg same, List.map_cons, ih]
      by_cases member : key ∈ rest.map (·.1)
      · have present : key ∈ k :: rest.map (·.1) := List.mem_cons_of_mem _ member
        rw [if_pos member, List.map_cons, if_pos present]
      · have absent : key ∉ k :: rest.map (·.1) := by
          simp only [List.mem_cons, not_or]
          exact ⟨Ne.symm same, member⟩
        rw [if_neg member, List.map_cons, if_neg absent, List.cons_append]

theorem putEntry_of_not_mem {key : κ} {entries : List (κ × υ)} (absent : key ∉ entries.map (·.1))
    (value : υ) : putEntry key value entries = entries ++ [(key, value)] := by
  induction entries with
  | nil => rfl
  | cons entry rest ih =>
    simp only [List.map_cons, List.mem_cons, not_or] at absent
    rw [putEntry, if_neg (Ne.symm absent.1), ih absent.2, List.cons_append]

theorem putEntry_of_find? {key : κ} {value : υ} {entries : List (κ × υ)}
    (h : find? key entries = some value) : putEntry key value entries = entries := by
  induction entries with
  | nil => cases h
  | cons entry rest ih =>
    obtain ⟨k, v⟩ := entry
    by_cases same : k = key
    · rw [find?, if_pos same, Option.some.injEq] at h
      rw [putEntry, if_pos same, h]
    · rw [find?, if_neg same] at h
      rw [putEntry, if_neg same, ih h]

/-- Where no key stands twice, every entry is the first one with its key. -/
theorem find?_eq_some_iff {entries : List (κ × υ)} (distinct : (entries.map (·.1)).Nodup)
    {key : κ} {value : υ} : find? key entries = some value ↔ (key, value) ∈ entries := by
  induction entries with
  | nil => simp [find?]
  | cons entry rest ih =>
    obtain ⟨k, v⟩ := entry
    rw [List.map_cons, List.nodup_cons] at distinct
    by_cases same : k = key
    · subst same
      have absent : ∀ w, (k, w) ∉ rest := fun w member =>
        distinct.1 (List.mem_map.2 ⟨(k, w), member, rfl⟩)
      simp [find?, absent, eq_comm]
    · simp [find?, same, Ne.symm same, ih distinct.2]

end Table

/-! ### Tables -/

/-- A map with its entries in order of entry. -/
structure Table (κ υ : Type) where
  entries : List (κ × υ)
  distinct : (entries.map (·.1)).Nodup
  deriving DecidableEq, Repr

namespace Table

variable {κ υ : Type}

def empty : Table κ υ := ⟨[], .nil⟩

instance : Inhabited (Table κ υ) := ⟨empty⟩

def keys (t : Table κ υ) : List κ := t.entries.map (·.1)

def size (t : Table κ υ) : Nat := t.entries.length

def isEmpty (t : Table κ υ) : Bool := t.entries.isEmpty

theorem nodup_keys (t : Table κ υ) : t.keys.Nodup := t.distinct

variable [DecidableEq κ]

def get? (t : Table κ υ) (key : κ) : Option υ := find? key t.entries

def contains (t : Table κ υ) (key : κ) : Bool := (t.get? key).isSome

def put (t : Table κ υ) (key : κ) (value : υ) : Table κ υ where
  entries := putEntry key value t.entries
  distinct := by
    rw [map_fst_putEntry]
    split
    next => exact t.distinct
    next absent =>
      refine List.nodup_append.2 ⟨t.distinct, by simp, ?_⟩
      intro k member other last equal
      rw [List.mem_singleton] at last
      exact absent (last ▸ equal ▸ member)

def erase (t : Table κ υ) (key : κ) : Table κ υ where
  entries := t.entries.filter fun entry => entry.1 ≠ key
  distinct := t.distinct.sublist (List.filter_sublist.map _)

/-! ### What is read after a write -/

@[simp] theorem get?_empty (key : κ) : (empty : Table κ υ).get? key = none := rfl

@[simp] theorem get?_put_self (t : Table κ υ) (key : κ) (value : υ) :
    (t.put key value).get? key = some value := by
  simp [get?, put, find?_putEntry]

theorem get?_put_of_ne (t : Table κ υ) {key other : κ} (value : υ) (h : key ≠ other) :
    (t.put key value).get? other = t.get? other := by
  simp [get?, put, find?_putEntry, h]

@[simp] theorem get?_erase_self (t : Table κ υ) (key : κ) : (t.erase key).get? key = none := by
  simp only [get?, erase, find?_filter, if_true]

theorem get?_erase_of_ne (t : Table κ υ) {key other : κ} (h : key ≠ other) :
    (t.erase key).get? other = t.get? other := by
  simp only [get?, erase, find?_filter, h, if_false]

/-! ### Keys and entries -/

theorem mem_entries_iff {t : Table κ υ} {key : κ} {value : υ} :
    (key, value) ∈ t.entries ↔ t.get? key = some value :=
  (find?_eq_some_iff t.distinct).symm

theorem get?_isSome_iff (t : Table κ υ) (key : κ) : (t.get? key).isSome ↔ key ∈ t.keys := by
  simp only [Option.isSome_iff_exists, ← mem_entries_iff, keys, List.mem_map, Prod.exists,
    exists_and_right, exists_eq_right]

theorem keys_put (t : Table κ υ) (key : κ) (value : υ) :
    (t.put key value).keys = if key ∈ t.keys then t.keys else t.keys ++ [key] :=
  map_fst_putEntry key value t.entries

theorem entries_put_of_not_mem {t : Table κ υ} {key : κ} (absent : key ∉ t.keys) (value : υ) :
    (t.put key value).entries = t.entries ++ [(key, value)] :=
  putEntry_of_not_mem absent value

omit [DecidableEq κ] in
theorem size_eq_length_keys (t : Table κ υ) : t.size = t.keys.length := (List.length_map _).symm

theorem size_put_of_mem {t : Table κ υ} {key : κ} (present : key ∈ t.keys) (value : υ) :
    (t.put key value).size = t.size := by
  rw [size_eq_length_keys, keys_put, if_pos present, size_eq_length_keys]

theorem size_put_le (t : Table κ υ) (key : κ) (value : υ) :
    (t.put key value).size ≤ t.size + 1 := by
  rw [size_eq_length_keys, keys_put, size_eq_length_keys]
  split <;> simp

theorem eq_empty_of_get?_eq_none {t : Table κ υ} (h : ∀ key, t.get? key = none) : t = empty := by
  have none_in : t.entries = [] := by
    rw [List.eq_nil_iff_forall_not_mem]
    rintro ⟨key, value⟩ member
    rw [mem_entries_iff, h key] at member
    cases member
  cases t
  simp_all [empty]

theorem keys_erase (t : Table κ υ) (key : κ) :
    (t.erase key).keys = t.keys.filter (· ≠ key) := by
  simp only [keys, erase, List.filter_map]
  rfl

/-! ### Writes that change nothing -/

theorem put_of_get? {t : Table κ υ} {key : κ} {value : υ} (h : t.get? key = some value) :
    t.put key value = t := by
  cases t
  simp only [put, mk.injEq]
  exact putEntry_of_find? h

theorem erase_of_get?_eq_none {t : Table κ υ} {key : κ} (h : t.get? key = none) :
    t.erase key = t := by
  have other : ∀ entry ∈ t.entries, decide (entry.1 ≠ key) = true := by
    rintro ⟨k, v⟩ member
    rw [decide_eq_true_eq]
    rintro rfl
    rw [mem_entries_iff, h] at member
    cases member
  cases t
  simp only [erase, mk.injEq]
  exact List.filter_eq_self.2 other

end Table

end NodeDataplane
