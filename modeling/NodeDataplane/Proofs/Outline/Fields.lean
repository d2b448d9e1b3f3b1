import NodeDataplane.Proofs.Outline.Basic

/-!
# Maps with named fields

A map is often told by a fixed list of fields, each of which may be there or not. What is looked up
in it is the content of the field, whatever the texts are read as.

## Main results

- `Outline.lookup?_fieldEntries`: a map has the fields of its outline and no others.
- `Outline.forall_texts_ofFields_iff`: the texts of a map are those of its fields.
-/

namespace NodeDataplane

/-! ### Entries by their names -/

namespace Document

theorem sameKey_string_iff {d : Document} {s : String} :
    sameKey d (string s) = true ↔ d = string s := by
  cases d <;> simp [sameKey, number?]
  split <;> simp_all

theorem lookup?_putEntry (entries : List (Document × Document)) (key other : String)
    (value : Document) :
    lookup? other (putEntry entries (string key) value) =
      if key = other then some value else lookup? other entries := by
  induction entries with
  | nil => simp [putEntry, lookup?]
  | cons entry rest ih =>
    obtain ⟨k, v⟩ := entry
    by_cases same : sameKey k (string key) = true
    · rw [putEntry, if_pos same, sameKey_string_iff.1 same]
      simp only [lookup?]
      grind
    · rw [putEntry, if_neg same]
      cases k with
      | string s =>
        have apart : s ≠ key := by simpa [sameKey_string_iff] using same
        simp only [lookup?, ih]
        grind
      | _ => exact ih

end Document

namespace Outline

/-- A field that an outline may have. -/
abbrev Field := FieldName × Option Outline

/-- The fields that are there. -/
def present : List Field → List (FieldName × Outline)
  | [] => []
  | (_, none) :: rest => present rest
  | (key, some content) :: rest => (key, content) :: present rest

def ofFields (fields : List Field) : Outline := map (present fields)

/-- The content of the field with a name. -/
def content? (key : String) : List Field → Option Outline
  | [] => none
  | (name, content) :: rest => if name.text = key then content else content? key rest

theorem content?_of_not_mem {key : String} {fields : List Field}
    (absent : key ∉ fields.map (·.1.text)) : content? key fields = none := by
  induction fields with
  | nil => rfl
  | cons field rest ih =>
    simp only [List.map_cons, List.mem_cons, not_or] at absent
    rw [content?, if_neg (Ne.symm absent.1), ih absent.2]

/-- The entries of the map of some fields, as their texts are read. -/
def fieldEntries (value : String → Document) (fields : List Field) : List (Document × Document) :=
  (entryDocuments value (present fields)).foldl
    (fun done entry => Document.putEntry done entry.1 entry.2) []

theorem document_ofFields (value : String → Document) (fields : List Field) :
    (ofFields fields).document value = .map (fieldEntries value fields) := rfl

/-- A map has the fields of its outline and no others. -/
theorem lookup?_fieldEntries (value : String → Document) {fields : List Field}
    (distinct : (fields.map (·.1.text)).Nodup) (key : String) :
    Document.lookup? key (fieldEntries value fields) =
      (content? key fields).map (document value) := by
  have from_any (before : List (Document × Document)) :
      Document.lookup? key ((entryDocuments value (present fields)).foldl
          (fun done entry => Document.putEntry done entry.1 entry.2) before) =
        ((content? key fields).map (document value)).or (Document.lookup? key before) := by
    induction fields generalizing before with
    | nil => rfl
    | cons field rest ih =>
      obtain ⟨name, content⟩ := field
      simp only [List.map_cons, List.nodup_cons] at distinct
      have once := content?_of_not_mem distinct.1
      cases content with
      | none =>
        rw [present, ih distinct.2, content?]
        split
        next same => rw [← same, once]
        next => rfl
      | some o =>
        rw [present, entryDocuments, List.foldl_cons, ih distinct.2, Document.lookup?_putEntry,
          content?]
        split
        next same => rw [← same, once]; rfl
        next => rfl
  rw [fieldEntries, from_any]
  exact Option.or_none

variable {P : PlainText → Prop}

theorem forall_texts_list_iff {items : List Outline} :
    (∀ t ∈ (list items).texts, P t) ↔ ∀ o ∈ items, ∀ t ∈ o.texts, P t := by
  rw [texts]
  induction items with
  | nil => simp [itemTexts]
  | cons item rest ih =>
    rw [itemTexts, List.forall_mem_append, ih, List.forall_mem_cons]

theorem forall_texts_ofFields_iff {fields : List Field} :
    (∀ t ∈ (ofFields fields).texts, P t) ↔
      ∀ field ∈ fields, ∀ o ∈ field.2, ∀ t ∈ o.texts, P t := by
  rw [ofFields, texts]
  induction fields with
  | nil => simp [present, entryTexts]
  | cons field rest ih =>
    obtain ⟨name, content⟩ := field
    rw [List.forall_mem_cons, ← ih]
    cases content with
    | none => simp [present]
    | some o => simp [present, entryTexts, or_imp, forall_and]

theorem depth_ofFields_le_iff {fields : List Field} {n : Nat} :
    (ofFields fields).depth ≤ n + 1 ↔ ∀ field ∈ fields, ∀ o ∈ field.2, o.depth ≤ n := by
  rw [ofFields, depth, Nat.add_le_add_iff_right]
  induction fields with
  | nil => simp [present, entriesDepth]
  | cons field rest ih =>
    obtain ⟨name, content⟩ := field
    rw [List.forall_mem_cons, ← ih]
    cases content with
    | none => simp [present]
    | some o => simp only [present, entriesDepth, Nat.max_le, Option.mem_some_iff, forall_eq']

theorem itemDocuments_eq_map (value : String → Document) (items : List Outline) :
    itemDocuments value items = items.map (document value) := by
  induction items with
  | nil => rfl
  | cons item rest ih => rw [itemDocuments, ih, List.map_cons]

end Outline

end NodeDataplane
