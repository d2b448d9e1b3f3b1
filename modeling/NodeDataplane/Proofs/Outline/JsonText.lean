import NodeDataplane.Proofs.Outline.Basic

/-!
# Outlines in JSON

An outline that is written in JSON is read as the document of its texts.

## Main results

- `parse_json`: reading takes back what is written.
-/

namespace NodeDataplane.Outline

open Json (readString readText readValue readItems readEntries skipSpace)

/-! ### Strings -/

/-- A character is read from what it is written as. -/
theorem readString_escape {c : Char} (visible : 0x20 ≤ c.toNat) (fuel : Nat) (more : List Char) :
    readString (fuel + 1) (escape c ++ more) =
      (readString fuel more).map fun (cs, rest) => (c :: cs, rest) := by
  by_cases marked : c = '"' ∨ c = '\\'
  · rcases marked with rfl | rfl <;> rfl
  · rw [not_or] at marked
    have plain : escape c ++ more = c :: more := by simp [escape, marked]
    have inside : (c.toNat < 0x20 || c == '\\') = false := by simp [marked.2, visible]
    rw [plain, readString, inside]
    · rfl
    all_goals simp [marked]

theorem readString_quote {cs : List Char} (visible : ∀ c ∈ cs, 0x20 ≤ c.toNat) {fuel : Nat}
    (enough : cs.length < fuel) (more : List Char) :
    readString fuel (cs.flatMap escape ++ '"' :: more) = .ok (cs, more) := by
  induction cs generalizing fuel with
  | nil =>
    obtain ⟨fuel, rfl⟩ : ∃ n, fuel = n + 1 := ⟨fuel - 1, by omega⟩
    rfl
  | cons c cs ih =>
    simp only [List.forall_mem_cons] at visible
    simp only [List.length_cons] at enough
    obtain ⟨fuel, rfl⟩ : ∃ n, fuel = n + 1 := ⟨fuel - 1, by omega⟩
    rw [List.flatMap_cons, List.append_assoc, readString_escape visible.1,
      ih visible.2 (by omega)]
    rfl

theorem length_le_flatMap_escape (cs : List Char) : cs.length ≤ (cs.flatMap escape).length := by
  induction cs with
  | nil => simp
  | cons c cs ih =>
    have one : 1 ≤ (escape c).length := by
      rw [escape]
      split <;> simp
    rw [List.flatMap_cons, List.length_append, List.length_cons]
    omega

theorem readText_quote {s : String} (visible : ∀ c ∈ s.toList, 0x20 ≤ c.toNat) (more : List Char) :
    readText (s.toList.flatMap escape ++ '"' :: more) = .ok (s, more) := by
  have enough : s.toList.length <
      (s.toList.flatMap escape ++ '"' :: more).length + 1 := by
    have := length_le_flatMap_escape s.toList
    rw [List.length_append]
    omega
  rw [readText, readString_quote visible enough]
  simp [Except.map]

theorem visible_of_lineChar {c : Char} (line : Yaml.isLineChar c = true) : 0x20 ≤ c.toNat := by
  have all : ∀ n < 0x20, Yaml.isLineChar (Char.ofNat n) = false := by decide
  refine Nat.not_lt.1 fun low => ?_
  have here := all c.toNat low
  rw [Char.ofNat_toNat, line] at here
  cases here

theorem visible_text (t : PlainText) : ∀ c ∈ t.text.toList, 0x20 ≤ c.toNat :=
  fun c mem => visible_of_lineChar (lineChar_text t c mem)

theorem visible_key (key : FieldName) : ∀ c ∈ key.text.toList, 0x20 ≤ c.toNat :=
  fun c mem => visible_of_lineChar (lineChar_key key c mem)

/-! ### Values -/

/-- Whether a JSON text is read as an outline, given room for its levels and fuel enough. -/
def IsReadJson (o : Outline) : Prop :=
  ∀ fuel levels more, (json o).length ≤ fuel → o.depth ≤ levels →
    readValue fuel levels (json o ++ more) = .ok (o.document .string, more)

theorem skipSpace_json (o : Outline) (more : List Char) :
    skipSpace (json o ++ more) = json o ++ more := by
  cases o <;> rfl

theorem readItems_json {items : List Outline} (read : ∀ item ∈ items, IsReadJson item)
    (some_item : items ≠ []) {levels : Nat} (room : ∀ item ∈ items, item.depth ≤ levels) (fuel : Nat)
    (enough : (jsonItems items).length < fuel) (more : List Char) :
    readItems fuel levels (jsonItems items ++ ']' :: more) =
      .ok (itemDocuments .string items, more) := by
  induction items generalizing fuel with
  | nil => exact absurd rfl some_item
  | cons item rest ih =>
    obtain ⟨fuel, rfl⟩ : ∃ n, fuel = n + 1 := ⟨fuel - 1, by omega⟩
    simp only [jsonItems, List.length_append] at enough
    rw [List.forall_mem_cons] at read room
    have first (more : List Char) := read.1 fuel levels more (by omega) room.1
    by_cases last : rest = []
    · subst last
      simp only [jsonItems, List.isEmpty_nil, if_true, List.append_nil]
      rw [readItems, first]
      rfl
    · simp only [List.isEmpty_iff, last, if_false, List.length_cons] at enough
      have behind := ih read.2 last room.2 fuel (by omega)
      have next : skipSpace (' ' :: (jsonItems rest ++ ']' :: more)) =
          jsonItems rest ++ ']' :: more := by
        cases rest with
        | nil => exact absurd rfl last
        | cons item rest =>
          simp only [jsonItems, List.append_assoc]
          exact skipSpace_json item _
      have comma : skipSpace (',' :: ' ' :: (jsonItems rest ++ ']' :: more)) =
          ',' :: ' ' :: (jsonItems rest ++ ']' :: more) := rfl
      simp only [jsonItems, List.isEmpty_iff, last, if_false, List.append_assoc, List.cons_append]
      rw [readItems, first]
      simp only [bind, Except.bind, comma, next, behind]
      rfl

theorem readEntries_json {entries : List (FieldName × Outline)}
    (read : ∀ entry ∈ entries, IsReadJson entry.2) (some_entry : entries ≠ []) {levels : Nat}
    (room : ∀ entry ∈ entries, entry.2.depth ≤ levels) (fuel : Nat)
    (enough : (jsonEntries entries).length < fuel) (more : List Char) :
    readEntries fuel levels (jsonEntries entries ++ '\x7d' :: more) =
      .ok (entryDocuments .string entries, more) := by
  induction entries generalizing fuel with
  | nil => exact absurd rfl some_entry
  | cons entry rest ih =>
    obtain ⟨key, content⟩ := entry
    obtain ⟨fuel, rfl⟩ : ∃ n, fuel = n + 1 := ⟨fuel - 1, by omega⟩
    simp only [jsonEntries, List.length_append, List.length_cons] at enough
    rw [List.forall_mem_cons] at read room
    have name (more : List Char) := readText_quote (visible_key key) more
    have first (more : List Char) :
        readValue fuel levels (json content ++ more) = .ok (content.document .string, more) :=
      read.1 fuel levels more (by simp only; omega) room.1
    have colon (more : List Char) : skipSpace (':' :: more) = ':' :: more := rfl
    have value (more : List Char) : skipSpace (' ' :: (json content ++ more)) =
        json content ++ more := skipSpace_json content more
    by_cases last : rest = []
    · subst last
      have brace : skipSpace ('\x7d' :: more) = '\x7d' :: more := rfl
      simp only [jsonEntries, quote, List.isEmpty_nil, if_true, List.append_nil, List.append_assoc,
        List.cons_append, List.nil_append]
      rw [readEntries]
      simp only [bind, Except.bind, name, colon, value, first, brace]
      rfl
    · simp only [List.isEmpty_iff, last, if_false, List.length_cons] at enough
      have behind := ih read.2 last room.2 fuel (by omega)
      have next : skipSpace (' ' :: (jsonEntries rest ++ '\x7d' :: more)) =
          jsonEntries rest ++ '\x7d' :: more := by
        cases rest with
        | nil => exact absurd rfl last
        | cons entry rest => rfl
      have comma (more : List Char) : skipSpace (',' :: more) = ',' :: more := rfl
      simp only [jsonEntries, quote, List.isEmpty_iff, last, if_false, List.append_assoc,
        List.cons_append, List.nil_append]
      rw [readEntries]
      simp only [bind, Except.bind, name, colon, value, first, comma, next, behind]
      rfl

/-- Brackets with something behind them that does not close them are read as a list. -/
theorem readValue_square {c : Char} (other : c ≠ ']') (visible : Json.isSpace c = false)
    (fuel levels : Nat) (cs : List Char) :
    readValue (fuel + 1) (levels + 1) ('[' :: c :: cs) =
      (readItems fuel levels (c :: cs)).map fun (items, rest) => (.list items, rest) := by
  have here : skipSpace (c :: cs) = c :: cs := by simp [skipSpace, visible]
  rw [readValue, if_neg (Nat.succ_ne_zero levels), here]
  split <;> simp_all

theorem isReadJson (o : Outline) : IsReadJson o := by
  induction o with
  | text t =>
    intro fuel levels more enough _
    obtain ⟨fuel, rfl⟩ : ∃ n, fuel = n + 1 := ⟨fuel - 1, by simp [json, quote] at enough; omega⟩
    have text := readText_quote (visible_text t) more
    simp only [json, quote, List.append_assoc, List.cons_append, List.nil_append]
    rw [readValue, text]
    rfl
  | list items ih =>
    intro fuel levels more enough room
    obtain ⟨levels, rfl⟩ : ∃ n, levels = n + 1 := ⟨levels - 1, by rw [depth] at room; omega⟩
    rw [depth, Nat.add_le_add_iff_right, itemsDepth_le_iff] at room
    simp only [json, List.length_append, List.length_cons] at enough
    obtain ⟨fuel, rfl⟩ : ∃ n, fuel = n + 1 := ⟨fuel - 1, by omega⟩
    by_cases empty : items = []
    · subst empty
      rfl
    · have members := readItems_json ih empty room fuel (by omega) more
      -- A member starts neither with a space nor like the end of an empty list.
      obtain ⟨c, cs, front, other, visible⟩ : ∃ c cs, jsonItems items ++ ']' :: more = c :: cs ∧
          c ≠ ']' ∧ Json.isSpace c = false := by
        cases items with
        | nil => exact absurd rfl empty
        | cons item rest => cases item <;> exact ⟨_, _, rfl, by decide, rfl⟩
      rw [front] at members
      simp only [json, List.append_assoc, List.cons_append, List.nil_append, front]
      rw [readValue_square other visible, members]
      rfl
  | map entries ih =>
    intro fuel levels more enough room
    obtain ⟨levels, rfl⟩ : ∃ n, levels = n + 1 := ⟨levels - 1, by rw [depth] at room; omega⟩
    rw [depth, Nat.add_le_add_iff_right, entriesDepth_le_iff] at room
    simp only [json, List.length_append, List.length_cons] at enough
    obtain ⟨fuel, rfl⟩ : ∃ n, fuel = n + 1 := ⟨fuel - 1, by omega⟩
    by_cases empty : entries = []
    · subst empty
      rfl
    · have members := readEntries_json ih empty room fuel (by omega) more
      obtain ⟨cs, front⟩ : ∃ cs, jsonEntries entries ++ '\x7d' :: more = '"' :: cs := by
        cases entries with
        | nil => exact absurd rfl empty
        | cons entry rest => exact ⟨_, rfl⟩
      have here : skipSpace ('"' :: cs) = '"' :: cs := rfl
      rw [front] at members
      simp only [json, List.append_assoc, List.cons_append, List.nil_append, front]
      rw [readValue, if_neg (Nat.succ_ne_zero levels), here]
      exact congrArg (Except.map fun x => (Document.ofEntries x.1, x.2)) members

/-- An outline that is written in JSON is read as the document of its texts, if there is room. -/
theorem parse_json [Loader] {o : Outline} (room : o.depth ≤ Loader.levels) :
    Json.parse (String.ofList (json o)) = .ok (o.document .string) := by
  have front : skipSpace (json o) = json o := by
    have := skipSpace_json o []
    rwa [List.append_nil] at this
  have read := isReadJson o (2 * (json o).length + 2) Loader.levels [] (by omega) room
  rw [List.append_nil] at read
  rw [Json.parse, String.toList_ofList]
  simp only [front, bind, Except.bind, read]
  rfl

/-! ### Characters -/

theorem visible_quote {s : String} (visible : ∀ c ∈ s.toList, 0x20 ≤ c.toNat) :
    ∀ c ∈ quote s, 0x20 ≤ c.toNat := by
  have written : ∀ c ∈ s.toList.flatMap escape, 0x20 ≤ c.toNat := by
    intro c mem
    obtain ⟨d, here, escaped⟩ := List.mem_flatMap.1 mem
    have visible' := visible d here
    rw [escape] at escaped
    split at escaped
    · simp only [List.mem_cons, List.not_mem_nil, or_false] at escaped
      rcases escaped with rfl | rfl
      · decide
      · exact visible'
    · rwa [List.mem_singleton.1 escaped]
  simp only [quote, List.forall_mem_append, List.forall_mem_cons]
  exact ⟨⟨by decide, written⟩, by decide, nofun⟩

theorem visible_json (o : Outline) : ∀ c ∈ json o, 0x20 ≤ c.toNat := by
  induction o with
  | text t => exact visible_quote (visible_text t)
  | list items ih =>
    have members : ∀ c ∈ jsonItems items, 0x20 ≤ c.toNat := by
      induction items with
      | nil => simp [jsonItems]
      | cons item rest ih' =>
        simp only [List.forall_mem_cons] at ih
        have behind := ih' ih.2
        rw [jsonItems, List.forall_mem_append]
        refine ⟨ih.1, ?_⟩
        split
        · simp
        · exact List.forall_mem_cons.2 ⟨by decide, List.forall_mem_cons.2 ⟨by decide, behind⟩⟩
    simp only [json, List.forall_mem_append, List.forall_mem_cons]
    exact ⟨⟨by decide, members⟩, by decide, nofun⟩
  | map entries ih =>
    have members : ∀ c ∈ jsonEntries entries, 0x20 ≤ c.toNat := by
      induction entries with
      | nil => simp [jsonEntries]
      | cons entry rest ih' =>
        simp only [List.forall_mem_cons] at ih
        have behind := ih' ih.2
        simp only [jsonEntries, List.forall_mem_append, List.forall_mem_cons]
        refine ⟨⟨visible_quote (visible_key entry.1), by decide, by decide, ih.1⟩, ?_⟩
        split
        · simp
        · exact List.forall_mem_cons.2 ⟨by decide, List.forall_mem_cons.2 ⟨by decide, behind⟩⟩
    simp only [json, List.forall_mem_append, List.forall_mem_cons]
    exact ⟨⟨by decide, members⟩, by decide, nofun⟩

theorem return_not_mem_json (o : Outline) : '\r' ∉ json o :=
  fun mem => absurd (visible_json o '\r' mem) (by decide)

end NodeDataplane.Outline
