import NodeDataplane.Document.Yaml
import NodeDataplane.Proofs.Outline.YamlTokens
import NodeDataplane.Proofs.Yaml.NodeReader

/-!
# Outlines in YAML

The tokens of an outline are read as its tree, and the tree as the document of what its texts mean.
Texts of plain scalars may mean numbers, truth values and dates, and some mean nothing at all.

## Main results

- `ofTokens_scan_yaml`: a map that is written in YAML is read as its tree.
- `parse_yaml_iff`: it is read as the map of what its texts mean, if all of them mean something.
-/

namespace NodeDataplane.Outline

open Yaml (Token Tree Takes plainValue)

mutual

/-- The tree of an outline in a YAML text. -/
def tree : Outline → Tree
  | text t => .scalar .plain t.text
  | list items => .sequence none (itemTrees items)
  | map entries => .mapping none (entryTrees entries)

def itemTrees : List Outline → List Tree
  | [] => []
  | item :: rest => tree item :: itemTrees rest

def entryTrees : List (FieldName × Outline) → List (Tree × Tree)
  | [] => []
  | (key, content) :: rest => (.scalar .plain key.text, tree content) :: entryTrees rest

end

theorem exists_startsNode (o : Outline) :
    ∃ t rest, o.tokens = t :: rest ∧ t.startsNode = true := by
  cases o with
  | text t => exact ⟨_, _, rfl, rfl⟩
  | list items =>
    rw [tokens]
    split <;> exact ⟨_, _, rfl, rfl⟩
  | map entries =>
    rw [tokens]
    split <;> exact ⟨_, _, rfl, rfl⟩

/-- Whether a node is read as an outline, with room for its levels and fuel for its tokens. -/
def IsRead (o : Outline) : Prop :=
  ∀ levels fuel indentless, o.depth ≤ levels → 3 * o.tokens.length ≤ fuel →
    Takes levels (Tree.readNode fuel true indentless) o.tokens o.tree

/-! ### Trees -/

theorem takes_items {items : List Outline} (read : ∀ item ∈ items, IsRead item) {levels : Nat}
    (room : ∀ item ∈ items, item.depth ≤ levels) (fuel : Nat)
    (enough : 3 * (itemTokens items).length < fuel) :
    Takes levels (Tree.readBlockItems fuel) (itemTokens items ++ [.blockEnd])
      (itemTrees items) := by
  induction items generalizing fuel with
  | nil =>
    obtain ⟨fuel, rfl⟩ : ∃ n, fuel = n + 1 := ⟨fuel - 1, by omega⟩
    exact Tree.takes_blockEnd_items fuel
  | cons item rest ih =>
    obtain ⟨fuel, rfl⟩ : ∃ n, fuel = n + 1 := ⟨fuel - 1, by omega⟩
    simp only [itemTokens, List.length_cons, List.length_append] at enough
    rw [List.forall_mem_cons] at read room
    have node := read.1 levels fuel false room.1 (by omega)
    have members := ih read.2 room.2 fuel (by omega)
    obtain ⟨t, more, tokens, starts⟩ := exists_startsNode item
    rw [tokens] at node
    simpa [itemTokens, itemTrees, tokens] using Tree.takes_item node starts members

theorem takes_entries {entries : List (FieldName × Outline)}
    (read : ∀ entry ∈ entries, IsRead entry.2) {levels : Nat}
    (room : ∀ entry ∈ entries, entry.2.depth ≤ levels) (fuel : Nat)
    (enough : 3 * (entryTokens entries).length < fuel) :
    Takes levels (Tree.readBlockEntries fuel) (entryTokens entries ++ [.blockEnd])
      (entryTrees entries) := by
  induction entries generalizing fuel with
  | nil =>
    obtain ⟨fuel, rfl⟩ : ∃ n, fuel = n + 1 := ⟨fuel - 1, by omega⟩
    exact Tree.takes_blockEnd_entries fuel
  | cons entry rest ih =>
    obtain ⟨key, content⟩ := entry
    simp only [entryTokens, List.length_cons, List.length_append] at enough
    obtain ⟨fuel, rfl⟩ : ∃ n, fuel = n + 3 := ⟨fuel - 3, by omega⟩
    rw [List.forall_mem_cons] at read room
    have node := read.1 levels fuel true room.1 (by simp only; omega)
    have members := ih read.2 room.2 (fuel + 2) (by omega)
    obtain ⟨t, more, tokens, starts⟩ := exists_startsNode content
    simp only [tokens] at node
    simpa [entryTokens, entryTrees, tokens] using Tree.takes_entry node starts members key.text

theorem isRead (o : Outline) : IsRead o := by
  induction o with
  | text t =>
    intro levels fuel indentless _ enough
    simp only [tokens, List.length_singleton] at enough
    obtain ⟨fuel, rfl⟩ : ∃ n, fuel = n + 1 := ⟨fuel - 1, by omega⟩
    exact Tree.takes_scalar fuel true indentless t.text
  | list items ih =>
    intro levels fuel indentless room enough
    obtain ⟨levels, rfl⟩ : ∃ n, levels = n + 1 := ⟨levels - 1, by rw [depth] at room; omega⟩
    rw [depth, Nat.add_le_add_iff_right, itemsDepth_le_iff] at room
    by_cases empty : items = []
    · subst empty
      obtain ⟨fuel, rfl⟩ : ∃ n, fuel = n + 2 := ⟨fuel - 2, by simp [tokens] at enough; omega⟩
      exact Tree.takes_square fuel true indentless
    · simp only [tokens, List.isEmpty_iff, empty, if_false, List.length_cons, List.length_append]
        at enough ⊢
      obtain ⟨fuel, rfl⟩ : ∃ n, fuel = n + 1 := ⟨fuel - 1, by omega⟩
      exact Tree.takes_list (takes_items ih room fuel (by omega)) indentless
  | map entries ih =>
    intro levels fuel indentless room enough
    obtain ⟨levels, rfl⟩ : ∃ n, levels = n + 1 := ⟨levels - 1, by rw [depth] at room; omega⟩
    rw [depth, Nat.add_le_add_iff_right, entriesDepth_le_iff] at room
    by_cases empty : entries = []
    · subst empty
      obtain ⟨fuel, rfl⟩ : ∃ n, fuel = n + 2 := ⟨fuel - 2, by simp [tokens] at enough; omega⟩
      exact Tree.takes_curly fuel true indentless
    · simp only [tokens, List.isEmpty_iff, empty, if_false, List.length_cons, List.length_append]
        at enough ⊢
      obtain ⟨fuel, rfl⟩ : ∃ n, fuel = n + 1 := ⟨fuel - 1, by omega⟩
      exact Tree.takes_map (takes_entries ih room fuel (by omega)) indentless

/-- A map that is written in YAML is read as its tree, if there is room for it. -/
theorem ofTokens_scan_yaml {entries : List (FieldName × Outline)} (some_entry : entries ≠ [])
    (room : (map entries).depth ≤ Yaml.maxNesting) :
    Tree.ofTokens (Token.scan (yaml (map entries))) = .ok (some (tree (map entries))) := by
  rw [scan_yaml some_entry]
  obtain ⟨t, rest, tokens, starts⟩ := exists_startsNode (map entries)
  have node := isRead (map entries) _ (3 * (t :: rest).length + 3) false room
    (by rw [tokens]; exact Nat.le_add_right _ 3)
  rw [tokens] at node ⊢
  exact Tree.ofTokens_of_takes starts node (Nat.le_refl _)

/-! ### Meaning -/

theorem key_ne (key : FieldName) : key.text ≠ "=" ∧ key.text ≠ "<<" := by
  constructor <;> intro same <;> exact absurd key.word (by rw [same]; decide)

theorem merged_tree (o : Outline) : o.tree.merged = o.tree := by
  induction o with
  | text t => rfl
  | list items ih =>
    have same : Tree.mergedItems (itemTrees items) = itemTrees items := by
      induction items with
      | nil => rfl
      | cons item rest ih' =>
        rw [itemTrees, Tree.mergedItems, ih item List.mem_cons_self,
          ih' fun o mem => ih o (List.mem_cons_of_mem _ mem)]
    simp only [tree, Tree.merged, Tree.isPairsTag_none, same, Bool.false_eq_true, if_false]
  | map entries ih =>
    have same : Tree.mergedEntries (entryTrees entries) = entryTrees entries := by
      induction entries with
      | nil => rfl
      | cons entry rest ih' =>
        rw [entryTrees, Tree.mergedEntries, ih entry List.mem_cons_self,
          ih' fun o mem => ih o (List.mem_cons_of_mem _ mem)]
        rfl
    -- A word is no merge key, so nothing is added to the entries.
    have own : ∀ entry ∈ entryTrees entries, Tree.isMergeKey entry.1 = false := by
      clear ih same
      induction entries with
      | nil => simp [entryTrees]
      | cons entry rest ih =>
        exact List.forall_mem_cons.2 ⟨by simp [Tree.isMergeKey, key_ne], ih⟩
    have parts : (entryTrees entries).partition (Tree.isMergeKey ·.1) =
        ([], entryTrees entries) := by
      rw [List.partition_eq_filter_filter, List.filter_eq_nil_iff.2 (by simpa using own),
        List.filter_eq_self.2 (by simpa using own)]
    rw [tree, Tree.merged, same, Tree.mergedMapping, parts]
    rfl

/-- What a text means in a YAML text, if it means something. -/
def meaning (s : String) : Document := (plainValue s).toOption.getD .null

/-- Whether all texts of an outline mean something in a YAML text. -/
def IsMeaningful (texts : List PlainText) : Prop :=
  ∀ t ∈ texts, plainValue t.text = .ok (meaning t.text)

theorem plainValue_eq_ok_iff {s : String} {d : Document} :
    plainValue s = .ok d ↔ plainValue s = .ok (meaning s) ∧ d = meaning s := by
  unfold meaning
  cases plainValue s with
  | error fault => simp
  | ok value => simp [Except.toOption, eq_comm]

theorem map_eq_ok_iff {ε α β : Type} {f : α → β} {x : Except ε α} {b : β} :
    x.map f = .ok b ↔ ∃ a, x = .ok a ∧ f a = b := by
  cases x <;> simp [Except.map]

theorem mapError_eq_ok_iff {ε ε' α : Type} {f : ε → ε'} {x : Except ε α} {a : α} :
    x.mapError f = .ok a ↔ x = .ok a := by
  cases x with
  | error fault => exact ⟨nofun, nofun⟩
  | ok value =>
    exact ⟨fun same => congrArg _ (Except.ok.inj same), fun same => congrArg _ (Except.ok.inj same)⟩

theorem both_eq_ok_iff {α β : Type} {x : Except Yaml.DeepFault α} {y : Except Yaml.DeepFault β}
    {a : α} {b : β} : Yaml.both x y = .ok (a, b) ↔ x = .ok a ∧ y = .ok b := by
  cases x <;> cases y <;> simp [Yaml.both]

theorem keyOf_key (depth : Nat) (key : FieldName) :
    Yaml.keyOf depth (.scalar .plain key.text) = .ok (.string key.text) := by
  have no_mark : Yaml.isDefaultMark .plain key.text = false := by
    simp [Yaml.isDefaultMark, key_ne]
  simp [Yaml.keyOf, Yaml.scalarKey, no_mark, Yaml.scalarValue, key.means, Yaml.atDepth]
  rfl

/-- A tree is a document if all its texts mean something. -/
theorem documentOf_tree_iff {o : Outline} {depth : Nat} {d : Document} :
    Yaml.documentOf depth o.tree = .ok d ↔ IsMeaningful o.texts ∧ d = o.document meaning := by
  unfold IsMeaningful
  induction o generalizing depth d with
  | text t =>
    simp only [tree, Yaml.documentOf, Yaml.scalarOf, Yaml.scalarValue, Yaml.atDepth,
      mapError_eq_ok_iff, texts, List.forall_mem_singleton, document]
    exact plainValue_eq_ok_iff
  | list items ih =>
    have all {depth : Nat} {ds : List Document} :
        Yaml.itemsOf depth (itemTrees items) = .ok ds ↔
          (∀ t ∈ itemTexts items, plainValue t.text = .ok (meaning t.text)) ∧
            ds = itemDocuments meaning items := by
      induction items generalizing ds with
      | nil => simp [itemTrees, Yaml.itemsOf, itemTexts, itemDocuments, eq_comm]
      | cons item rest ih' =>
        have behind := @ih' fun o mem => ih o (List.mem_cons_of_mem _ mem)
        simp only [itemTrees, Yaml.itemsOf, map_eq_ok_iff, Prod.exists, both_eq_ok_iff,
          ih item List.mem_cons_self, behind, itemTexts, List.forall_mem_append, itemDocuments]
        grind
    simp only [tree, Yaml.documentOf, Tree.isPairsTag_none, Bool.false_eq_true, if_false,
      Yaml.collectionOf, map_eq_ok_iff, all, texts, document]
    grind
  | map entries ih =>
    have all {depth : Nat} {ds : List (Document × Document)} :
        Yaml.entriesOf depth (entryTrees entries) = .ok ds ↔
          (∀ t ∈ entryTexts entries, plainValue t.text = .ok (meaning t.text)) ∧
            ds = entryDocuments meaning entries := by
      induction entries generalizing ds with
      | nil => simp [entryTrees, Yaml.entriesOf, entryTexts, entryDocuments, eq_comm]
      | cons entry rest ih' =>
        have behind := @ih' fun o mem => ih o (List.mem_cons_of_mem _ mem)
        simp only [entryTrees, Yaml.entriesOf, map_eq_ok_iff, Prod.exists, both_eq_ok_iff,
          keyOf_key, ih entry List.mem_cons_self, behind, entryTexts, List.forall_mem_append,
          entryDocuments]
        grind
    simp only [tree, Yaml.documentOf, reduceCtorEq, if_false, Yaml.collectionOf, map_eq_ok_iff, all,
      texts, document]
    grind

/-- Nothing in an outline has a name. -/
theorem isNumbered_tree (o : Outline) : o.tree.isNumbered = false := by
  induction o with
  | text t => rfl
  | list items ih =>
    rw [tree, Tree.isNumbered]
    induction items with
    | nil => rfl
    | cons item rest ih' =>
      rw [List.forall_mem_cons] at ih
      rw [itemTrees, Tree.anyNumbered, ih.1, ih' ih.2]
      rfl
  | map entries ih =>
    rw [tree, Tree.isNumbered]
    induction entries with
    | nil => rfl
    | cons entry rest ih' =>
      rw [List.forall_mem_cons] at ih
      rw [entryTrees, Tree.anyNumberedEntry, ih.1, ih' ih.2]
      rfl

/-- A map that is written in YAML is read as the map of what its texts mean, if all of them mean
something and there is room for it. -/
theorem parse_yaml_iff {entries : List (FieldName × Outline)} (some_entry : entries ≠ [])
    (room : (map entries).depth ≤ Yaml.maxNesting) {d : Document} :
    Yaml.parse (String.ofList (yaml (map entries))) = .ok d ↔
      IsMeaningful (map entries).texts ∧ d = (map entries).document meaning := by
  rw [Yaml.parse, String.toList_ofList, ofTokens_scan_yaml some_entry room, ← documentOf_tree_iff]
  simp only [bind, Except.bind, Tree.toDocument, merged_tree, isNumbered_tree]
  cases Yaml.documentOf 0 (tree (map entries)) <;> simp

end NodeDataplane.Outline
