import NodeDataplane.Proofs.Changes
import NodeDataplane.Proofs.Emission

/-!
# Blocks that move between nodes

One look of a watcher announces all changes between two tables of nodes. A block that one node holds
before and another one holds behind the look is assigned by the event about the one and deleted by
the event about the other, so the order of these two events decides.

## Main results

With tables in which no block has two holders:

- `get?_emitted_of_gained`: a block is assigned to a changed node that holds it, if the node that
  held it before stands in front of that node in the new table.
- `get?_emitted_of_lost`: it is deleted if no such node stands in front of its new holder, or if
  there is no new holder.
- `get?_emitted_of_kept`: it is left alone if no node that changes has to do with it.
-/

namespace NodeDataplane

/-! ### Who holds a block -/

/-- Whether a node of a table has a text that writes a block. -/
def Holds (state : NodeTable) (name : String) (c : IPNetwork) : Prop :=
  ∃ node, state.get? name = some node ∧ c.WrittenIn node.podBlocks

/-- No block has two holders. -/
def Exclusive (state : NodeTable) : Prop :=
  ∀ c a b, Holds state a c → Holds state b c → a = b

theorem writtenIn_currentBlocks_iff {state : NodeTable} {name : String} {c : IPNetwork} :
    c.WrittenIn (Processor.currentBlocks (state.get? name)) ↔ Holds state name c := by
  cases present : state.get? name with
  | none => simp [Holds, present, Processor.currentBlocks, IPNetwork.WrittenIn]
  | some node =>
    simp only [Holds, present, Option.some.injEq, exists_eq_left']
    exact IPNetwork.writtenIn_firstSeen

theorem not_holds_empty (name : String) (c : IPNetwork) : ¬ Holds .empty name c := by
  rintro ⟨node, present, _⟩
  cases present

theorem exclusive_empty : Exclusive .empty :=
  fun c a _ held _ => absurd held (not_holds_empty a c)

theorem Holds.mem_keys {state : NodeTable} {name : String} {c : IPNetwork}
    (held : Holds state name c) : name ∈ state.keys := by
  obtain ⟨node, present, _⟩ := held
  rw [← Table.get?_isSome_iff, present]
  rfl

/-! ### Which event comes first -/

theorem not_sublist_swap {α : Type} {a b : α} {l : List α} (distinct : l.Nodup)
    (first : [a, b].Sublist l) : ¬ [b, a].Sublist l := by
  induction l with
  | nil => cases first
  | cons x rest ih =>
    rw [List.nodup_cons] at distinct
    intro second
    -- If one of the two stands first, the other pair finds it once more in the rest.
    cases first with
    | cons _ first =>
      cases second with
      | cons _ second => exact ih distinct.2 first second
      | cons_cons _ second => exact distinct.1 (first.subset (by simp))
    | cons_cons _ first =>
      cases second with
      | cons _ second => exact distinct.1 (second.subset (by simp))
      | cons_cons _ second => exact distinct.1 (first.subset (by simp))

theorem sublist_of_mem_behind {α : Type} {a b : α} {first last : List α} (behind : b ∈ last) :
    [a, b].Sublist (first ++ a :: last) := by
  have pair : [a, b].Sublist (a :: last) := (List.singleton_sublist.2 behind).cons_cons a
  exact pair.trans (List.sublist_append_right first (a :: last))

section Look

variable {revision : String} {old new : NodeTable}

/-- A node that is there is announced behind another one just if the other one stands in front of
it in the new table. -/
theorem sublist_names_iff {a b : String} (first : old.get? a ≠ new.get? a)
    (second : old.get? b ≠ new.get? b) (present : b ∈ new.keys) :
    [a, b].Sublist ((changes revision old new).map (·.name)) ↔ [a, b].Sublist new.keys := by
  have names : (changes revision old new).map (·.name) =
      (new.keys.filter fun name => old.get? name ≠ new.get? name) ++ goneNames old new := by
    rw [changes, List.map_append, map_name_upserts, map_name_deletes]
  have here : b ∉ goneNames old new := by
    intro gone
    rw [← Table.get?_isSome_iff, (mem_goneNames_iff.1 gone).2] at present
    cases present
  rw [names]
  constructor
  · intro ordered
    obtain ⟨front, back, split, listed, gone⟩ := List.sublist_append_iff.1 ordered
    -- The second name is not gone, so nothing of the pair is among the names that are.
    have empty : back = [] := by
      rcases List.eq_nil_or_concat back with empty | ⟨others, last, rfl⟩
      · exact empty
      · have same : b = last := by
          have ends := congrArg List.getLast? split
          simpa using ends
        exact absurd (gone.subset (by simp [same])) here
    rw [empty, List.append_nil] at split
    rw [split]
    exact listed.trans List.filter_sublist
  · intro ordered
    have kept := ordered.filter fun name => decide (old.get? name ≠ new.get? name)
    rw [List.filter_cons_of_pos (by simpa using first),
      List.filter_cons_of_pos (by simpa using second), List.filter_nil] at kept
    exact kept.trans (List.sublist_append_left _ _)

theorem exists_split_changes (revision : String) {name : String}
    (changed : old.get? name ≠ new.get? name) :
    ∃ first last, changes revision old new = first ++ ⟨name, new.get? name, revision⟩ :: last ∧
      ∀ x ∈ last, x ∈ changes revision old new ∧ x.name ≠ name ∧
        [name, x.name].Sublist ((changes revision old new).map (·.name)) := by
  have event : (⟨name, new.get? name, revision⟩ : NodeEvent) ∈ changes revision old new :=
    mem_changes_iff.2 ⟨changed, rfl⟩
  obtain ⟨first, last, split⟩ := List.append_of_mem event
  refine ⟨first, last, split, ?_⟩
  intro x member
  have named : x.name ∈ last.map (·.name) := List.mem_map_of_mem member
  have distinct : ((changes revision old new).map (·.name)).Nodup := nodup_map_name_changes
  rw [split, List.map_append, List.map_cons] at distinct ⊢
  refine ⟨by simp [member], ?_, sublist_of_mem_behind named⟩
  intro same
  rw [List.nodup_append, List.nodup_cons] at distinct
  exact distinct.2.1.1 (same ▸ named)

/-! ### What a look does to a block -/

variable {config : ProcessorConfig} {ledger : BlockLedger}

open Processor

/-- The ledger knows the blocks of every node of a table, and of no other node. -/
def Knows (ledger : BlockLedger) (state : NodeTable) : Prop :=
  ∀ name, ledger.lookup name = currentBlocks (state.get? name)

theorem Knows.writtenIn_iff (knows : Knows ledger old) {name : String} {c : IPNetwork} :
    c.WrittenIn (ledger.lookup name) ↔ Holds old name c := by
  rw [knows name, writtenIn_currentBlocks_iff]

theorem writtenIn_of_mem_changes {e : NodeEvent} (member : e ∈ changes revision old new)
    {c : IPNetwork} : c.WrittenIn (currentBlocks e.node) ↔ Holds new e.name c := by
  rw [(mem_changes_iff.1 member).2]
  exact writtenIn_currentBlocks_iff

theorem Knows.ledgerBehind_changes (pods : config.usePodBlocks = true) (knows : Knows ledger old) :
    Knows (ledgerBehind config ledger (changes revision old new)) new := by
  intro name
  by_cases same : old.get? name = new.get? name
  · -- There is no event about the node, so the ledger keeps what it knows.
    have silent : ∀ e ∈ changes revision old new, e.name ≠ name := by
      intro e member about
      apply (mem_changes_iff.1 member).1
      rw [about, same]
    rw [lookup_ledgerBehind_of_forall_ne pods silent, knows name, same]
  · have event : (⟨name, new.get? name, revision⟩ : NodeEvent) ∈ changes revision old new :=
      mem_changes_iff.2 ⟨same, rfl⟩
    exact lookup_ledgerBehind_of_mem pods nodup_map_name_changes event ledger

variable {c : IPNetwork} (pods : config.usePodBlocks = true) (knows : Knows ledger old)

include pods knows

theorem get?_emitted_of_kept
    (idle : ∀ name, old.get? name ≠ new.get? name → ¬ Holds old name c ∧ ¬ Holds new name c)
    (store : Store) :
    (store.writeAll (emitted config ledger (changes revision old new))).get? (.block c) =
      store.get? (.block c) := by
  apply get?_emitted_of_untouched pods nodup_map_name_changes
  · intro e member held
    rw [writtenIn_of_mem_changes member] at held
    exact (idle e.name (mem_changes_iff.1 member).1).2 held
  · intro e member held
    rw [knows.writtenIn_iff] at held
    exact (idle e.name (mem_changes_iff.1 member).1).1 held

theorem get?_emitted_of_gained {name : String} (exclusive : Exclusive new)
    (held : Holds new name c) (changed : old.get? name ≠ new.get? name)
    (front : ∀ other, other ≠ name → Holds old other c → [other, name].Sublist new.keys)
    (store : Store) :
    (store.writeAll (emitted config ledger (changes revision old new))).get? (.block c) =
      some (.block ⟨c, hostAffinity name⟩) := by
  obtain ⟨first, last, split, behind⟩ := exists_split_changes revision changed
  have distinct : ((changes revision old new).map (·.name)).Nodup := nodup_map_name_changes
  have now : ∀ x ∈ last, ¬ c.WrittenIn (currentBlocks x.node) := by
    intro x member written
    obtain ⟨event, apart, _⟩ := behind x member
    exact apart (exclusive c x.name name ((writtenIn_of_mem_changes event).1 written) held)
  have before : ∀ x ∈ last, ¬ c.WrittenIn (ledger.lookup x.name) := by
    intro x member written
    obtain ⟨event, apart, after⟩ := behind x member
    -- A holder before stands in front, so the event about it is not among the last ones.
    have ordered := front x.name apart (knows.writtenIn_iff.1 written)
    rw [← sublist_names_iff (mem_changes_iff.1 event).1 changed held.mem_keys] at ordered
    exact not_sublist_swap distinct ordered after
  rw [split] at distinct ⊢
  exact (get?_emitted_of_last pods distinct now before store).1
    (writtenIn_currentBlocks_iff.2 held)

theorem get?_emitted_of_lost {name : String} (exclusive : Exclusive old)
    (held : Holds old name c) (gone : ¬ Holds new name c)
    (behind : ∀ other, Holds new other c → ¬ [name, other].Sublist new.keys) (store : Store) :
    (store.writeAll (emitted config ledger (changes revision old new))).get? (.block c) = none := by
  have changed : old.get? name ≠ new.get? name := by
    intro same
    rw [Holds, same] at held
    exact gone held
  obtain ⟨first, last, split, after⟩ := exists_split_changes revision changed
  have distinct : ((changes revision old new).map (·.name)).Nodup := nodup_map_name_changes
  have now : ∀ x ∈ last, ¬ c.WrittenIn (currentBlocks x.node) := by
    intro x member written
    obtain ⟨event, _, ordered⟩ := after x member
    -- A holder that is announced later would stand behind in the new table.
    have new_holder := (writtenIn_of_mem_changes event).1 written
    rw [sublist_names_iff changed (mem_changes_iff.1 event).1 new_holder.mem_keys] at ordered
    exact behind x.name new_holder ordered
  have before : ∀ x ∈ last, ¬ c.WrittenIn (ledger.lookup x.name) := by
    intro x member written
    obtain ⟨_, apart, _⟩ := after x member
    exact apart (exclusive c x.name name (knows.writtenIn_iff.1 written) held)
  rw [split] at distinct ⊢
  exact (get?_emitted_of_last pods distinct now before store).2
    (mt writtenIn_currentBlocks_iff.1 gone) (knows.writtenIn_iff.2 held)

end Look

end NodeDataplane
