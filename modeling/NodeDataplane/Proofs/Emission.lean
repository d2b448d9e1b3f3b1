import NodeDataplane.Proofs.Publication

/-!
# Blocks among many nodes

Blocks are keyed by their networks alone, while a ledger keeps them apart by nodes. What a sequence
of events about different nodes does to one block is told by the last event that touches it.

## Main results

- `lookup_ledgerBehind_of_mem`: behind the events the ledger knows the current blocks of each node.
- `get?_emitted_of_untouched`, `get?_emitted_of_last`: the last event that touches a block assigns
  it to its node if the node holds it, and deletes it if the node held it before.
-/

namespace NodeDataplane

namespace Processor

def emitted (config : ProcessorConfig) : BlockLedger → List NodeEvent → List Record
  | _, [] => []
  | ledger, e :: rest =>
    let outcome := (outcomeOf config ledger e).value
    outcome.records ++ emitted config outcome.ledger rest

def ledgerBehind (config : ProcessorConfig) : BlockLedger → List NodeEvent → BlockLedger
  | ledger, [] => ledger
  | ledger, e :: rest => ledgerBehind config (outcomeOf config ledger e).value.ledger rest

theorem ledgerBehind_append (config : ProcessorConfig) (ledger : BlockLedger)
    (first second : List NodeEvent) :
    ledgerBehind config ledger (first ++ second) =
      ledgerBehind config (ledgerBehind config ledger first) second := by
  induction first generalizing ledger with
  | nil => rfl
  | cons e rest ih => exact ih _

theorem emitted_append (config : ProcessorConfig) (ledger : BlockLedger)
    (first second : List NodeEvent) :
    emitted config ledger (first ++ second) =
      emitted config ledger first ++ emitted config (ledgerBehind config ledger first) second := by
  induction first generalizing ledger with
  | nil => rfl
  | cons e rest ih =>
    rw [List.cons_append, emitted, ih, emitted, List.append_assoc]
    rfl

section Touches

variable {config : ProcessorConfig} (pods : config.usePodBlocks = true)

include pods

/-! ### The ledger behind events -/

theorem lookup_ledgerBehind_of_forall_ne {events : List NodeEvent} {name : String}
    (h : ∀ e ∈ events, e.name ≠ name) (ledger : BlockLedger) :
    (ledgerBehind config ledger events).lookup name = ledger.lookup name := by
  induction events generalizing ledger with
  | nil => rfl
  | cons e rest ih =>
    rw [List.forall_mem_cons] at h
    exact (ih h.2 _).trans (lookup_outcomeOf_of_ne pods ledger h.1)

theorem lookup_ledgerBehind_of_mem {events : List NodeEvent} {e : NodeEvent}
    (distinct : (events.map (·.name)).Nodup) (member : e ∈ events) (ledger : BlockLedger) :
    (ledgerBehind config ledger events).lookup e.name = currentBlocks e.node := by
  induction events generalizing ledger with
  | nil => cases member
  | cons first rest ih =>
    rw [List.map_cons, List.nodup_cons] at distinct
    rcases List.mem_cons.1 member with rfl | later
    · have others : ∀ x ∈ rest, x.name ≠ e.name := by
        intro x behind same
        exact distinct.1 (same ▸ List.mem_map_of_mem behind)
      exact (lookup_ledgerBehind_of_forall_ne pods others _).trans
        (lookup_outcomeOf_self pods ledger e)
    · exact ih distinct.2 later _

/-! ### What events do to a block -/

theorem get?_emitted_of_untouched {events : List NodeEvent} {ledger : BlockLedger}
    {c : IPNetwork} (distinct : (events.map (·.name)).Nodup)
    (now : ∀ e ∈ events, ¬ c.WrittenIn (currentBlocks e.node))
    (before : ∀ e ∈ events, ¬ c.WrittenIn (ledger.lookup e.name)) (store : Store) :
    (store.writeAll (emitted config ledger events)).get? (.block c) = store.get? (.block c) := by
  induction events generalizing ledger store with
  | nil => rfl
  | cons e rest ih =>
    rw [List.map_cons, List.nodup_cons] at distinct
    rw [List.forall_mem_cons] at now before
    rw [emitted, Store.writeAll_append, ih distinct.2 now.2]
    · exact get?_block_of_foreign pods store before.1 now.1
    · -- The ledger knows the other nodes as it did.
      intro x behind
      have apart : e.name ≠ x.name := fun same =>
        distinct.1 (same ▸ List.mem_map_of_mem behind)
      rw [lookup_outcomeOf_of_ne pods ledger apart]
      exact before.2 x behind

/-- The last event that touches a block says what becomes of it. -/
theorem get?_emitted_of_last {first last : List NodeEvent} {e : NodeEvent} {ledger : BlockLedger}
    {c : IPNetwork} (distinct : ((first ++ e :: last).map (·.name)).Nodup)
    (now : ∀ x ∈ last, ¬ c.WrittenIn (currentBlocks x.node))
    (before : ∀ x ∈ last, ¬ c.WrittenIn (ledger.lookup x.name)) (store : Store) :
    (c.WrittenIn (currentBlocks e.node) →
      (store.writeAll (emitted config ledger (first ++ e :: last))).get? (.block c) =
        some (.block ⟨c, hostAffinity e.name⟩)) ∧
    (¬ c.WrittenIn (currentBlocks e.node) → c.WrittenIn (ledger.lookup e.name) →
      (store.writeAll (emitted config ledger (first ++ e :: last))).get? (.block c) = none) := by
  rw [List.map_append, List.map_cons, List.nodup_append, List.nodup_cons] at distinct
  obtain ⟨-, ⟨alone, distinct⟩, apart⟩ := distinct
  have start : ∀ x ∈ first, x.name ≠ e.name := fun x member =>
    apart x.name (List.mem_map_of_mem member) e.name List.mem_cons_self
  -- Behind the event, the ledger knows the nodes that are still to come as it did at first.
  have still : ∀ x ∈ last, ¬ c.WrittenIn
      ((outcomeOf config (ledgerBehind config ledger first) e).value.ledger.lookup x.name) := by
    intro x member
    have behind : e.name ≠ x.name := fun same => alone (same ▸ List.mem_map_of_mem member)
    have earlier : ∀ y ∈ first, y.name ≠ x.name := fun y there =>
      apart y.name (List.mem_map_of_mem there) x.name
        (List.mem_cons_of_mem _ (List.mem_map_of_mem member))
    rw [lookup_outcomeOf_of_ne pods _ behind, lookup_ledgerBehind_of_forall_ne pods earlier]
    exact before x member
  -- What the last ones emit does not touch the block, so the event itself decides.
  rw [emitted_append, emitted, Store.writeAll_append, Store.writeAll_append,
    get?_emitted_of_untouched pods distinct now still]
  constructor
  · intro held
    exact get?_block_of_held pods _ _ held
  · intro gone lost
    refine get?_block_of_lost pods _ ?_ gone
    rw [lookup_ledgerBehind_of_forall_ne pods start]
    exact lost

end Touches

end Processor

end NodeDataplane
