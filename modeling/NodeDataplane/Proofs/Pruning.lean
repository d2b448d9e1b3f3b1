import NodeDataplane.Proofs.Emission
import NodeDataplane.Proofs.Interleaving
import Mathlib.Data.List.Induction

/-!
# Pruning the ledger

When a node is gone, a processor either drops its entry from the ledger or keeps it without blocks.
Nobody can tell from the results which of the two it does; but only a processor that drops entries
has a ledger without the nodes that are gone.

## Main result

`results_pruning`: a processor that prunes gives the results of one that does not, its ledger lacks
nothing but nodes without blocks, and it knows no node whose last event took it away.

## Proof strategy

An event is answered by the look-up of its node alone, and a look-up does not tell a node without
blocks from one that is unknown. So it is enough that two ledgers stay alike to look-ups, along with
the inclusion of their nodes (`PrunedFrom`). What an event does to the nodes is told by
`mem_nodes_outcomeOf`.
-/

namespace NodeDataplane

def ProcessorConfig.pruning (config : ProcessorConfig) : ProcessorConfig :=
  { config with pruneOnDelete := true }

def ProcessorConfig.keeping (config : ProcessorConfig) : ProcessorConfig :=
  { config with pruneOnDelete := false }

namespace BlockLedger

/-- A ledger that lacks nothing of another one but nodes without blocks. -/
structure PrunedFrom (pruned kept : BlockLedger) : Prop where
  lookup : ∀ name, pruned.lookup name = kept.lookup name
  nodes : ∀ name ∈ pruned.nodes, name ∈ kept.nodes
  dropped : ∀ name ∈ kept.nodes, name ∉ pruned.nodes → kept.lookup name = []

/-- An unknown node is looked up as one without blocks. -/
theorem PrunedFrom.of_lookup {pruned kept : BlockLedger}
    (lookup : ∀ name, pruned.lookup name = kept.lookup name)
    (nodes : ∀ name ∈ pruned.nodes, name ∈ kept.nodes) : pruned.PrunedFrom kept where
  lookup := lookup
  nodes := nodes
  dropped := by
    intro name _ absent
    rw [← lookup, lookup_of_not_mem absent]

theorem PrunedFrom.refl (ledger : BlockLedger) : ledger.PrunedFrom ledger :=
  .of_lookup (fun _ => rfl) (fun _ member => member)

end BlockLedger

namespace Processor

variable {config : ProcessorConfig}

/-! ### One event -/

theorem mem_nodes_outcomeOf (pods : config.usePodBlocks = true) {ledger : BlockLedger}
    {e : NodeEvent} {name : String} :
    name ∈ (outcomeOf config ledger e).value.ledger.nodes ↔
      (name ∈ ledger.nodes ∨ name = e.name ∧ currentBlocks e.node ≠ []) ∧
        ¬ (name = e.name ∧ e.node = none ∧ config.pruneOnDelete = true) := by
  rw [ledger_outcomeOf_of_pods pods, value_updateLedger]
  split
  next forgotten =>
    simp only [Bool.and_eq_true, Option.isNone_iff_eq_none] at forgotten
    simp [BlockLedger.nodes_forget, BlockLedger.mem_nodes_record, forgotten]
  next stays =>
    simp only [Bool.and_eq_true, Option.isNone_iff_eq_none] at stays
    simp [BlockLedger.mem_nodes_record, stays]

section Step

variable (config) {pruned kept : BlockLedger}

/-- Whatever a ledger lacks, the event gives the same. -/
theorem result_outcomeOf_of_prunedFrom (alike : pruned.PrunedFrom kept) (e : NodeEvent) :
    (outcomeOf config.pruning pruned e).value.result =
      (outcomeOf config.keeping kept e).value.result := by
  -- What is read and what the ledger tells are the same; the switch is looked at only later.
  rw [result_outcomeOf_congr (alike.lookup e.name), result_outcomeOf, result_outcomeOf]
  rfl

theorem prunedFrom_outcomeOf (alike : pruned.PrunedFrom kept) (e : NodeEvent) :
    (outcomeOf config.pruning pruned e).value.ledger.PrunedFrom
      (outcomeOf config.keeping kept e).value.ledger := by
  cases pods : config.usePodBlocks with
  | false =>
    rw [@ledger_outcomeOf_of_no_pods config.pruning pods,
      @ledger_outcomeOf_of_no_pods config.keeping pods]
    exact alike
  | true =>
    apply BlockLedger.PrunedFrom.of_lookup
    · intro name
      by_cases same : e.name = name
      · subst same
        rw [@lookup_outcomeOf_self config.pruning pods, @lookup_outcomeOf_self config.keeping pods]
      · rw [lookup_outcomeOf_of_other _ _ same, lookup_outcomeOf_of_other _ _ same]
        exact alike.lookup name
    · intro name member
      rw [@mem_nodes_outcomeOf config.pruning pods] at member
      rw [@mem_nodes_outcomeOf config.keeping pods]
      -- Nothing is ever dropped on the right.
      have stays : config.keeping.pruneOnDelete ≠ true := Bool.false_ne_true
      obtain ⟨known | entered, -⟩ := member
      · exact ⟨Or.inl (alike.nodes name known), fun dropped => stays dropped.2.2⟩
      · exact ⟨Or.inr entered, fun dropped => stays dropped.2.2⟩

end Step

/-! ### Runs of events -/

theorem ledgerBehind_of_no_pods (bare : config.usePodBlocks = false) (ledger : BlockLedger)
    (events : List NodeEvent) : ledgerBehind config ledger events = ledger := by
  induction events with
  | nil => rfl
  | cons e rest ih => rw [ledgerBehind, ledger_outcomeOf_of_no_pods bare, ih]

theorem results_of_prunedFrom (config : ProcessorConfig) (events : List NodeEvent)
    {pruned kept : BlockLedger} (alike : pruned.PrunedFrom kept) :
    results config.pruning pruned (events.map NodeEvent.toRecord) =
        results config.keeping kept (events.map NodeEvent.toRecord) ∧
      (ledgerBehind config.pruning pruned events).PrunedFrom
        (ledgerBehind config.keeping kept events) := by
  induction events generalizing pruned kept with
  | nil => exact ⟨rfl, alike⟩
  | cons e rest ih =>
    have result := result_outcomeOf_of_prunedFrom config alike e
    obtain ⟨others, still⟩ := ih (prunedFrom_outcomeOf config alike e)
    constructor
    · rw [List.map_cons, results_cons, results_cons, answer_toRecord, answer_toRecord]
      simp only [settle, Except.map, result, others]
    · rw [ledgerBehind, ledgerBehind]
      exact still

/-- A node whose last event took it away is dropped by this event, and no later one is about it. -/
theorem not_mem_nodes_of_last_gone (config : ProcessorConfig) {events : List NodeEvent}
    {e : NodeEvent} {name : String}
    (last : (events.filter fun e => e.name = name).getLast? = some e) (gone : e.node = none) :
    name ∉ (ledgerBehind config.pruning .empty events).nodes := by
  cases pods : config.usePodBlocks with
  | false =>
    rw [@ledgerBehind_of_no_pods config.pruning pods]
    exact List.not_mem_nil
  | true =>
    induction events using List.reverseRecOn with
    | nil => simp at last
    | append_singleton before latest ih =>
      rw [ledgerBehind_append, ledgerBehind, ledgerBehind,
        @mem_nodes_outcomeOf config.pruning pods]
      rw [List.filter_append] at last
      by_cases about : latest.name = name
      · -- The latest event is the one that took the node away.
        have here : latest = e := by simpa [about] using last
        subst here
        rintro ⟨-, stays⟩
        exact stays ⟨about.symm, gone, rfl⟩
      · have earlier : (before.filter fun e => e.name = name).getLast? = some e := by
          simpa [about] using last
        rintro ⟨known | ⟨same, -⟩, -⟩
        · exact ih earlier known
        · exact about same.symm

/-! ### Main result -/

/-- **Pruning is not seen from outside.** Let two new processors that differ only in whether they
prune work on the same events of nodes. All results are the same. Their ledgers, after any number of
events, look up the same for every name; the one that prunes knows no other nodes, and lacks only
nodes without blocks. It does not know a node whose last event took the node away. -/
theorem results_pruning (config : ProcessorConfig) (events : List NodeEvent) :
    results config.pruning .empty (events.map NodeEvent.toRecord) =
        results config.keeping .empty (events.map NodeEvent.toRecord) ∧
      (∀ count, (ledgerBehind config.pruning .empty (events.take count)).PrunedFrom
        (ledgerBehind config.keeping .empty (events.take count))) ∧
      ∀ name e, (events.filter fun e => e.name = name).getLast? = some e → e.node = none →
        name ∉ (ledgerBehind config.pruning .empty events).nodes := by
  have start : BlockLedger.empty.PrunedFrom .empty := .refl .empty
  refine ⟨(results_of_prunedFrom config events start).1, ?_, ?_⟩
  · intro count
    exact (results_of_prunedFrom config (events.take count) start).2
  · intro name e last gone
    exact not_mem_nodes_of_last_gone config last gone

/-- One node comes back after it was gone, with another block, and one stays away. -/
theorem results_pruning_of_returning_node :
    let events : List NodeEvent :=
      [⟨"a", some { name := "a", podBlocks := ["10.0.0.0/24"] }, "1"⟩,
        ⟨"a", none, "2"⟩,
        ⟨"b", some { name := "b", podBlocks := ["10.0.0.0/24"] }, "3"⟩,
        ⟨"b", none, "4"⟩,
        ⟨"a", some { name := "a", podBlocks := ["10.0.1.0/24"] }, "5"⟩]
    let pruned := ledgerBehind (ProcessorConfig.pruning {}) .empty events
    let kept := ledgerBehind (ProcessorConfig.keeping {}) .empty events
    results (ProcessorConfig.pruning {}) .empty (events.map NodeEvent.toRecord) =
        results (ProcessorConfig.keeping {}) .empty (events.map NodeEvent.toRecord) ∧
      pruned.PrunedFrom kept ∧
      (events.filter fun e => e.name = "b").getLast? = some ⟨"b", none, "4"⟩ ∧
      "b" ∉ pruned.nodes ∧ pruned.nodes = ["a"] ∧ kept.nodes = ["a", "b"] := by
  intro events pruned kept
  obtain ⟨same, alike, dropped⟩ := results_pruning {} events
  have last : (events.filter fun e => e.name = "b").getLast? = some ⟨"b", none, "4"⟩ := by decide
  refine ⟨same, alike events.length, last, dropped "b" _ last rfl, ?_, ?_⟩
  · decide +kernel
  · decide +kernel

end Processor

end NodeDataplane
