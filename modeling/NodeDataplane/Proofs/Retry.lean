import NodeDataplane.Proofs.Publication
import NodeDataplane.Registry

/-!
# Handling an event again

A processor takes the blocks of an event over into its ledger before any sink is reached, and a sink
that fails does not undo that. Whoever hands the event in once more gets what the ledger makes of it
by then.

## Main results

- `Processor.outcomeOf_again`: the same event again gives the records of the first time without the
  deletes of blocks, the same failures, and leaves the ledger as it is.
- `Processor.answers_repeated`: so all answers to a repeated event but the first are the same.
- `Registry.handle_again`: so a retry hands on less than the attempt just if the attempt took a
  block away.

## Proof strategy

After an event the ledger knows the current blocks of its node. To be told what it knows already
takes nothing away and changes nothing, also where the entry of the node was dropped.
-/

namespace NodeDataplane

attribute [ext] Outcome

def Record.isBlockDelete (r : Record) : Bool :=
  match r.key with
  | .block _ => r.isDelete
  | _ => false

namespace Processor

/-! ### Records without the deletes of blocks -/

theorem isBlockDelete_of_mem_blockDeletes {ledger : BlockLedger} {e : NodeEvent} {r : Record}
    (member : r ∈ blockDeletes ledger e) : r.isBlockDelete = true := by
  obtain ⟨c, _, rfl⟩ := mem_blockDeletes_iff.1 member
  rfl

theorem isBlockDelete_of_mem_blockAssignments {e : NodeEvent} {r : Record}
    (member : r ∈ blockAssignments e) : r.isBlockDelete = false := by
  obtain ⟨c, _, rfl⟩ := mem_blockAssignments_iff.1 member
  rfl

theorem isBlockDelete_of_mem_nodeRecords {config : ProcessorConfig} {e : NodeEvent}
    {reading : NodeReading} {r : Record} (member : r ∈ nodeRecords config e reading) :
    r.isBlockDelete = false := by
  have setting := key_nodeRecords_ne_block member
  unfold Record.isBlockDelete
  split
  next c same => exact absurd same (setting c)
  next => rfl

theorem filter_nodeRecords (config : ProcessorConfig) (e : NodeEvent) (reading : NodeReading) :
    (nodeRecords config e reading).filter (fun r => !r.isBlockDelete) =
      nodeRecords config e reading := by
  rw [List.filter_eq_self]
  intro r member
  rw [isBlockDelete_of_mem_nodeRecords member, Bool.not_false]

theorem filter_records_outcomeOf {config : ProcessorConfig} (pods : config.usePodBlocks = true)
    (ledger : BlockLedger) (e : NodeEvent) :
    (outcomeOf config ledger e).value.records.filter (fun r => !r.isBlockDelete) =
      nodeRecords config e (readNode e.node).value ++ blockAssignments e := by
  have deletes : (blockDeletes ledger e).filter (fun r => !r.isBlockDelete) = [] := by
    rw [List.filter_eq_nil_iff]
    intro r member
    simp [isBlockDelete_of_mem_blockDeletes member]
  have assignments :
      (blockAssignments e).filter (fun r => !r.isBlockDelete) = blockAssignments e := by
    rw [List.filter_eq_self]
    intro r member
    rw [isBlockDelete_of_mem_blockAssignments member, Bool.not_false]
  rw [records_outcomeOf_of_pods pods, List.filter_append, List.filter_append, filter_nodeRecords,
    deletes, assignments, List.nil_append]

/-- Nothing is left out just if no block is taken away. -/
theorem filter_records_outcomeOf_eq_iff (config : ProcessorConfig) (ledger : BlockLedger)
    (e : NodeEvent) :
    (outcomeOf config ledger e).value.records.filter (fun r => !r.isBlockDelete) =
        (outcomeOf config ledger e).value.records ↔
      (config.usePodBlocks = true →
        ∀ c : IPNetwork, ¬ c.WrittenIn (ledger.removals e.name (currentBlocks e.node))) := by
  cases pods : config.usePodBlocks with
  | false =>
    rw [records_outcomeOf_of_no_pods pods]
    exact iff_of_true (filter_nodeRecords config e _) nofun
  | true =>
    rw [List.filter_eq_self, eq_self_iff_true, true_imp_iff]
    constructor
    · intro kept c lost
      have delete : ⟨.block c, none, e.revision⟩ ∈ blockDeletes ledger e :=
        mem_blockDeletes_iff.2 ⟨c, lost, rfl⟩
      have given : (⟨.block c, none, e.revision⟩ : Record) ∈
          (outcomeOf config ledger e).value.records := by
        rw [records_outcomeOf_of_pods pods]
        exact List.mem_append_right _ (List.mem_append_left _ delete)
      exact absurd (kept _ given) (by simp [isBlockDelete_of_mem_blockDeletes delete])
    · intro none_lost r member
      rw [records_outcomeOf_of_pods pods] at member
      rcases List.mem_append.1 member with setting | block
      · rw [isBlockDelete_of_mem_nodeRecords setting, Bool.not_false]
      · rcases List.mem_append.1 block with delete | assignment
        · obtain ⟨c, lost, _⟩ := mem_blockDeletes_iff.1 delete
          exact absurd lost (none_lost c)
        · rw [isBlockDelete_of_mem_blockAssignments assignment, Bool.not_false]

/-! ### The same event again -/

/-- An event that the ledger has taken in takes nothing away and changes nothing. -/
theorem value_updateLedger_again (config : ProcessorConfig) (ledger : BlockLedger) (e : NodeEvent) :
    (updateLedger config (updateLedger config ledger e).value.2 e).value =
      ([], (updateLedger config ledger e).value.2) := by
  have known := lookup_updateLedger_self config ledger e
  rw [value_updateLedger config (updateLedger config ledger e).value.2,
    BlockLedger.removals_of_lookup known,
    BlockLedger.record_of_lookup (known.trans (firstSeen_currentBlocks e.node).symm)]
  split
  next pruned =>
    -- The entry of the node was dropped the first time.
    have dropped : e.name ∉ (updateLedger config ledger e).value.2.nodes := by
      rw [value_updateLedger, if_pos pruned, BlockLedger.nodes_forget]
      simp
    rw [BlockLedger.forget_of_not_mem dropped]
  next => rfl

theorem outcomeOf_again (config : ProcessorConfig) (ledger : BlockLedger) (e : NodeEvent) :
    let first := (outcomeOf config ledger e).value
    (outcomeOf config first.ledger e).value =
      { first with records := first.records.filter fun r => !r.isBlockDelete } := by
  intro first
  cases pods : config.usePodBlocks with
  | false =>
    -- Without blocks the ledger has no part in it.
    have all : first.records.filter (fun r => !r.isBlockDelete) = first.records :=
      (filter_records_outcomeOf_eq_iff config ledger e).2 (by simp [pods])
    rw [all]
    exact congrArg (fun l => (outcomeOf config l e).value)
      (ledger_outcomeOf_of_no_pods pods ledger e)
  | true =>
    have updated : first.ledger = (updateLedger config ledger e).value.2 :=
      ledger_outcomeOf_of_pods pods ledger e
    ext1
    · have nothing : blockDeletes first.ledger e = [] := by
        rw [blockDeletes, BlockLedger.removals_of_lookup (lookup_outcomeOf_self pods ledger e)]
        rfl
      rw [filter_records_outcomeOf pods, records_outcomeOf_of_pods pods, nothing, List.nil_append]
    · rw [failures_outcomeOf_of_pods pods]
      exact (failures_outcomeOf_of_pods pods ledger e).symm
    · rw [ledger_outcomeOf_of_pods pods, updated, value_updateLedger_again]

/-- What comes of an event with the ledger that it leaves behind comes of it every time. -/
theorem run_replicate_of_settled {config : ProcessorConfig} {e : NodeEvent} {o : Outcome}
    (settled : (outcomeOf config o.ledger e).value = o) (count : Nat) :
    run config o.ledger (List.replicate count e.toRecord) =
      List.replicate count (e.toRecord, .ok o) := by
  induction count with
  | zero => rfl
  | succ count ih =>
    rw [List.replicate_succ, run, answer_toRecord, settled, settle, ih, List.replicate_succ]

/-- **An event that is repeated changes nothing more.** With any switches and any ledger, let a
processor work on the same event of a node again and again. The first answer may take blocks away.
All later answers are the first one without these deletes: the other records are the same and in the
same order, the failures are the same, and the ledger stays as the first answer left it, with every
node in its place. -/
theorem answers_repeated (config : ProcessorConfig) (ledger : BlockLedger) (e : NodeEvent) :
    ∃ first again : Outcome,
      again.records = first.records.filter (fun r => !r.isBlockDelete) ∧
      again.failures = first.failures ∧ again.ledger = first.ledger ∧
      ∀ count, run config ledger (List.replicate (count + 1) e.toRecord) =
        (e.toRecord, .ok first) :: List.replicate count (e.toRecord, .ok again) := by
  let first := (outcomeOf config ledger e).value
  let again := { first with records := first.records.filter fun r => !r.isBlockDelete }
  refine ⟨first, again, rfl, rfl, rfl, fun count => ?_⟩
  -- The second answer leaves the ledger that it was given, so it comes every time from then on.
  have settled : (outcomeOf config again.ledger e).value = again := outcomeOf_again config ledger e
  have later : run config first.ledger (List.replicate count e.toRecord) =
      List.replicate count (e.toRecord, .ok again) := run_replicate_of_settled settled count
  rw [List.replicate_succ, run, answer_toRecord, settle, later]

-- The delete of a block that the node held is in the first answer and in none behind it.
example :
    let came : NodeEvent := ⟨"a", some { name := "a", podBlocks := ["10.0.0.0/24"] }, "1"⟩
    let gone : NodeEvent := ⟨"a", none, "2"⟩
    let settings := nodeRecords {} gone .absent
    let answers := run {} (outcomeOf {} .empty came).value.ledger (List.replicate 3 gone.toRecord)
    answers.filterMap (·.2.toOption.map (·.records)) =
      [settings ++ [⟨.block (.v4 (Net.Block.of 0x0a000000#32 24)), none, "2"⟩], settings,
        settings] := by
  decide +kernel

end Processor

/-! ### Main result -/

namespace Registry

open Processor

/-- A ledger among many takes an event in once and for all. -/
theorem setLedger_again (plant : Plant) (number : Nat) (config : ProcessorConfig) (e : NodeEvent) :
    let first := (outcomeOf config (plant.ledger number) e).value
    let taken := plant.setLedger number first.ledger
    let second := (outcomeOf config (taken.ledger number) e).value
    second.records = first.records.filter (fun r => !r.isBlockDelete) ∧
      taken.setLedger number second.ledger = taken := by
  intro first taken second
  by_cases there : number < plant.ledgers.length
  · have again : second =
        { first with records := first.records.filter fun r => !r.isBlockDelete } := by
      simp only [second, taken, Plant.ledger_setLedger there]
      exact outcomeOf_again config (plant.ledger number) e
    rw [again, Plant.setLedger_setLedger]
    exact ⟨rfl, rfl⟩
  · -- Without a ledger nothing is kept, but then nothing was there to be taken away.
    have missing : plant.ledgers.length ≤ number := Nat.le_of_not_lt there
    have same : taken = plant := Plant.setLedger_of_length_le missing _
    have unknown : plant.ledger number = .empty := by
      simp [Plant.ledger, missing]
    simp only [second, same]
    refine ⟨?_, Plant.setLedger_of_length_le missing _⟩
    refine ((filter_records_outcomeOf_eq_iff config _ e).2 fun _ c lost => ?_).symm
    obtain ⟨raw, removed, _⟩ := lost
    rw [unknown] at removed
    cases removed

/-- **A retry repeats an attempt but for the deletes of blocks.** Let a registry handle a node event
by a processor of nodes, and handle the same event again, with any sinks each time and whether or
not one of them fails. The second time the sinks are handed the records of the first time without
the deletes of blocks, and the ledgers stay as the first time left them. So the two times give the
same records if and only if the event takes no block away that the ledger knew. -/
theorem handle_again {registry : Registry} {plant : Plant} {worker number starts : Nat}
    {config : ProcessorConfig} (bound : registry.bindings.get? nodeKind = some worker)
    (works : plant.workers[worker]? = some ⟨.node config number, starts⟩) (sinks : List Sink)
    (e : NodeEvent) :
    let attempt := (outcomeOf config (plant.ledger number) e).value.records
    let retry := attempt.filter fun r => !r.isBlockDelete
    let first := (registry.handle plant e.toRecord).value
    let again := ({ registry with sinks }.handle first.plant e.toRecord).value
    first.received = (deliver registry.sinks attempt).received ∧
      again.received = (deliver sinks retry).received ∧
      again.plant = first.plant ∧
      (retry = attempt ↔ (config.usePodBlocks = true → ∀ c : IPNetwork,
        ¬ c.WrittenIn ((plant.ledger number).removals e.name (currentBlocks e.node)))) := by
  intro attempt retry first again
  have handled : first = _ := value_handle_of_node bound works e
  have still : first.plant.workers[worker]? = some ⟨.node config number, starts⟩ := by
    rw [handled]
    exact works
  have repeated : again = _ := @value_handle_of_node { registry with sinks } _ _ _ _ _ bound still e
  obtain ⟨records, unchanged⟩ := setLedger_again plant number config e
  simp only [handled] at repeated ⊢
  rw [records, unchanged] at repeated
  rw [repeated]
  exact ⟨rfl, rfl, rfl, filter_records_outcomeOf_eq_iff config _ e⟩

/-! ### A block that is taken away -/

/-- A registry with one processor of nodes, and the processor after a node with one block came. -/
def sampleRegistry (sinks : List Sink) : Registry := ⟨Table.empty.put nodeKind 0, sinks⟩

def samplePlant : Plant :=
  ((sampleRegistry []).handle ⟨[.empty], [⟨.node {} 0, 0⟩]⟩
    (NodeEvent.toRecord ⟨"a", some { name := "a", podBlocks := ["10.0.0.0/24"] }, "1"⟩)).value.plant

theorem workers_samplePlant : samplePlant.workers[0]? = some ⟨.node {} 0, 0⟩ := by
  decide +kernel

theorem answer_sampleRegistry :
    ((sampleRegistry [.failing, .recording]).handle samplePlant
      (NodeEvent.toRecord ⟨"a", none, "2"⟩)).value.answer = .error .sink := by
  rw [value_handle_of_node rfl workers_samplePlant]
  rfl

/-- The first sink fails on the event that the node is gone. -/
theorem handle_again_of_failed :
    (sampleRegistry [.failing, .recording]).bindings.get? nodeKind = some 0 ∧
      samplePlant.workers[0]? = some ⟨.node {} 0, 0⟩ ∧
      let attempt := (outcomeOf {} (samplePlant.ledger 0) ⟨"a", none, "2"⟩).value.records
      let retry := attempt.filter fun r => !r.isBlockDelete
      let first := ((sampleRegistry [.failing, .recording]).handle samplePlant
        (NodeEvent.toRecord ⟨"a", none, "2"⟩)).value
      first.answer = .error .sink ∧ first.received = [attempt] ∧
        ((sampleRegistry [.recording, .recording]).handle first.plant
          (NodeEvent.toRecord ⟨"a", none, "2"⟩)).value.received = [retry, retry] ∧
        retry ≠ attempt := by
  have bound : (sampleRegistry [.failing, .recording]).bindings.get? nodeKind = some 0 := rfl
  obtain ⟨first, again, -, same⟩ :=
    handle_again bound workers_samplePlant [.recording, .recording] ⟨"a", none, "2"⟩
  refine ⟨bound, workers_samplePlant, answer_sampleRegistry, first, again, ?_⟩
  -- The ledger knows the block of the node, and the event takes it away.
  intro kept
  refine same.1 kept rfl (.v4 (Net.Block.of 0x0a000000#32 24)) ⟨"10.0.0.0/24", ?_, ?_⟩
  · decide +kernel
  · decide +kernel

/-- A sink that the attempt did not reach never gets the delete of the block: the retry reaches both
sinks and has it no more. -/
theorem delete_missing_in_retry :
    let delete : Record := ⟨.block (.v4 (Net.Block.of 0x0a000000#32 24)), none, "2"⟩
    let first := ((sampleRegistry [.failing, .recording]).handle samplePlant
      (NodeEvent.toRecord ⟨"a", none, "2"⟩)).value
    let again := ((sampleRegistry [.recording, .recording]).handle first.plant
      (NodeEvent.toRecord ⟨"a", none, "2"⟩)).value
    first.answer = .error .sink ∧ first.received.length = 1 ∧
      delete ∈ first.received.flatten ∧ again.received.length = 2 ∧
      delete ∉ again.received.flatten := by
  intro delete first again
  refine ⟨answer_sampleRegistry, ?_⟩
  decide +kernel

end Registry

end NodeDataplane
