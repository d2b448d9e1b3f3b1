import NodeDataplane.Proofs.PrimaryAddress
import NodeDataplane.Proofs.RecordOrder
import NodeDataplane.Proofs.Retry

/-!
# Each switch has its own records

One switch of a processor decides whether the address of version 6 is published, and another one
whether blocks are. Two processors that differ in one of them work on the same events. Whatever is
read of a node is read by both, and what is wrong with it is reported by both.

## Main result

`switches_apart`: over a whole run, the switch for version 6 adds one record to every answer, and
the switch for blocks adds the records of blocks, the failures under their labels, and the ledger.

## Proof strategy

The two steps compare what comes of one event under two settings of a switch
(`outcomeOf_withIPv6`, `outcomeOf_withoutBlocks`). The switch for version 6 does not touch the
ledger, so both runs have the same one all along. Without blocks no event touches it, so it stays
empty.
-/

namespace NodeDataplane

namespace ProcessorConfig

def withIPv6 (config : ProcessorConfig) : ProcessorConfig := { config with emitIPv6 := true }

def withoutIPv6 (config : ProcessorConfig) : ProcessorConfig := { config with emitIPv6 := false }

def withBlocks (config : ProcessorConfig) : ProcessorConfig := { config with usePodBlocks := true }

def withoutBlocks (config : ProcessorConfig) : ProcessorConfig :=
  { config with usePodBlocks := false }

end ProcessorConfig

namespace Processor

/-- The record of the primary address of version 6. -/
def ipv6Record (e : NodeEvent) : Record :=
  ⟨.primaryAddress e.name .v6, ((readNode e.node).value.primary .v6).address.map .address,
    e.revision⟩

/-- An outcome without what comes of blocks. -/
def dropBlocks (o : Outcome) : Outcome where
  records := o.records.filter (·.block?.isNone)
  failures := o.failures.filter fun f => !InputField.podBlocks.labels f
  ledger := .empty

/-! ### The switch for version 6 -/

/-- The first setting has a place of its own, and the address of version 6 comes behind it. -/
theorem nodeRecords_ipv6 (config : ProcessorConfig) (e : NodeEvent) :
    ∃ head tail,
      nodeRecords config.withIPv6 e (readNode e.node).value = head :: ipv6Record e :: tail ∧
        nodeRecords config.withoutIPv6 e (readNode e.node).value = head :: tail :=
  ⟨_, _, rfl, rfl⟩

theorem key_ne_of_mem_withoutIPv6 {config : ProcessorConfig} {ledger : BlockLedger} {e : NodeEvent}
    {r : Record} (member : r ∈ (outcomeOf config.withoutIPv6 ledger e).value.records) :
    r.key ≠ .primaryAddress e.name .v6 := by
  rw [records_outcomeOf_eq] at member
  rcases List.mem_append.1 member with setting | block
  · -- Among the settings that are published without the switch there is no such key.
    have listed := List.mem_map_of_mem (f := Record.key) setting
    rw [map_key_nodeRecords, settingKeys_eq] at listed
    have off : config.withoutIPv6.emitIPv6 = false := rfl
    intro same
    rw [same] at listed
    simp [settingOrder, off] at listed
  · split at block
    · obtain ⟨c, keyed⟩ := key_block_of_mem block
      rw [keyed]
      nofun
    · cases block

/-- Two outcomes, the first of which has the address of version 6 besides. It is in the second
place, and the second outcome has no record under its key. -/
structure AddsIPv6 (e : NodeEvent) (first second : Outcome) : Prop where
  records : ∃ head tail, first.records = head :: ipv6Record e :: tail ∧
    second.records = head :: tail
  others : ∀ r ∈ second.records, r.key ≠ .primaryAddress e.name .v6
  failures : first.failures = second.failures
  ledger : first.ledger = second.ledger

theorem outcomeOf_withIPv6 (config : ProcessorConfig) (ledger : BlockLedger) (e : NodeEvent) :
    AddsIPv6 e (outcomeOf config.withIPv6 ledger e).value
      (outcomeOf config.withoutIPv6 ledger e).value := by
  -- Neither blocks nor failures depend on the switch.
  have blocks : publishBlocks config.withIPv6 ledger e =
      publishBlocks config.withoutIPv6 ledger e := rfl
  obtain ⟨head, tail, on, off⟩ := nodeRecords_ipv6 config e
  refine ⟨⟨head, tail ++ (publishBlocks config.withoutIPv6 ledger e).value.records, ?_, ?_⟩,
    fun r => key_ne_of_mem_withoutIPv6, ?_, ?_⟩
  · rw [records_outcomeOf, on, blocks]
    rfl
  · rw [records_outcomeOf, off]
    rfl
  · rw [failures_outcomeOf, failures_outcomeOf, blocks]
  · rw [ledger_outcomeOf, ledger_outcomeOf, blocks]

/-! ### The switch for blocks -/

theorem not_labels_podBlocks_of_mem_failures {reading : NodeReading} {f : FieldFailure}
    (failed : f ∈ reading.failures) : InputField.podBlocks.labels f = false := by
  rw [NodeReading.failures_eq] at failed
  obtain ⟨field, -, told⟩ := List.mem_filterMap.1 failed
  rw [NodeReading.failureAt, FieldResult.failure?, Option.map_eq_some_iff] at told
  obtain ⟨error, -, rfl⟩ := told
  -- Only the labels of blocks have a bracket.
  rw [InputField.labels, ← Bool.not_eq_true, List.isPrefixOf_iff_prefix]
  intro front
  exact field.bracket_not_mem_label (front.subset (by decide))

/-- An outcome tells of every text that its node gives for a block: of one that writes a block by
the record of it, and of one that is invalid by a failure. -/
def TellsBlocks (e : NodeEvent) (o : Outcome) : Prop :=
  ∀ raw ∈ e.node.elim [] (·.podBlocks),
    (∀ c, network? raw = some c →
      ⟨.block c, some (.block ⟨c, hostAffinity e.name⟩), e.revision⟩ ∈ o.records) ∧
    ∀ error, (Field.parse .cidr (some raw) none).error? = some error →
      ⟨blockField raw, error.message⟩ ∈ o.failures

/-- Two outcomes, the first of which is without all that comes of blocks. -/
def LacksBlocks (e : NodeEvent) (first second : Outcome) : Prop :=
  first = dropBlocks second ∧ TellsBlocks e second

theorem tellsBlocks_withBlocks (config : ProcessorConfig) (ledger : BlockLedger) (e : NodeEvent) :
    TellsBlocks e (outcomeOf config.withBlocks ledger e).value := by
  intro raw given
  have on : config.withBlocks.usePodBlocks = true := rfl
  have current : raw ∈ currentBlocks e.node := by
    rw [currentBlocks_eq_firstSeen, mem_firstSeen]
    exact given
  constructor
  · intro c written
    rw [records_outcomeOf_of_pods on]
    refine List.mem_append_right _ (List.mem_append_right _ (mem_blockAssignments_iff.2 ?_))
    exact ⟨c, ⟨raw, current, FieldResult.value?_eq_some_iff.1 written⟩, rfl⟩
  · intro error invalid
    rw [failures_outcomeOf, publishBlocks, if_pos on, failures_blockOutcome]
    refine List.mem_append_right _ (List.mem_filterMap.2 ⟨raw, current, ?_⟩)
    rw [value_blockRecord, FieldResult.failure?, invalid]
    rfl

theorem outcomeOf_withoutBlocks (config : ProcessorConfig) (ledger : BlockLedger) (e : NodeEvent) :
    (outcomeOf config.withoutBlocks .empty e).value =
      dropBlocks (outcomeOf config.withBlocks ledger e).value := by
  have off : config.withoutBlocks.usePodBlocks = false := rfl
  have on : config.withBlocks.usePodBlocks = true := rfl
  ext1
  · -- Settings are no records of blocks, and all that stand behind them are.
    have settings : (nodeRecords config.withBlocks e (readNode e.node).value).filter
        (·.block?.isNone) = nodeRecords config.withBlocks e (readNode e.node).value := by
      rw [List.filter_eq_self]
      intro r setting
      rw [block?_of_mem_nodeRecords setting, Option.isNone_none]
    have blocks : (blockDeletes ledger e ++ blockAssignments e).filter (·.block?.isNone) = [] := by
      rw [List.filter_eq_nil_iff]
      intro r member
      obtain ⟨c, keyed⟩ := key_block_of_mem member
      simp [Record.block?_eq_some_iff.2 keyed]
    rw [records_outcomeOf_of_no_pods off, dropBlocks, records_outcomeOf_of_pods on,
      List.filter_append, settings, blocks, List.append_nil]
    rfl
  · have texts : (readNode e.node).value.failures.filter
        (fun f => !InputField.podBlocks.labels f) = (readNode e.node).value.failures := by
      rw [List.filter_eq_self]
      intro f failed
      rw [not_labels_podBlocks_of_mem_failures failed, Bool.not_false]
    have blocks : (publishBlocks config.withBlocks ledger e).value.failures.filter
        (fun f => !InputField.podBlocks.labels f) = [] :=
      congrArg Remainder.failures (beside_publishBlocks config.withBlocks ledger e)
    rw [failures_outcomeOf_of_no_pods off, dropBlocks, failures_outcomeOf, List.filter_append,
      texts, blocks, List.append_nil]
  · exact ledger_outcomeOf_of_no_pods off .empty e

/-! ### Runs -/

theorem run_cons_toRecord (config : ProcessorConfig) (ledger : BlockLedger) (e : NodeEvent)
    (rest : List NodeEvent) :
    run config ledger ((e :: rest).map NodeEvent.toRecord) =
      (e.toRecord, .ok (outcomeOf config ledger e).value) ::
        run config (outcomeOf config ledger e).value.ledger (rest.map NodeEvent.toRecord) := by
  rw [List.map_cons, run, answer_toRecord]
  rfl

/-- Two runs answer all of some events, and the two outcomes of every event stand in a relation. -/
inductive Compared (Related : NodeEvent → Outcome → Outcome → Prop) :
    List NodeEvent → List (Record × Except EventFault Outcome) →
      List (Record × Except EventFault Outcome) → Prop
  | nil : Compared Related [] [] []
  | cons {e : NodeEvent} {events : List NodeEvent} {o p : Outcome}
      {first second : List (Record × Except EventFault Outcome)} (here : Related e o p)
      (later : Compared Related events first second) :
      Compared Related (e :: events) ((e.toRecord, .ok o) :: first) ((e.toRecord, .ok p) :: second)

theorem run_withIPv6 (config : ProcessorConfig) (ledger : BlockLedger) (events : List NodeEvent) :
    Compared AddsIPv6 events (run config.withIPv6 ledger (events.map NodeEvent.toRecord))
      (run config.withoutIPv6 ledger (events.map NodeEvent.toRecord)) := by
  induction events generalizing ledger with
  | nil => exact .nil
  | cons e rest ih =>
    have here := outcomeOf_withIPv6 config ledger e
    rw [run_cons_toRecord, run_cons_toRecord, here.ledger]
    -- Both runs go on with one ledger, for the record that is inserted leaves it as it is.
    exact .cons here (ih _)

theorem run_withoutBlocks (config : ProcessorConfig) (ledger : BlockLedger)
    (events : List NodeEvent) :
    Compared LacksBlocks events (run config.withoutBlocks .empty (events.map NodeEvent.toRecord))
      (run config.withBlocks ledger (events.map NodeEvent.toRecord)) := by
  induction events generalizing ledger with
  | nil => exact .nil
  | cons e rest ih =>
    have bare := outcomeOf_withoutBlocks config ledger e
    have none_left : (outcomeOf config.withoutBlocks .empty e).value.ledger = .empty := by
      rw [bare]
      rfl
    rw [run_cons_toRecord, run_cons_toRecord, none_left]
    -- The second run goes on with another ledger, and the first one with none still.
    exact .cons ⟨bare, tellsBlocks_withBlocks config ledger e⟩ (ih _)

/-! ### Main result -/

/-- **Each switch has its own records.** Let new processors work on the same events of nodes, all of
which they answer. With the switch for version 6 on, every answer is the one with the switch off and
the address of version 6 in the second place, whatever the other switches are: the other records,
the failures and the ledger are the same, and none of the other records is under its key. With the
switch for blocks on, every text that a node gives for a block is told of, by a record or by a
failure. With the switch off, every answer is that one without the records of blocks and without the
failures under their labels, and the ledger is empty after every event. -/
theorem switches_apart (config : ProcessorConfig) (events : List NodeEvent) :
    let answers (config : ProcessorConfig) :=
      run config .empty (events.map NodeEvent.toRecord)
    Compared AddsIPv6 events (answers config.withIPv6) (answers config.withoutIPv6) ∧
      Compared LacksBlocks events (answers config.withoutBlocks) (answers config.withBlocks) :=
  ⟨run_withIPv6 config .empty events, run_withoutBlocks config .empty events⟩

-- The address of version 6 is inserted; a block, and the failure of another one, are dropped.
example :
    let node : NodeDescriptor := {
      name := "n1"
      addresses := [⟨some "fd00::1", .internal⟩]
      podBlocks := ["10.0.0.0/24", "x"] }
    let e : NodeEvent := ⟨"n1", some node, "1"⟩
    let outcome (config : ProcessorConfig) := (outcomeOf config .empty e).value
    let plain := outcome (.withoutIPv6 {})
    let bare := outcome (.withoutBlocks {})
    let address : IPAddress := .v6 ⟨0xfd000000000000000000000000000001#128, none⟩
    let block : IPNetwork := .v4 (Net.Block.of 0x0a000000#32 24)
    (outcome (.withIPv6 {})).records = plain.records.take 1 ++
        ⟨.primaryAddress "n1" .v6, some (.address address), "1"⟩ :: plain.records.drop 1 ∧
      plain.records = bare.records ++
        [⟨.block block, some (.block ⟨block, hostAffinity "n1"⟩), "1"⟩] ∧
      plain.failures.map (·.field) = ["pod_cidrs[x]"] ∧ bare.failures = [] := by
  decide +kernel

end Processor

end NodeDataplane
