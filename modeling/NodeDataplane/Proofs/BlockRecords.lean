import Mathlib.Data.List.Pairwise
import NodeDataplane.Proofs.Interleaving

/-!
# How many records a block gets

The ledger tells blocks apart by their texts, and the records by the networks that the texts write.
Repetitions of a text are left out, and a text that is kept is not taken away. Two spellings of one
block are two texts, and each has its own record.

## Main result

`block_records_of_reached`: with any ledger that processors have come to, an event gives one record
for every text that writes a block and that the node held or holds. So no block has two records
exactly if these texts write different blocks.

## Proof strategy

What the ledger holds for a node has no repetitions. This is so of the empty ledger, and every event
keeps it so (`distinct_settle`): it puts the current texts of its node in, each once, and leaves all
other nodes.
-/

namespace NodeDataplane

/-- The block that a record is about, if it is about one. -/
def Record.block? (r : Record) : Option IPNetwork :=
  match r.key with
  | .block c => some c
  | _ => none

theorem Record.block?_eq_some_iff {r : Record} {c : IPNetwork} :
    r.block? = some c ↔ r.key = .block c := by
  unfold block?
  split
  next d same => simp [same]
  next other => exact ⟨nofun, fun same => absurd same (other c)⟩

/-- The block that a text writes. -/
def network? (raw : String) : Option IPNetwork := (Field.parse .cidr (some raw) none).value?

/-- No two of some texts write the same block. -/
def OneSpelling (raws : List String) : Prop :=
  ∀ raw ∈ raws, ∀ other ∈ raws, ∀ c : IPNetwork,
    network? raw = some c → network? other = some c → raw = other

theorem nodup_filterMap_iff {α β : Type} {f : α → Option β} {xs : List α} (distinct : xs.Nodup) :
    (xs.filterMap f).Nodup ↔
      ∀ x ∈ xs, ∀ y ∈ xs, ∀ z, f x = some z → f y = some z → x = y := by
  rw [List.Nodup, List.pairwise_filterMap]
  constructor
  · intro apart x hx y hy z fx fy
    by_contra different
    have symmetric : Std.Symm fun x y => ∀ z, f x = some z → ∀ z', f y = some z' → z ≠ z' :=
      ⟨fun x y apart z fy z' fx => (apart z' fx z fy).symm⟩
    exact apart.forall hx hy different z fx z fy rfl
  · intro one
    refine distinct.imp_of_mem fun hx hy different z fx z' fy same => ?_
    subst same
    exact different (one _ hx _ hy z fx fy)

namespace Processor

open BlockLedger (Distinct)

/-! ### Ledgers that processors come to -/

/-- The ledgers behind events, from the empty one on. The processors that share a ledger may be set
up differently. -/
inductive Reached : BlockLedger → Prop
  | empty : Reached .empty
  | settle {ledger : BlockLedger} (before : Reached ledger) (config : ProcessorConfig)
      (event : Record) : Reached (settle ledger (answer config ledger event))

theorem distinct_settle {ledger : BlockLedger} (distinct : Distinct ledger)
    (config : ProcessorConfig) (event : Record) :
    Distinct (settle ledger (answer config ledger event)) := by
  rcases refused_or_toRecord config event with ⟨fault, refused⟩ | ⟨e, rfl⟩
  · rw [refused ledger]
    exact distinct
  · rw [answer_toRecord]
    intro name
    by_cases about : e.name = name
    · subst about
      cases pods : config.usePodBlocks with
      | false =>
        rw [settle, ledger_outcomeOf_of_no_pods pods]
        exact distinct e.name
      | true =>
        -- The node holds its current texts now, whatever it held before.
        rw [settle, lookup_outcomeOf_self pods]
        exact nodup_currentBlocks e.node
    · -- An event of another node leaves what this one holds.
      rw [settle, lookup_outcomeOf_of_other config ledger about]
      exact distinct name

theorem Reached.distinct {ledger : BlockLedger} (reached : Reached ledger) : Distinct ledger := by
  induction reached with
  | empty => exact BlockLedger.distinct_empty
  | settle before config event ih => exact distinct_settle ih config event

theorem Reached.ledgerAfter {ledger : BlockLedger} (reached : Reached ledger)
    (config : ProcessorConfig) (events : List Record) :
    Reached (ledgerAfter config ledger events) := by
  induction events generalizing ledger with
  | nil => exact reached
  | cons event rest ih => exact ih (reached.settle config event)

/-! ### The records of blocks -/

theorem currentBlocks_eq_firstSeen (node : Option NodeDescriptor) :
    currentBlocks node = firstSeen (node.elim [] (·.podBlocks)) := by
  cases node <;> rfl

theorem nodup_removals_append {ledger : BlockLedger} (distinct : Distinct ledger)
    (e : NodeEvent) :
    (ledger.removals e.name (currentBlocks e.node) ++ currentBlocks e.node).Nodup := by
  refine List.nodup_append.2 ⟨(distinct e.name).filter _, nodup_currentBlocks e.node, ?_⟩
  rintro raw gone other current rfl
  exact (BlockLedger.mem_removals.1 gone).2 current

theorem block?_of_mem_nodeRecords {config : ProcessorConfig} {e : NodeEvent} {reading : NodeReading}
    {r : Record} (setting : r ∈ nodeRecords config e reading) : r.block? = none := by
  rw [Option.eq_none_iff_forall_ne_some]
  exact fun c block => key_nodeRecords_ne_block setting c (Record.block?_eq_some_iff.1 block)

theorem filter_block?_outcomeOf {config : ProcessorConfig} (pods : config.usePodBlocks = true)
    (ledger : BlockLedger) (e : NodeEvent) :
    (outcomeOf config ledger e).value.records.filter (·.block?.isSome) =
      blockDeletes ledger e ++ blockAssignments e := by
  have settings : (nodeRecords config e (readNode e.node).value).filter (·.block?.isSome) = [] := by
    rw [List.filter_eq_nil_iff]
    intro r setting
    simp [block?_of_mem_nodeRecords setting]
  rw [records_outcomeOf_of_pods pods, List.filter_append, settings, List.nil_append,
    List.filter_eq_self]
  intro r member
  obtain ⟨c, block⟩ := key_block_of_mem member
  rw [Record.block?_eq_some_iff.2 block]
  rfl

/-- There is a record for every text that writes a block, of those that are gone and then of those
that the node holds. -/
theorem filterMap_block?_outcomeOf {config : ProcessorConfig} (pods : config.usePodBlocks = true)
    (ledger : BlockLedger) (e : NodeEvent) :
    (outcomeOf config ledger e).value.records.filterMap Record.block? =
      (ledger.removals e.name (currentBlocks e.node) ++ currentBlocks e.node).filterMap
        network? := by
  -- A delete and an assignment are about the block that their text writes.
  have same_block (raw : String) (value : IPNetwork → Option Value) :
      ((network? raw).map fun c => (⟨.block c, value c, e.revision⟩ : Record)).bind Record.block? =
        network? raw := by
    cases network? raw <;> rfl
  have settings : (nodeRecords config e (readNode e.node).value).filterMap Record.block? = [] :=
    List.filterMap_eq_nil_iff.2 fun r => block?_of_mem_nodeRecords
  rw [records_outcomeOf_of_pods pods, List.filterMap_append, settings, List.nil_append,
    List.filterMap_append, blockDeletes, blockAssignments, List.filterMap_filterMap,
    List.filterMap_filterMap, List.filterMap_append]
  congr 1
  · exact congrArg (List.filterMap · _) (funext fun raw => same_block raw fun _ => none)
  · exact congrArg (List.filterMap · _) (funext fun raw =>
      same_block raw fun c => some (.block ⟨c, hostAffinity e.name⟩))

/-- **One record for every spelling of a block.** With any ledger that processors have come to, an
event gives a delete for every text of a block that is gone, and then an assignment for every text
that the node holds, each once. So no block has two records exactly if no two of these texts write
the same block; a text that is kept, or repeated, gets one record in any case. -/
theorem block_records_of_reached {config : ProcessorConfig} (pods : config.usePodBlocks = true)
    {ledger : BlockLedger} (reached : Reached ledger) (e : NodeEvent) :
    let current := firstSeen (e.node.elim [] (·.podBlocks))
    let gone := (ledger.lookup e.name).filter (· ∉ current)
    ∃ outcome, answer config ledger e.toRecord = .ok outcome ∧
      (gone ++ current).Nodup ∧
      outcome.records.filter (·.block?.isSome) =
        gone.filterMap (fun raw => (network? raw).map fun c => ⟨.block c, none, e.revision⟩) ++
          current.filterMap (fun raw => (network? raw).map fun c =>
            ⟨.block c, some (.block ⟨c, hostAffinity e.name⟩), e.revision⟩) ∧
      ((outcome.records.filterMap Record.block?).Nodup ↔ OneSpelling (gone ++ current)) := by
  rw [← currentBlocks_eq_firstSeen]
  have distinct := nodup_removals_append reached.distinct e
  refine ⟨_, answer_toRecord config ledger e, distinct, filter_block?_outcomeOf pods ledger e, ?_⟩
  rw [filterMap_block?_outcomeOf pods, nodup_filterMap_iff distinct]
  exact Iff.rfl

/-- A text that the node held already, and that is given twice. -/
theorem block_records_of_reached_of_kept_text :
    let held := NodeEvent.toRecord ⟨"a", some { name := "a", podBlocks := ["10.0.0.0/24"] }, "1"⟩
    let kept : NodeEvent :=
      ⟨"a", some { name := "a", podBlocks := ["10.0.0.0/24", "10.0.0.0/24"] }, "2"⟩
    ∃ outcome, answer {} (ledgerAfter {} .empty [held]) kept.toRecord = .ok outcome ∧
      (outcome.records.filterMap Record.block?).Nodup := by
  intro held kept
  have pods : ({} : ProcessorConfig).usePodBlocks = true := rfl
  have reached : Reached (ledgerAfter {} .empty [held]) := Reached.empty.ledgerAfter {} [held]
  have before : (ledgerAfter {} .empty [held]).lookup kept.name = ["10.0.0.0/24"] := by
    decide +kernel
  obtain ⟨outcome, answered, -, -, nodup⟩ := block_records_of_reached pods reached kept
  refine ⟨outcome, answered, nodup.2 ?_⟩
  rw [before]
  -- Both before and now, there is one text only.
  intro raw member other member' c _ _
  have only : raw = "10.0.0.0/24" := by simpa [kept, firstSeen] using member
  have only' : other = "10.0.0.0/24" := by simpa [kept, firstSeen] using member'
  rw [only, only']

/-- A block that is written with another host address is taken away and assigned again, in one
answer; and two spellings of it in one event are assigned twice. -/
theorem respelled_block_has_two_records :
    let held := NodeEvent.toRecord ⟨"a", some { name := "a", podBlocks := ["10.0.0.0/24"] }, "1"⟩
    let respelled := NodeEvent.toRecord
      ⟨"a", some { name := "a", podBlocks := ["10.0.0.1/24"] }, "2"⟩
    let twice := NodeEvent.toRecord
      ⟨"a", some { name := "a", podBlocks := ["10.0.0.0/24", "10.0.0.0/255.255.255.0"] }, "1"⟩
    let c := IPNetwork.v4 (Net.Block.of 0x0a000000 24)
    Reached (ledgerAfter {} .empty [held]) ∧
      (answer {} (ledgerAfter {} .empty [held]) respelled).toOption.map
        (·.records.filterMap Record.block?) = some [c, c] ∧
      (answer {} .empty twice).toOption.map (·.records.filterMap Record.block?) = some [c, c] ∧
      ¬ [c, c].Nodup := by
  intro held respelled twice c
  exact ⟨Reached.empty.ledgerAfter {} [held], by decide +kernel, by decide +kernel, by simp⟩

end Processor

end NodeDataplane
