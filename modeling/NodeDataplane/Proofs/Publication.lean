import NodeDataplane.Processor
import NodeDataplane.Store

/-!
# What a processor publishes

A processor that works on events one after the other keeps the blocks of every node in its ledger.
The ledger tells which blocks an event takes away, as texts; the records that take them away are
keyed by the networks that the texts write.

## Main result

`published_eq_of_last`: what the store holds for a node is told by the last event about the node
alone, whatever came before it and whatever happened to other nodes.

## Proof strategy

One event sets every setting of its node, so only blocks can be left over from earlier events. Every
block in the store is written by a text in the ledger (`Covers`). Such a block is either written by
a current text, and set again behind all deletes, or all texts that write it are gone, and it is
deleted.
-/

namespace NodeDataplane

/-- Whether one of some texts writes a network. -/
def IPNetwork.WrittenIn (c : IPNetwork) (raws : List String) : Prop :=
  ∃ raw ∈ raws, Field.parse .cidr (some raw) none = .parsed c

theorem IPNetwork.writtenIn_firstSeen {c : IPNetwork} {raws : List String} :
    c.WrittenIn (firstSeen raws) ↔ c.WrittenIn raws := by
  simp only [WrittenIn, mem_firstSeen]

namespace Processor

/-! ### Runs -/

def answer (config : ProcessorConfig) (ledger : BlockLedger) (event : Record) :
    Except EventFault Outcome :=
  (process config ledger event).map Logged.value

/-- The ledger behind an answer. An event that is refused leaves it as it is. -/
def settle (ledger : BlockLedger) : Except EventFault Outcome → BlockLedger
  | .ok outcome => outcome.ledger
  | .error _ => ledger

def run (config : ProcessorConfig) :
    BlockLedger → List Record → List (Record × Except EventFault Outcome)
  | _, [] => []
  | ledger, event :: rest =>
    let answer := answer config ledger event
    (event, answer) :: run config (settle ledger answer) rest

def recordsAbout (name : String) (answers : List (Record × Except EventFault Outcome)) :
    List Record :=
  answers.flatMap fun (event, answer) =>
    match answer with
    | .ok outcome => if event.key = .resource name nodeKind then outcome.records else []
    | .error _ => []

/-- What a new processor publishes about a node while it works on events. -/
def published (config : ProcessorConfig) (events : List NodeEvent) (name : String) : Store :=
  Store.writeAll .empty (recordsAbout name (run config .empty (events.map NodeEvent.toRecord)))

theorem answer_toRecord (config : ProcessorConfig) (ledger : BlockLedger) (e : NodeEvent) :
    answer config ledger e.toRecord = .ok (outcomeOf config ledger e).value := by
  rw [answer, process, NodeEvent.ofRecord_toRecord]
  rfl

theorem recordsAbout_run_cons (config : ProcessorConfig) (ledger : BlockLedger) (e : NodeEvent)
    (rest : List Record) (name : String) :
    recordsAbout name (run config ledger (e.toRecord :: rest)) =
      (if e.name = name then (outcomeOf config ledger e).value.records else []) ++
        recordsAbout name (run config (outcomeOf config ledger e).value.ledger rest) := by
  have about : e.toRecord.key = .resource name nodeKind ↔ e.name = name := by
    simp [NodeEvent.toRecord]
  simp only [run, answer_toRecord, settle, recordsAbout, List.flatMap_cons, about]

/-! ### The ledger behind an event -/

theorem nodup_currentBlocks (node : Option NodeDescriptor) : (currentBlocks node).Nodup := by
  cases node with
  | none => exact List.nodup_nil
  | some node => exact nodup_firstSeen node.podBlocks

theorem firstSeen_currentBlocks (node : Option NodeDescriptor) :
    firstSeen (currentBlocks node) = currentBlocks node :=
  firstSeen_eq_self (nodup_currentBlocks node)

theorem lookup_updateLedger_self (config : ProcessorConfig) (ledger : BlockLedger) (e : NodeEvent) :
    (updateLedger config ledger e).value.2.lookup e.name = currentBlocks e.node := by
  rw [value_updateLedger]
  split
  -- Only a node that is gone is forgotten, and it holds nothing.
  next forgotten =>
    simp only [Bool.and_eq_true, Option.isNone_iff_eq_none] at forgotten
    rw [BlockLedger.lookup_forget_self, forgotten.1]
    rfl
  next => rw [BlockLedger.lookup_record_self, firstSeen_currentBlocks]

theorem lookup_updateLedger_of_ne (config : ProcessorConfig) (ledger : BlockLedger)
    {e : NodeEvent} {other : String} (h : e.name ≠ other) :
    (updateLedger config ledger e).value.2.lookup other = ledger.lookup other := by
  rw [value_updateLedger]
  -- Taking in the blocks of a node and forgetting it both leave the other ones.
  split
  · exact (BlockLedger.lookup_forget_of_ne _ h).trans (BlockLedger.lookup_record_of_ne _ _ h)
  · exact BlockLedger.lookup_record_of_ne _ _ h

/-! ### Settings and blocks -/

def settingKeys (config : ProcessorConfig) (name : String) : List Key :=
  (nodeRecords config ⟨name, none, ""⟩ .absent).map (·.key)

theorem map_key_nodeRecords (config : ProcessorConfig) (e : NodeEvent) (r : NodeReading) :
    (nodeRecords config e r).map (·.key) = settingKeys config e.name := by
  unfold settingKeys nodeRecords
  cases config.emitIPv6 <;> rfl

theorem key_nodeRecords_ne_block {config : ProcessorConfig} {e : NodeEvent} {reading : NodeReading}
    {r : Record} (member : r ∈ nodeRecords config e reading) (c : IPNetwork) :
    r.key ≠ .block c := by
  have setting : r.key ∈ settingKeys config e.name := by
    rw [← map_key_nodeRecords config e reading]
    exact List.mem_map_of_mem member
  intro same
  rw [same] at setting
  -- The keys of the settings depend on the switch for IPv6 alone.
  cases h : config.emitIPv6 <;> simp [settingKeys, nodeRecords, h] at setting

def blockDeletes (ledger : BlockLedger) (e : NodeEvent) : List Record :=
  (ledger.removals e.name (currentBlocks e.node)).filterMap fun raw => (removalRecord e raw).value

def blockAssignments (e : NodeEvent) : List Record :=
  (currentBlocks e.node).filterMap fun raw => (blockRecord e raw).value.1

def blockFailures (e : NodeEvent) : List FieldFailure :=
  (currentBlocks e.node).filterMap fun raw => (blockRecord e raw).value.2

theorem mem_blockDeletes_iff {ledger : BlockLedger} {e : NodeEvent} {r : Record} :
    r ∈ blockDeletes ledger e ↔
      ∃ c : IPNetwork, c.WrittenIn (ledger.removals e.name (currentBlocks e.node)) ∧
        r = ⟨.block c, none, e.revision⟩ := by
  simp only [blockDeletes, List.mem_filterMap, value_removalRecord, Option.map_eq_some_iff,
    FieldResult.value?_eq_some_iff]
  constructor
  · rintro ⟨raw, removed, c, written, rfl⟩
    exact ⟨c, ⟨raw, removed, written⟩, rfl⟩
  · rintro ⟨c, ⟨raw, removed, written⟩, rfl⟩
    exact ⟨raw, removed, c, written, rfl⟩

theorem mem_blockAssignments_iff {e : NodeEvent} {r : Record} :
    r ∈ blockAssignments e ↔
      ∃ c : IPNetwork, c.WrittenIn (currentBlocks e.node) ∧
        r = ⟨.block c, some (.block ⟨c, hostAffinity e.name⟩), e.revision⟩ := by
  simp only [blockAssignments, List.mem_filterMap, value_blockRecord, Option.map_eq_some_iff,
    FieldResult.value?_eq_some_iff]
  constructor
  · rintro ⟨raw, current, c, written, rfl⟩
    exact ⟨c, ⟨raw, current, written⟩, rfl⟩
  · rintro ⟨c, ⟨raw, current, written⟩, rfl⟩
    exact ⟨raw, current, c, written, rfl⟩

/-- If no current text writes a block, every text that wrote it before is taken away. -/
theorem writtenIn_removals {ledger : BlockLedger} {name : String} {current : List String}
    {c : IPNetwork} (before : c.WrittenIn (ledger.lookup name)) (gone : ¬ c.WrittenIn current) :
    c.WrittenIn (ledger.removals name current) := by
  obtain ⟨raw, member, written⟩ := before
  have absent : raw ∉ current := fun kept => gone ⟨raw, kept, written⟩
  exact ⟨raw, BlockLedger.mem_removals.2 ⟨member, absent⟩, written⟩

section Blocks

variable {config : ProcessorConfig} (pods : config.usePodBlocks = true)

include pods

theorem ledger_outcomeOf_of_pods (ledger : BlockLedger) (e : NodeEvent) :
    (outcomeOf config ledger e).value.ledger = (updateLedger config ledger e).value.2 := by
  rw [ledger_outcomeOf, publishBlocks, if_pos pods, ledger_blockOutcome]

theorem lookup_outcomeOf_self (ledger : BlockLedger) (e : NodeEvent) :
    (outcomeOf config ledger e).value.ledger.lookup e.name = currentBlocks e.node := by
  rw [ledger_outcomeOf_of_pods pods, lookup_updateLedger_self]

theorem lookup_outcomeOf_of_ne (ledger : BlockLedger) {e : NodeEvent} {other : String}
    (h : e.name ≠ other) :
    (outcomeOf config ledger e).value.ledger.lookup other = ledger.lookup other := by
  rw [ledger_outcomeOf_of_pods pods, lookup_updateLedger_of_ne config ledger h]

/-! ### What an event does to the blocks in the store -/

theorem records_outcomeOf_of_pods (ledger : BlockLedger) (e : NodeEvent) :
    (outcomeOf config ledger e).value.records =
      nodeRecords config e (readNode e.node).value ++
        (blockDeletes ledger e ++ blockAssignments e) := by
  rw [records_outcomeOf, publishBlocks, if_pos pods, records_blockOutcome]
  rfl

theorem failures_outcomeOf_of_pods (ledger : BlockLedger) (e : NodeEvent) :
    (outcomeOf config ledger e).value.failures =
      (readNode e.node).value.failures ++ blockFailures e := by
  rw [failures_outcomeOf, publishBlocks, if_pos pods, failures_blockOutcome]
  rfl

/-- A block that the node holds is assigned to it, also where another text that writes it is gone:
assignments come last. -/
theorem get?_block_of_held (store : Store) (ledger : BlockLedger) {e : NodeEvent} {c : IPNetwork}
    (held : c.WrittenIn (currentBlocks e.node)) :
    (store.writeAll (outcomeOf config ledger e).value.records).get? (.block c) =
      some (.block ⟨c, hostAffinity e.name⟩) := by
  rw [records_outcomeOf_of_pods pods, ← List.append_assoc, Store.writeAll_append]
  apply Store.get?_writeAll_of_agreed
  · exact ⟨_, mem_blockAssignments_iff.2 ⟨c, held, rfl⟩, rfl⟩
  · -- Other spellings of the block are assigned to the same node.
    intro r member same
    obtain ⟨d, _, rfl⟩ := mem_blockAssignments_iff.1 member
    cases same
    rfl

theorem get?_block_of_lost (store : Store) {ledger : BlockLedger} {e : NodeEvent} {c : IPNetwork}
    (lost : c.WrittenIn (ledger.lookup e.name)) (gone : ¬ c.WrittenIn (currentBlocks e.node)) :
    (store.writeAll (outcomeOf config ledger e).value.records).get? (.block c) = none := by
  rw [records_outcomeOf_of_pods pods, ← List.append_assoc, Store.writeAll_append,
    Store.get?_writeAll_of_forall_ne, Store.writeAll_append]
  · apply Store.get?_writeAll_of_agreed
    · exact ⟨_, mem_blockDeletes_iff.2 ⟨c, writtenIn_removals lost gone, rfl⟩, rfl⟩
    · intro r member _
      obtain ⟨d, _, rfl⟩ := mem_blockDeletes_iff.1 member
      rfl
  · -- Behind the deletes, only blocks that are held are assigned.
    intro r member same
    obtain ⟨d, held, rfl⟩ := mem_blockAssignments_iff.1 member
    cases same
    exact gone held

theorem get?_block_of_foreign (store : Store) {ledger : BlockLedger} {e : NodeEvent}
    {c : IPNetwork} (before : ¬ c.WrittenIn (ledger.lookup e.name))
    (now : ¬ c.WrittenIn (currentBlocks e.node)) :
    (store.writeAll (outcomeOf config ledger e).value.records).get? (.block c) =
      store.get? (.block c) := by
  rw [records_outcomeOf_of_pods pods]
  apply Store.get?_writeAll_of_forall_ne
  intro r member same
  -- Neither a setting, nor a delete, nor an assignment is keyed by the block.
  rcases List.mem_append.1 member with setting | block
  · exact key_nodeRecords_ne_block setting c same
  · rcases List.mem_append.1 block with delete | assignment
    · obtain ⟨d, ⟨raw, removed, written⟩, rfl⟩ := mem_blockDeletes_iff.1 delete
      cases same
      exact before ⟨raw, (BlockLedger.mem_removals.1 removed).1, written⟩
    · obtain ⟨d, held, rfl⟩ := mem_blockAssignments_iff.1 assignment
      cases same
      exact now held

end Blocks

theorem records_outcomeOf_of_no_pods {config : ProcessorConfig} (bare : config.usePodBlocks = false)
    (ledger : BlockLedger) (e : NodeEvent) :
    (outcomeOf config ledger e).value.records = nodeRecords config e (readNode e.node).value := by
  have off : ¬ config.usePodBlocks = true := by simp [bare]
  rw [records_outcomeOf, publishBlocks, if_neg off]
  exact List.append_nil _

theorem ledger_outcomeOf_of_no_pods {config : ProcessorConfig}
    (bare : config.usePodBlocks = false) (ledger : BlockLedger) (e : NodeEvent) :
    (outcomeOf config ledger e).value.ledger = ledger := by
  have off : ¬ config.usePodBlocks = true := by simp [bare]
  rw [ledger_outcomeOf, publishBlocks, if_neg off]
  rfl

theorem failures_outcomeOf_of_no_pods {config : ProcessorConfig}
    (bare : config.usePodBlocks = false) (ledger : BlockLedger) (e : NodeEvent) :
    (outcomeOf config ledger e).value.failures = (readNode e.node).value.failures := by
  have off : ¬ config.usePodBlocks = true := by simp [bare]
  rw [failures_outcomeOf, publishBlocks, if_neg off]
  exact List.append_nil _

theorem key_block_of_mem {ledger : BlockLedger} {e : NodeEvent} {r : Record}
    (member : r ∈ blockDeletes ledger e ++ blockAssignments e) : ∃ c, r.key = .block c := by
  rcases List.mem_append.1 member with delete | assignment
  · obtain ⟨c, _, rfl⟩ := mem_blockDeletes_iff.1 delete
    exact ⟨c, rfl⟩
  · obtain ⟨c, _, rfl⟩ := mem_blockAssignments_iff.1 assignment
    exact ⟨c, rfl⟩

/-! ### What is left over from earlier events -/

/-- A store holds nothing for a node but its settings and the blocks that the ledger knows. -/
structure Covers (config : ProcessorConfig) (ledger : BlockLedger) (name : String)
    (store : Store) : Prop where
  block : ∀ c : IPNetwork, (config.usePodBlocks = true → ¬ c.WrittenIn (ledger.lookup name)) →
    store.get? (.block c) = none
  other : ∀ key, key ∉ settingKeys config name → (∀ c, key ≠ .block c) → store.get? key = none

theorem covers_empty (config : ProcessorConfig) (ledger : BlockLedger) (name : String) :
    Covers config ledger name .empty :=
  ⟨fun _ _ => rfl, fun _ _ _ => rfl⟩

theorem not_writtenIn_lookup_empty (c : IPNetwork) (name : String) :
    ¬ c.WrittenIn (BlockLedger.empty.lookup name) := by
  rintro ⟨raw, member, _⟩
  cases member

theorem get?_writeAll_nodeRecords (config : ProcessorConfig) (e : NodeEvent) (r : NodeReading)
    {key : Key} {s t : Store} (same : key ∉ settingKeys config e.name → s.get? key = t.get? key) :
    (s.writeAll (nodeRecords config e r)).get? key =
      (t.writeAll (nodeRecords config e r)).get? key := by
  by_cases setting : key ∈ settingKeys config e.name
  · -- Every setting is set or deleted, whatever was there.
    apply Store.get?_writeAll_of_told
    rw [← map_key_nodeRecords config e r] at setting
    exact List.mem_map.1 setting
  · exact Store.get?_writeAll_congr _ (same setting)

/-- Beside blocks, an event sets the settings of its node and nothing else. -/
theorem get?_outcomeOf_of_ne_block (config : ProcessorConfig) (ledger : BlockLedger)
    (e : NodeEvent) (store : Store) {key : Key} (h : ∀ c, key ≠ .block c) :
    (store.writeAll (outcomeOf config ledger e).value.records).get? key =
      (store.writeAll (nodeRecords config e (readNode e.node).value)).get? key := by
  cases pods : config.usePodBlocks with
  | false => rw [records_outcomeOf_of_no_pods pods]
  | true =>
    rw [records_outcomeOf_of_pods pods, Store.writeAll_append]
    apply Store.get?_writeAll_of_forall_ne
    intro r member same
    obtain ⟨c, block⟩ := key_block_of_mem member
    exact h c (same.symm.trans block)

theorem get?_block_of_no_pods {config : ProcessorConfig} (bare : config.usePodBlocks = false)
    (ledger : BlockLedger) (e : NodeEvent) (store : Store) (c : IPNetwork) :
    (store.writeAll (outcomeOf config ledger e).value.records).get? (.block c) =
      store.get? (.block c) := by
  rw [records_outcomeOf_of_no_pods bare]
  exact Store.get?_writeAll_of_forall_ne _ fun r member => key_nodeRecords_ne_block member c

/-- Whatever is left over, an event about a node has the same effect as on a new store by a new
processor. -/
theorem get?_writeAll_outcomeOf {config : ProcessorConfig} {ledger : BlockLedger} {e : NodeEvent}
    {store : Store} (covers : Covers config ledger e.name store) (key : Key) :
    (store.writeAll (outcomeOf config ledger e).value.records).get? key =
      (Store.writeAll .empty (outcomeOf config .empty e).value.records).get? key := by
  by_cases block : ∃ c, key = .block c
  · obtain ⟨c, rfl⟩ := block
    cases pods : config.usePodBlocks with
    | false =>
      rw [get?_block_of_no_pods pods, get?_block_of_no_pods pods]
      exact covers.block c (by simp [pods])
    | true =>
      by_cases held : c.WrittenIn (currentBlocks e.node)
      · rw [get?_block_of_held pods _ _ held, get?_block_of_held pods _ _ held]
      · -- A new processor does nothing; the old one deletes what its ledger knows.
        rw [get?_block_of_foreign pods _ (not_writtenIn_lookup_empty c e.name) held]
        by_cases lost : c.WrittenIn (ledger.lookup e.name)
        · rw [get?_block_of_lost pods _ lost held]
          rfl
        · rw [get?_block_of_foreign pods _ lost held]
          exact covers.block c fun _ => lost
  · have other : ∀ c, key ≠ .block c := not_exists.1 block
    rw [get?_outcomeOf_of_ne_block _ _ _ _ other, get?_outcomeOf_of_ne_block _ _ _ _ other]
    exact get?_writeAll_nodeRecords config e _ fun setting => covers.other key setting other

/-- An event about the node leaves nothing but what the ledger knows behind it. -/
theorem Covers.write_self {config : ProcessorConfig} {ledger : BlockLedger} {e : NodeEvent}
    {store : Store} (covers : Covers config ledger e.name store) :
    Covers config (outcomeOf config ledger e).value.ledger e.name
      (store.writeAll (outcomeOf config ledger e).value.records) where
  block := by
    intro c unknown
    rw [get?_writeAll_outcomeOf covers]
    cases pods : config.usePodBlocks with
    | false =>
      rw [get?_block_of_no_pods pods]
      rfl
    | true =>
      -- Behind the event the ledger knows just the current blocks.
      have gone := unknown pods
      rw [lookup_outcomeOf_self pods] at gone
      rw [get?_block_of_foreign pods _ (not_writtenIn_lookup_empty c e.name) gone]
      rfl
  other := by
    intro key setting other
    rw [get?_outcomeOf_of_ne_block _ _ _ _ other, Store.get?_writeAll_of_forall_ne]
    · exact covers.other key setting other
    · intro r member same
      apply setting
      rw [← same, ← map_key_nodeRecords config e (readNode e.node).value]
      exact List.mem_map_of_mem member

theorem Covers.settle_other {config : ProcessorConfig} {ledger : BlockLedger} {e : NodeEvent}
    {name : String} {store : Store} (covers : Covers config ledger name store) (h : e.name ≠ name) :
    Covers config (outcomeOf config ledger e).value.ledger name store where
  block := by
    intro c unknown
    apply covers.block c
    intro pods
    have absent := unknown pods
    rwa [lookup_outcomeOf_of_ne pods ledger h] at absent
  other := covers.other

/-! ### What one event sets up -/

theorem value_eq_none_of_gone {config : ProcessorConfig} {ledger : BlockLedger} {e : NodeEvent}
    (gone : e.node = none) {r : Record} (member : r ∈ (outcomeOf config ledger e).value.records) :
    r.value = none := by
  -- Of a node that is gone no field is read.
  have setting : ∀ r ∈ nodeRecords config e (readNode e.node).value, r.value = none := by
    rw [gone]
    cases h : config.emitIPv6 <;>
      simp [nodeRecords, readNode, NodeReading.absent, NodeReading.meshConfig?,
        FieldResult.value?, h, gone]
  cases pods : config.usePodBlocks with
  | false =>
    rw [records_outcomeOf_of_no_pods pods] at member
    exact setting r member
  | true =>
    rw [records_outcomeOf_of_pods pods] at member
    rcases List.mem_append.1 member with own | block
    · exact setting r own
    · rcases List.mem_append.1 block with delete | assignment
      · obtain ⟨c, _, rfl⟩ := mem_blockDeletes_iff.1 delete
        rfl
      · obtain ⟨c, ⟨raw, held, _⟩, _⟩ := mem_blockAssignments_iff.1 assignment
        rw [gone] at held
        cases held

theorem value_nodeRecords_ne_block (config : ProcessorConfig) (e : NodeEvent)
    (reading : NodeReading) (b : AddressBlock) :
    ∀ r ∈ nodeRecords config e reading, r.value ≠ some (.block b) := by
  cases h : config.emitIPv6 <;> simp [nodeRecords, h]

/-- A new processor sets up, for an event, one block for each network that a text writes. -/
theorem get?_new_eq_block_iff {config : ProcessorConfig} (pods : config.usePodBlocks = true)
    (e : NodeEvent) (key : Key) (b : AddressBlock) :
    (Store.writeAll .empty (outcomeOf config .empty e).value.records).get? key = some (.block b) ↔
      key = .block b.cidr ∧ b.affinity = hostAffinity e.name ∧
        b.cidr.WrittenIn (currentBlocks e.node) := by
  constructor
  · intro found
    rcases Store.told_of_get?_writeAll found with before | ⟨r, member, same, told⟩
    · cases before
    · rw [records_outcomeOf_of_pods pods] at member
      -- Only an assignment sets a block.
      rcases List.mem_append.1 member with own | block
      · exact absurd told (value_nodeRecords_ne_block config e _ b r own)
      · rcases List.mem_append.1 block with delete | assignment
        · obtain ⟨c, _, rfl⟩ := mem_blockDeletes_iff.1 delete
          cases told
        · obtain ⟨c, held, rfl⟩ := mem_blockAssignments_iff.1 assignment
          cases told
          exact ⟨same.symm, rfl, held⟩
  · rintro ⟨rfl, bound, held⟩
    rw [get?_block_of_held pods _ _ held, ← bound]

/-! ### Runs of events -/

theorem recordsAbout_eq_nil (config : ProcessorConfig) {events : List NodeEvent} {name : String}
    (h : ∀ e ∈ events, e.name ≠ name) (ledger : BlockLedger) :
    recordsAbout name (run config ledger (events.map NodeEvent.toRecord)) = [] := by
  induction events generalizing ledger with
  | nil => rfl
  | cons e rest ih =>
    rw [List.forall_mem_cons] at h
    rw [List.map_cons, recordsAbout_run_cons, if_neg h.1, ih h.2]
    rfl

/-- A run that ends, for a node, with some event leaves behind what the event alone sets up. -/
theorem get?_writeAll_run {config : ProcessorConfig} {events : List NodeEvent} {name : String}
    {e : NodeEvent} (last : (events.filter fun e => e.name = name).getLast? = some e)
    {ledger : BlockLedger} {store : Store} (covers : Covers config ledger name store) (key : Key) :
    (store.writeAll (recordsAbout name (run config ledger (events.map NodeEvent.toRecord)))).get? key =
      (Store.writeAll .empty (outcomeOf config .empty e).value.records).get? key := by
  induction events generalizing ledger store with
  | nil => simp at last
  | cons first rest ih =>
    rw [List.map_cons, recordsAbout_run_cons]
    by_cases about : first.name = name
    · subst about
      rw [if_pos rfl, Store.writeAll_append]
      -- Either a later event is about the node too, or this is the last one.
      by_cases later : ∃ x ∈ rest, x.name = first.name
      · have more : rest.filter (fun x => x.name = first.name) ≠ [] := by
          simpa using later
        rw [List.filter_cons_of_pos (by simp), List.getLast?_cons_of_ne_nil more] at last
        exact ih last covers.write_self
      · have others : ∀ x ∈ rest, x.name ≠ first.name := fun x member same =>
          later ⟨x, member, same⟩
        have alone : rest.filter (fun x => x.name = first.name) = [] := by
          simpa using others
        rw [List.filter_cons_of_pos (by simp), alone] at last
        cases last
        rw [recordsAbout_eq_nil config others]
        exact get?_writeAll_outcomeOf covers key
    · -- An event about another node leaves both the store and what the ledger knows of this one.
      rw [List.filter_cons_of_neg (by simpa using about)] at last
      rw [if_neg about, List.nil_append]
      exact ih last (covers.settle_other about)

/-! ### Main result -/

/-- **The published store does not depend on history.** Apply the records that the events about a
node gave, among events about any nodes: what is found under every key is what a new processor sets
up for the last of these events alone. That is nothing if the node is gone, and else, where blocks
are published, one block for each network that a text of the node writes. -/
theorem published_eq_of_last (config : ProcessorConfig) {events : List NodeEvent} {name : String}
    {e : NodeEvent} (last : (events.filter fun e => e.name = name).getLast? = some e) :
    (∀ key, (published config events name).get? key = (published config [e] name).get? key) ∧
      (e.node = none → published config events name = .empty) ∧
      (config.usePodBlocks = true → ∀ node, e.node = some node → ∀ key b,
        (published config events name).get? key = some (.block b) ↔
          key = .block b.cidr ∧ b.affinity = hostAffinity name ∧ b.cidr.WrittenIn node.podBlocks) := by
  have about : e.name = name := by
    have member := List.mem_of_getLast? last
    simpa using (List.mem_filter.1 member).2
  have alone : published config [e] name =
      Store.writeAll .empty (outcomeOf config .empty e).value.records := by
    rw [published, List.map_singleton, recordsAbout_run_cons, if_pos about]
    exact congrArg _ (List.append_nil _)
  have same (key : Key) : (published config events name).get? key =
      (Store.writeAll .empty (outcomeOf config .empty e).value.records).get? key :=
    get?_writeAll_run last (covers_empty config .empty name) key
  refine ⟨fun key => (same key).trans (by rw [alone]), ?_, ?_⟩
  · intro gone
    apply Table.eq_empty_of_get?_eq_none
    intro key
    rw [same key, Option.eq_none_iff_forall_ne_some]
    intro value found
    rcases Store.told_of_get?_writeAll found with before | ⟨r, member, _, told⟩
    · cases before
    · rw [value_eq_none_of_gone gone member] at told
      cases told
  · intro pods node present key b
    have current : b.cidr.WrittenIn (currentBlocks e.node) ↔ b.cidr.WrittenIn node.podBlocks := by
      rw [present]
      exact IPNetwork.writtenIn_firstSeen
    rw [same key, get?_new_eq_block_iff pods, about, current]

/-- A block that comes back in another spelling, with another node that has it in between. -/
theorem published_of_respelled_block :
    let events : List NodeEvent :=
      [⟨"a", some { name := "a", podBlocks := ["10.0.0.7/24"] }, "1"⟩,
        ⟨"b", some { name := "b", podBlocks := ["10.0.0.0/24"] }, "2"⟩,
        ⟨"a", some { name := "a", podBlocks := ["10.0.0.0/24"] }, "3"⟩]
    (events.filter fun e => e.name = "a").getLast? =
        some ⟨"a", some { name := "a", podBlocks := ["10.0.0.0/24"] }, "3"⟩ ∧
      (published {} events "a").get? (.block (.v4 (Net.Block.of 0x0a000000#32 24))) =
        some (.block ⟨.v4 (Net.Block.of 0x0a000000#32 24), "host:a"⟩) := by
  -- The last event spells the block as it is masked; the first one does not.
  have held : (IPNetwork.v4 (Net.Block.of 0x0a000000#32 24)).WrittenIn ["10.0.0.0/24"] :=
    ⟨"10.0.0.0/24", List.mem_singleton_self _, by decide⟩
  let e : NodeEvent := ⟨"a", some { name := "a", podBlocks := ["10.0.0.0/24"] }, "3"⟩
  refine ⟨by decide, ((published_eq_of_last {} (e := e) (by decide)).2.2 rfl _ rfl _ _).2 ?_⟩
  exact ⟨rfl, by decide, held⟩

end Processor

end NodeDataplane
