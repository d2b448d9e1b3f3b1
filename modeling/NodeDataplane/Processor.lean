import NodeDataplane.NodeReading

/-!
# Processing node events

An event tells that a node changed or is gone. `process` turns it into the ordered list of records
that set the dataplane up: one record for each setting of the node, then the deletes of the blocks
that the node lost, then its current blocks. A field that is invalid deletes its setting and is
reported next to the records; only an event that is about no node at all is refused.
-/

namespace NodeDataplane

open NodeDataplane.Text (quoted)

structure ProcessorConfig where
  usePodBlocks : Bool := true
  /-- Forget the blocks of a node when it is gone. -/
  pruneOnDelete : Bool := false
  emitIPv6 : Bool := false
  deriving DecidableEq, Repr, Inhabited

/-- The failures of the fields of one node, of which there is at least one. -/
structure NodeFailure where
  node : String
  failures : List FieldFailure
  nonempty : failures ≠ []
  deriving DecidableEq, Repr

namespace NodeFailure

def of? (node : String) (failures : List FieldFailure) : Option NodeFailure :=
  if h : failures = [] then none else some ⟨node, failures, h⟩

def emptyMessage : String := "NodeUpdateError requires at least one failure"

def message (f : NodeFailure) : String :=
  "failed to translate " ++ toString f.failures.length ++ " field(s) of node '" ++ f.node ++
    "': " ++ "; ".intercalate (f.failures.map FieldFailure.text)

def last (f : NodeFailure) : FieldFailure := f.failures.getLast f.nonempty

end NodeFailure

inductive EventFault where
  | keyMismatch (key : Key)
  | valueMismatch (typeName : String)
  deriving DecidableEq, Repr

namespace EventFault

def message : EventFault → String
  | keyMismatch key =>
    "Incorrect key type " ++ key.shown ++ " - expecting resource of kind " ++ nodeKind
  | valueMismatch typeName =>
    "Incorrect value type " ++ typeName ++ " - expecting resource of kind " ++ nodeKind

def failureClass : EventFault → FailureClass
  | keyMismatch _ => .keyMismatch
  | valueMismatch _ => .valueMismatch

end EventFault

/-- The name of a node and what it is now, which is nothing for a node that is gone. -/
structure NodeEvent where
  name : String
  node : Option NodeDescriptor
  revision : String
  deriving DecidableEq, Repr

def NodeEvent.toRecord (e : NodeEvent) : Record :=
  ⟨.resource e.name nodeKind, e.node.map .node, e.revision⟩

/-- The event that a record tells of. The key is looked at before the value. -/
def NodeEvent.ofRecord (r : Record) : Except EventFault NodeEvent :=
  match r.key with
  | .resource name kind =>
    if kind ≠ nodeKind then .error (.keyMismatch r.key)
    else
      match r.value with
      | none => .ok ⟨name, none, r.revision⟩
      | some (.node node) => .ok ⟨name, some node, r.revision⟩
      | some value => .error (.valueMismatch value.typeName)
  | key => .error (.keyMismatch key)

theorem NodeEvent.ofRecord_toRecord (e : NodeEvent) : ofRecord e.toRecord = .ok e := by
  obtain ⟨name, node, revision⟩ := e
  cases node <;> simp [ofRecord, toRecord]

theorem NodeEvent.ofRecord_eq_ok_iff {r : Record} {e : NodeEvent} :
    ofRecord r = .ok e ↔ r = e.toRecord := by
  constructor
  · intro read
    obtain ⟨key, value, revision⟩ := r
    cases key with
    | resource name kind =>
      by_cases node : kind = nodeKind
      · subst node
        -- Only an absent value and a descriptor are accepted.
        cases value with
        | none =>
          cases read
          rfl
        | some value =>
          cases value with
          | node node =>
            cases read
            rfl
          | _ => cases read
      · simp [ofRecord, node] at read
    | _ => cases read
  · rintro rfl
    exact e.ofRecord_toRecord

/-- What comes of an event: records, the fields that failed, and the ledger afterwards. -/
structure Outcome where
  records : List Record
  failures : List FieldFailure
  ledger : BlockLedger
  deriving DecidableEq, Repr

namespace Processor

def nodeRecords (config : ProcessorConfig) (e : NodeEvent) (r : NodeReading) : List Record :=
  let set (key : Key) (value : Option Value) : Record := ⟨key, value, e.revision⟩
  let tunnel (setting : String) (value : Option String) : Record :=
    set (.tunnel e.name setting) (value.map .text)
  let address (result : FieldResult IPAddress) : Option String := result.value?.map IPAddress.text
  [set (.primaryAddress e.name .v4) (r.ipv4.address.map .address)] ++
    (if config.emitIPv6 then [set (.primaryAddress e.name .v6) (r.ipv6.address.map .address)]
      else []) ++
    [ tunnel TunnelSetting.ipip (address r.ipipTunnel),
      tunnel TunnelSetting.vxlanAddress4 (address r.vxlanTunnel4),
      tunnel TunnelSetting.vxlanAddress6 (address r.vxlanTunnel6),
      tunnel TunnelSetting.vxlanMac6 r.vxlanMac6.value?,
      tunnel TunnelSetting.vxlanMac4 r.vxlanMac4.value?,
      -- The node itself goes on as it came: its absence tells that it is gone.
      set (.resource e.name nodeKind) (e.node.map .node),
      set (.mesh e.name) (r.meshConfig?.map .mesh) ]

def currentBlocks (node : Option NodeDescriptor) : List String :=
  node.elim [] fun node => firstSeen node.podBlocks

/-- The ledger after an event, and the blocks that the node lost by it. -/
def updateLedger (config : ProcessorConfig) (ledger : BlockLedger) (e : NodeEvent) :
    Logged (List String × BlockLedger) := do
  let current := currentBlocks e.node
  -- What the node lost is told before its entry is dropped.
  let (removed, ledger) ← ledger.reconcile e.name current
  .note .debug .processor ("Node " ++ e.name ++ " current CIDRs " ++ quotedList current ++
    ", removed CIDRs " ++ quotedList removed)
  if e.node.isNone && config.pruneOnDelete then
    let (_, ledger) ← ledger.forget e.name
    return (removed, ledger)
  else return (removed, ledger)

/-- The delete of a block that a node lost. A block that is invalid was reported when it came. -/
def removalRecord (e : NodeEvent) (raw : String) : Logged (Option Record) := do
  let result ← Field.parseLogged .cidr "removed pod CIDR" (some raw) none
  return result.value?.map fun cidr => ⟨.block cidr, none, e.revision⟩

def blockField (raw : String) : String := "pod_cidrs[" ++ raw ++ "]"

/-- The record of a block that a node holds, or the failure of its field. -/
def blockRecord (e : NodeEvent) (raw : String) : Logged (Option Record × Option FieldFailure) := do
  let result ← Field.parseLogged .cidr (blockField raw) (some raw) none
  return (result.value?.map fun cidr =>
      ⟨.block cidr, some (.block ⟨cidr, hostAffinity e.name⟩), e.revision⟩,
    result.failure? (blockField raw))

def blockOutcome (config : ProcessorConfig) (ledger : BlockLedger) (e : NodeEvent) :
    Logged Outcome := do
  let (removed, ledger) ← updateLedger config ledger e
  -- A block that only changed its spelling is deleted first and then assigned again.
  let deletes ← removed.mapM (removalRecord e)
  let blocks ← (currentBlocks e.node).mapM (blockRecord e)
  return ⟨deletes.filterMap id ++ blocks.filterMap (·.1), blocks.filterMap (·.2), ledger⟩

/-- The outcome for a node's blocks, which is empty if blocks are not published. -/
def publishBlocks (config : ProcessorConfig) (ledger : BlockLedger) (e : NodeEvent) :
    Logged Outcome :=
  if config.usePodBlocks then blockOutcome config ledger e else pure ⟨[], [], ledger⟩

def readNode (node : Option NodeDescriptor) : Logged NodeReading :=
  match node with
  | none => pure .absent
  | some node => node.read

def noteFailure (name : String) (failures : List FieldFailure) : Logged Unit :=
  match NodeFailure.of? name failures with
  | none => pure ()
  | some failure =>
    .note .warning .processor ("Partial translation of node " ++ name ++ ": " ++ failure.message)

def outcomeOf (config : ProcessorConfig) (ledger : BlockLedger) (e : NodeEvent) :
    Logged Outcome := do
  -- The fields of the node are read, and noted, before its blocks.
  let reading ← readNode e.node
  let blocks ← publishBlocks config ledger e
  let failures := reading.failures ++ blocks.failures
  noteFailure e.name failures
  return ⟨nodeRecords config e reading ++ blocks.records, failures, blocks.ledger⟩

def process (config : ProcessorConfig) (ledger : BlockLedger) (event : Record) :
    Except EventFault (Logged Outcome) :=
  (NodeEvent.ofRecord event).map (outcomeOf config ledger)

def startingLog : List Entry :=
  [⟨.debug, .processor, "Sync starting called on node update processor", none⟩]

/-! ### What comes of an event, whatever is noted -/

/-- A block that a node lost is told by the ledger before the event alone. -/
theorem value_updateLedger (config : ProcessorConfig) (ledger : BlockLedger) (e : NodeEvent) :
    (updateLedger config ledger e).value =
      (ledger.removals e.name (currentBlocks e.node),
        if e.node.isNone && config.pruneOnDelete then
          ((ledger.record e.name (currentBlocks e.node)).forget e.name).value.2
        else ledger.record e.name (currentBlocks e.node)) := by
  unfold updateLedger
  simp only [Logged.value_bind, BlockLedger.reconcile]
  split <;> rfl

theorem value_removalRecord (e : NodeEvent) (raw : String) :
    (removalRecord e raw).value =
      (Field.parse .cidr (some raw) none).value?.map fun cidr => ⟨.block cidr, none, e.revision⟩ :=
  rfl

theorem value_blockRecord (e : NodeEvent) (raw : String) :
    (blockRecord e raw).value =
      ((Field.parse .cidr (some raw) none).value?.map fun cidr =>
          ⟨.block cidr, some (.block ⟨cidr, hostAffinity e.name⟩), e.revision⟩,
        (Field.parse .cidr (some raw) none).failure? (blockField raw)) :=
  rfl

/-- The deletes of the blocks that a node lost come before the blocks it holds. -/
theorem records_blockOutcome (config : ProcessorConfig) (ledger : BlockLedger) (e : NodeEvent) :
    (blockOutcome config ledger e).value.records =
      (ledger.removals e.name (currentBlocks e.node)).filterMap
          (fun raw => (removalRecord e raw).value) ++
        (currentBlocks e.node).filterMap fun raw => (blockRecord e raw).value.1 := by
  simp only [blockOutcome, Logged.value_bind, Logged.value_mapM, Logged.value_pure,
    value_updateLedger, List.filterMap_map]
  rfl

theorem failures_blockOutcome (config : ProcessorConfig) (ledger : BlockLedger) (e : NodeEvent) :
    (blockOutcome config ledger e).value.failures =
      (currentBlocks e.node).filterMap fun raw => (blockRecord e raw).value.2 := by
  simp only [blockOutcome, Logged.value_bind, Logged.value_mapM, Logged.value_pure,
    List.filterMap_map]
  rfl

theorem ledger_blockOutcome (config : ProcessorConfig) (ledger : BlockLedger) (e : NodeEvent) :
    (blockOutcome config ledger e).value.ledger = (updateLedger config ledger e).value.2 := rfl

theorem records_outcomeOf (config : ProcessorConfig) (ledger : BlockLedger) (e : NodeEvent) :
    (outcomeOf config ledger e).value.records =
      nodeRecords config e (readNode e.node).value ++
        (publishBlocks config ledger e).value.records := rfl

theorem failures_outcomeOf (config : ProcessorConfig) (ledger : BlockLedger) (e : NodeEvent) :
    (outcomeOf config ledger e).value.failures =
      (readNode e.node).value.failures ++ (publishBlocks config ledger e).value.failures := rfl

theorem ledger_outcomeOf (config : ProcessorConfig) (ledger : BlockLedger) (e : NodeEvent) :
    (outcomeOf config ledger e).value.ledger = (publishBlocks config ledger e).value.ledger := rfl

end Processor

end NodeDataplane
