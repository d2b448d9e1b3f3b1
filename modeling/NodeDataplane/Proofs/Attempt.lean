import NodeDataplane.Proofs.RecordOrder

/-!
# The work on an event in single steps

What comes of an event is stated elsewhere as a value. Here the work is taken apart into steps that
may break off (`Attempt`). Readers break off on a text that they cannot read, and so does an error
that is made of no failures. A step that breaks off does not undo what earlier ones did to the
ledger, and the ledger is changed before the texts of the blocks are read.

The steps leave open what a block is, as long as blocks can be told apart and have a text or none:
the blocks that are given for a node may have gaps.

## Main results

- `run_process_toRecord`: the steps on an event of a node do not break off.
- `run_process_texts`: with texts as blocks they come to what a processor does.

## Proof strategy

Every text is read inside a guard, so reading a field never breaks off (`parse_eq`). What is put
together from such steps does not break off either (`readNode_eq`, `run_blocksOf`). An error is made
only where there are failures (`errorOf_eq`).
-/

namespace NodeDataplane

/-- Why a step breaks off. -/
inductive Break where
  | event (fault : EventFault)
  /-- A reader cannot read its text. -/
  | reader (fault : FieldFault)
  /-- An error is made of no failures. -/
  | noFailures
  deriving DecidableEq, Repr

/-- Steps on a ledger with blocks of some kind. Where they break off, the ledger is as it was left
there. -/
abbrev Attempt (α β : Type) : Type := ExceptT Break (StateM (Table String (List α))) β

namespace Attempt

open Processor (nodeRecords blockField)

variable {α : Type}

/-! ### The steps -/

def read (kind : FieldKind) (raw : String) : Attempt α kind.Value :=
  match kind.read raw with
  | .error fault => throw (.reader fault)
  | .ok value => pure value

def checkVersion (kind : FieldKind) (version : Option IPVersion) (raw : String)
    (value : kind.Value) : FieldResult kind.Value :=
  match version, kind.version? value with
  | some expected, some actual =>
    if actual = expected then .parsed value else .invalid (.otherVersion raw expected)
  | _, _ => .parsed value

/-- Read a field. Only what a reader breaks off with is caught. -/
def parse (kind : FieldKind) (raw : Option String) (version : Option IPVersion) :
    Attempt α (FieldResult kind.Value) :=
  match raw with
  | none => pure .absent
  | some raw =>
    if raw.isEmpty then pure .absent
    else
      tryCatch (checkVersion kind version raw <$> read kind raw) fun
        | .reader fault => pure (.invalid (.unreadable kind raw fault))
        | other => throw other

def readText (node : NodeDescriptor) (field : TextField) :
    Attempt α (FieldResult field.kind.Value) :=
  parse field.kind (node.fieldText field) field.version?

def firstOfVersion (version : IPVersion) :
    List (String × Option String) → Attempt α (Option IPAddress)
  | [] => pure none
  | (_, raw) :: rest => do
    match NodeDescriptor.addressOfVersion? version (← parse .cidrOrIp raw none) with
    | some address => return some address
    | none => firstOfVersion version rest

def primaryAddress (node : NodeDescriptor) (version : IPVersion) : Attempt α PrimaryAddress := do
  let pinned ← parse .cidrOrIp (node.fieldText (.pinned version)) (some version)
  match pinned.value? with
  | some address => return ⟨pinned, some address⟩
  | none => return ⟨pinned, ← firstOfVersion version node.candidates⟩

def readNode (node : Option NodeDescriptor) : Attempt α NodeReading :=
  match node with
  | none => pure .absent
  | some node => do
    let ipv4 ← primaryAddress node .v4
    let ipv6 ← primaryAddress node .v6
    let ipipTunnel ← readText node .ipipTunnel
    let vxlanTunnel4 ← readText node .vxlanTunnel4
    let vxlanTunnel6 ← readText node .vxlanTunnel6
    let vxlanMac4 ← readText node .vxlanMac4
    let vxlanMac6 ← readText node .vxlanMac6
    let meshInterface ← readText node .meshInterface
    let meshKey ← readText node .meshKey
    return ⟨ipv4, ipv6, ipipTunnel, vxlanTunnel4, vxlanTunnel6, vxlanMac4, vxlanMac6, meshInterface,
      meshKey⟩

def check (event : Record) : Attempt α NodeEvent :=
  match NodeEvent.ofRecord event with
  | .error fault => throw (.event fault)
  | .ok e => pure e

def newFailure (name : String) (failures : List FieldFailure) : Attempt α NodeFailure :=
  if h : failures = [] then throw .noFailures else pure ⟨name, failures, h⟩

def errorOf (name : String) (failures : List FieldFailure) : Attempt α (Option NodeFailure) :=
  if failures.isEmpty then pure none else some <$> newFailure name failures

section Blocks

variable [DecidableEq α] (text : α → Option String)

/-- The blocks that a ledger has for a node and that are not among the current ones. -/
def goneOf (held : Table String (List α)) (name : String) (current : List α) : List α :=
  ((held.get? name).getD []).filter (· ∉ current)

def takeIn (held : Table String (List α)) (name : String) (current : List α) :
    Table String (List α) :=
  if (held.get? name).isNone && (firstSeen current).isEmpty then held
  else held.put name (firstSeen current)

def reconcile (name : String) (current : List α) : Attempt α (List α) :=
  modifyGet fun held => (goneOf held name current, takeIn held name current)

def forget (name : String) : Attempt α Unit := modify (·.erase name)

def deleteOf (e : NodeEvent) (result : FieldResult IPNetwork) : Option Record :=
  result.value?.map fun cidr => ⟨.block cidr, none, e.revision⟩

def assignmentOf (e : NodeEvent) (result : FieldResult IPNetwork) : Option Record :=
  result.value?.map fun cidr =>
    ⟨.block cidr, some (.block ⟨cidr, hostAffinity e.name⟩), e.revision⟩

def failureOf (raw : Option String) (result : FieldResult IPNetwork) : Option FieldFailure :=
  result.failure? (blockField (raw.getD "None"))

def removal (e : NodeEvent) (raw : Option String) : Attempt α (Option Record) := do
  return deleteOf e (← parse .cidr raw none)

def assignment (e : NodeEvent) (raw : Option String) :
    Attempt α (Option Record × Option FieldFailure) := do
  let result ← parse .cidr raw none
  return (assignmentOf e result, failureOf raw result)

/-- The blocks of a node, each where it first stands, and none of a node that is gone. -/
def currentOf (e : NodeEvent) (given : List α) : List α :=
  if e.node.isNone then [] else firstSeen given

def blocksOf (config : ProcessorConfig) (e : NodeEvent) (given : List α) :
    Attempt α (List Record × List FieldFailure) := do
  let removed ← reconcile e.name (currentOf e given)
  if e.node.isNone && config.pruneOnDelete then forget e.name
  let deletes ← removed.mapM fun block => removal e (text block)
  let blocks ← (currentOf e given).mapM fun block => assignment e (text block)
  return (deletes.filterMap id ++ blocks.filterMap (·.1), blocks.filterMap (·.2))

/-- The work on an event, with the blocks that are given for its node. -/
def process (config : ProcessorConfig) (event : Record) (given : List α) :
    Attempt α (List Record × Option NodeFailure) := do
  let e ← check event
  let reading ← readNode e.node
  let (records, failures) ←
    if config.usePodBlocks then blocksOf text config e given else pure ([], [])
  let error ← errorOf e.name (reading.failures ++ failures)
  return (nodeRecords config e reading ++ records, error)

end Blocks

/-! ### Steps that do not break off -/

theorem parse_eq (kind : FieldKind) (raw : Option String) (version : Option IPVersion) :
    (parse kind raw version : Attempt α _) = pure (Field.parse kind raw version) := by
  cases raw with
  | none => rfl
  | some raw =>
    by_cases empty : raw.isEmpty = true
    · simp only [parse, Field.parse, if_pos empty]
    · simp only [parse, Field.parse, if_neg empty, read, Field.resultFor]
      -- The guard catches every fault of a reader, and the check of the version has none.
      cases kind.read raw with
      | error fault => rfl
      | ok value => rfl

theorem firstOfVersion_eq (node : NodeDescriptor) (version : IPVersion)
    (candidates : List (String × Option String)) :
    (firstOfVersion version candidates : Attempt α _) =
      pure (node.firstOfVersion version candidates).value := by
  induction candidates with
  | nil => rfl
  | cons candidate rest ih =>
    obtain ⟨field, raw⟩ := candidate
    -- The label of a candidate is only for the journal, which the value leaves out.
    rw [firstOfVersion, parse_eq, pure_bind, NodeDescriptor.firstOfVersion, Logged.value_bind,
      Field.value_parseLogged]
    cases NodeDescriptor.addressOfVersion? version (Field.parse .cidrOrIp raw none) with
    | some address => rfl
    | none => exact ih

theorem readText_eq (node : NodeDescriptor) (field : TextField) :
    (readText node field : Attempt α _) = pure (node.read.value.result field) := by
  rw [readText, parse_eq, NodeDescriptor.result_read]

theorem primaryAddress_eq (node : NodeDescriptor) (version : IPVersion) :
    (primaryAddress node version : Attempt α _) = pure (node.primaryAddress version).value := by
  -- Without settings for routing there is no pinned text, which reads as an absent one.
  have pinned : Field.parse .cidrOrIp (node.fieldText (.pinned version)) (some version) =
      (node.readPinned version).value := by
    rw [NodeDescriptor.value_readPinned, NodeDescriptor.fieldText]
    cases node.bgp <;> rfl
  rw [primaryAddress, parse_eq, pure_bind, pinned, NodeDescriptor.primaryAddress,
    Logged.value_bind]
  cases (node.readPinned version).value.value? with
  | some address => rfl
  | none =>
    dsimp only
    rw [firstOfVersion_eq node, pure_bind]
    rfl

theorem readNode_eq (node : Option NodeDescriptor) :
    (readNode node : Attempt α _) = pure (Processor.readNode node).value := by
  cases node with
  | none => rfl
  | some node =>
    simp only [readNode, primaryAddress_eq, readText_eq, pure_bind]
    rfl

/-- An error is made only where there are failures. -/
theorem errorOf_eq (name : String) (failures : List FieldFailure) :
    (errorOf name failures : Attempt α _) = pure (NodeFailure.of? name failures) := by
  unfold errorOf newFailure NodeFailure.of?
  cases failures with
  | nil => rfl
  | cons first rest => rfl

/-! ### Runs of steps -/

/-- What steps come to, and the ledger behind them. -/
def run {β : Type} (steps : Attempt α β) (held : Table String (List α)) :
    Except Break β × Table String (List α) :=
  (StateT.run (ExceptT.run steps) held).run

theorem run_pure {β : Type} (b : β) (held : Table String (List α)) :
    run (pure b) held = (.ok b, held) := rfl

theorem run_throw {β : Type} (why : Break) (held : Table String (List α)) :
    run (throw why : Attempt α β) held = (.error why, held) := rfl

/-- What the first steps did to the ledger stays, also where a later one breaks off. -/
theorem run_bind {β γ : Type} (steps : Attempt α β) (next : β → Attempt α γ)
    (held : Table String (List α)) :
    run (steps >>= next) held =
      match run steps held with
      | (.ok b, after) => run (next b) after
      | (.error why, after) => (.error why, after) := by
  change (ExceptT.bindCont next (run steps held).1 (run steps held).2) = _
  rcases run steps held with ⟨answer, after⟩
  cases answer with
  | ok b => rfl
  | error why => rfl

theorem run_forget (name : String) (held : Table String (List α)) :
    run (forget name) held = (.ok (), held.erase name) := rfl

section Blocks

variable [DecidableEq α] (text : α → Option String) (config : ProcessorConfig) (e : NodeEvent)

theorem run_reconcile (name : String) (current : List α) (held : Table String (List α)) :
    run (reconcile name current) held =
      (.ok (goneOf held name current), takeIn held name current) := rfl

def deletes (blocks : List α) : List Record :=
  blocks.filterMap fun block => deleteOf e (Field.parse .cidr (text block) none)

def assignments (blocks : List α) : List Record :=
  blocks.filterMap fun block => assignmentOf e (Field.parse .cidr (text block) none)

def failures (blocks : List α) : List FieldFailure :=
  blocks.filterMap fun block => failureOf (text block) (Field.parse .cidr (text block) none)

/-- The ledger behind an event, with the blocks that are given for its node. -/
def behind (given : List α) (held : Table String (List α)) : Table String (List α) :=
  let taken := takeIn held e.name (currentOf e given)
  if e.node.isNone && config.pruneOnDelete then taken.erase e.name else taken

theorem run_blocksOf (given : List α) (held : Table String (List α)) :
    run (blocksOf text config e given) held =
      (.ok (deletes text e (goneOf held e.name (currentOf e given)) ++
          assignments text e (currentOf e given), failures text (currentOf e given)),
        behind config e given held) := by
  rw [blocksOf, run_bind, run_reconcile, behind]
  -- From here on the texts of the blocks are read, with the ledger changed already.
  simp only [removal, assignment, parse_eq, pure_bind, List.mapM_pure, List.filterMap_map]
  split
  next pruned =>
    rw [run_bind, run_forget]
    exact run_pure _ _
  next => exact run_pure _ _

/-- An event that is accepted is worked on to its end. -/
theorem run_process_toRecord (given : List α) (held : Table String (List α)) :
    run (process text config e.toRecord given) held =
      let reading := (Processor.readNode e.node).value
      let current := currentOf e given
      let gone := goneOf held e.name current
      (.ok (nodeRecords config e reading ++
            (if config.usePodBlocks then deletes text e gone ++ assignments text e current else []),
          NodeFailure.of? e.name (reading.failures ++
            if config.usePodBlocks then failures text current else [])),
        if config.usePodBlocks then behind config e given held else held) := by
  have checked : (check e.toRecord : Attempt α _) = pure e := by
    rw [check, NodeEvent.ofRecord_toRecord]
  -- Only the blocks touch the ledger, so all other steps are plain values.
  simp only [process, checked, readNode_eq, errorOf_eq, pure_bind]
  split
  next =>
    rw [run_bind, run_blocksOf]
    exact run_pure _ _
  next => exact run_pure _ _

end Blocks

/-! ### Steps on texts -/

section Texts

variable (config : ProcessorConfig) (ledger : BlockLedger) (e : NodeEvent)

theorem currentOf_podBlocks :
    currentOf e (e.node.elim [] (·.podBlocks)) = Processor.currentBlocks e.node := by
  obtain ⟨name, node, revision⟩ := e
  cases node <;> rfl

theorem takeIn_blocks (name : String) (current : List String) :
    takeIn ledger.blocks name current = (ledger.record name current).blocks := by
  unfold takeIn BlockLedger.record
  split <;> rfl

theorem behind_podBlocks :
    behind config e (e.node.elim [] (·.podBlocks)) ledger.blocks =
      (Processor.updateLedger config ledger e).value.2.blocks := by
  rw [behind, currentOf_podBlocks, takeIn_blocks, Processor.value_updateLedger]
  split <;> rfl

/-- With texts as blocks the steps come to what a processor does. -/
theorem run_process_texts :
    run (process some config e.toRecord (e.node.elim [] (·.podBlocks))) ledger.blocks =
      let o := (Processor.outcomeOf config ledger e).value
      (.ok (o.records, NodeFailure.of? e.name o.failures), o.ledger.blocks) := by
  have reported : (Processor.outcomeOf config ledger e).value.failures =
      (Processor.readNode e.node).value.failures ++
        if config.usePodBlocks then Processor.blockFailures e else [] :=
    congrArg Prod.snd (Processor.result_outcomeOf config ledger e)
  have settled : (Processor.outcomeOf config ledger e).value.ledger.blocks =
      if config.usePodBlocks then (Processor.updateLedger config ledger e).value.2.blocks
      else ledger.blocks := by
    split
    next pods => rw [Processor.ledger_outcomeOf_of_pods pods]
    next bare => rw [Processor.ledger_outcomeOf_of_no_pods (by simpa using bare)]
  rw [run_process_toRecord, currentOf_podBlocks, behind_podBlocks]
  simp only [Processor.records_outcomeOf_eq, reported, settled]
  rfl

end Texts

end Attempt

end NodeDataplane
