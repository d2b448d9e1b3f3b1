import NodeDataplane.Proofs.BlockRecords
import NodeDataplane.Proofs.CanonicalText

/-!
# The records of an event in their order

Every event of a node gives one record for each setting of the node, in an order that the switches
alone decide, and behind them the records of its blocks. The order is written out here as a list of
keys, apart from the way in which the records come about.

## Main result

`records_in_order`: the records of an event are those of its settings, then the deletes of the
blocks that are gone, then the blocks that the node holds.

## Proof strategy

The keys of the settings do not depend on what is read of the node, so they are those of a node that
is gone (`settingKeys_eq`). The values are told apart by their keys, each of which stands once among
the settings.
-/

namespace NodeDataplane

namespace Processor

/-- The keys of the settings of a node, in the order of their records. -/
def settingOrder (config : ProcessorConfig) (name : String) : List Key :=
  [.primaryAddress name .v4] ++ (if config.emitIPv6 then [.primaryAddress name .v6] else []) ++
    [ .tunnel name TunnelSetting.ipip,
      .tunnel name TunnelSetting.vxlanAddress4,
      .tunnel name TunnelSetting.vxlanAddress6,
      .tunnel name TunnelSetting.vxlanMac6,
      .tunnel name TunnelSetting.vxlanMac4,
      .resource name nodeKind,
      .mesh name ]

theorem settingKeys_eq (config : ProcessorConfig) (name : String) :
    settingKeys config name = settingOrder config name := by
  -- With the switch known, the records of a node that is gone are a list that is written out.
  unfold settingKeys settingOrder nodeRecords
  cases config.emitIPv6 <;> rfl

/-! ### The values of the settings -/

section Settings

variable {config : ProcessorConfig} {e : NodeEvent} {reading : NodeReading}

theorem revision_of_mem_nodeRecords {r : Record} (setting : r ∈ nodeRecords config e reading) :
    r.revision = e.revision := by
  rw [nodeRecords_eq] at setting
  simp only [List.mem_append, List.mem_map, List.mem_filterMap, Option.map_eq_some_iff,
    List.mem_cons, List.not_mem_nil, or_false] at setting
  rcases setting with (⟨_, -, rfl⟩ | ⟨_, -, _, -, rfl⟩) | rfl | rfl <;> rfl

theorem resource_mem_nodeRecords :
    ⟨.resource e.name nodeKind, e.toRecord.value, e.revision⟩ ∈ nodeRecords config e reading := by
  rw [nodeRecords_eq]
  exact List.mem_append_right _ List.mem_cons_self

theorem mesh_mem_nodeRecords :
    ⟨.mesh e.name, reading.meshConfig?.map .mesh, e.revision⟩ ∈ nodeRecords config e reading := by
  rw [nodeRecords_eq]
  exact List.mem_append_right _ (List.mem_cons_of_mem _ List.mem_cons_self)

theorem tunnel_mem_nodeRecords {field : TextField} {setting : String}
    (published : field.setting? = some setting) :
    ⟨.tunnel e.name setting, (reading.textAt field).map .text, e.revision⟩ ∈
      nodeRecords config e reading := by
  rw [nodeRecords_eq]
  refine List.mem_append_left _ (List.mem_append_right _ (List.mem_filterMap.2 ⟨field, ?_, ?_⟩))
  · exact TextField.mem_tunnels published
  · rw [published]
    rfl

end Settings

/-- One of the two fields of the mesh is enough. -/
theorem isSome_meshConfig?_iff (reading : NodeReading) :
    reading.meshConfig?.isSome = true ↔
      reading.meshInterface.ok = true ∨ reading.meshKey.ok = true := by
  unfold NodeReading.meshConfig? FieldResult.ok
  cases reading.meshInterface.value? <;> cases reading.meshKey.value? <;> simp

/-- What is read of a field of a node, and nothing of a node that is gone. -/
theorem result_readNode (node : Option NodeDescriptor) (field : TextField) :
    (readNode node).value.result field =
      Field.parse field.kind (node.bind (·.fieldText field)) field.version? := by
  cases node with
  | none => exact NodeReading.result_absent field
  | some node => exact node.result_read field

/-! ### The blocks -/

theorem removals_eq_filter (ledger : BlockLedger) (e : NodeEvent) :
    ledger.removals e.name (currentBlocks e.node) =
      (ledger.lookup e.name).filter (· ∉ e.node.elim [] (·.podBlocks)) := by
  rw [BlockLedger.removals, currentBlocks_eq_firstSeen]
  simp only [mem_firstSeen]

theorem revision_of_mem_blocks {ledger : BlockLedger} {e : NodeEvent} {r : Record}
    (block : r ∈ blockDeletes ledger e ++ blockAssignments e) : r.revision = e.revision := by
  rcases List.mem_append.1 block with delete | assignment
  · obtain ⟨c, -, rfl⟩ := mem_blockDeletes_iff.1 delete
    rfl
  · obtain ⟨c, -, rfl⟩ := mem_blockAssignments_iff.1 assignment
    rfl

theorem records_outcomeOf_eq (config : ProcessorConfig) (ledger : BlockLedger) (e : NodeEvent) :
    (outcomeOf config ledger e).value.records =
      nodeRecords config e (readNode e.node).value ++
        if config.usePodBlocks then blockDeletes ledger e ++ blockAssignments e else [] :=
  congrArg Prod.fst (result_outcomeOf config ledger e)

theorem revision_of_mem_outcomeOf {config : ProcessorConfig} {ledger : BlockLedger} {e : NodeEvent}
    {r : Record} (member : r ∈ (outcomeOf config ledger e).value.records) :
    r.revision = e.revision := by
  rw [records_outcomeOf_eq] at member
  rcases List.mem_append.1 member with setting | block
  · exact revision_of_mem_nodeRecords setting
  · split at block
    · exact revision_of_mem_blocks block
    · cases block

/-! ### Main result -/

/-- **The records of an event, in their order.** To every event of a node, with any switches and any
ledger, a processor gives a record for every setting in the order of the settings. Behind them, if
blocks are published, come a delete for every text that the ledger held for the node, that the node
does not give and that writes a block, in the order of the ledger; and then a block for every text
that the node gives and that writes one, each text once and where it first stands. Every record is
of the revision of the event. The node goes on as it came; a setting of the tunnels holds what is
read of its own field, and the mesh is set if one of its two fields is valid. All records of a node
that is gone are deletes. -/
theorem records_in_order (config : ProcessorConfig) (ledger : BlockLedger) (e : NodeEvent) :
    let raws := e.node.elim [] (·.podBlocks)
    let gone := (ledger.lookup e.name).filter (· ∉ raws)
    let deletes := gone.filterMap fun raw => (network? raw).map fun c =>
      (⟨.block c, none, e.revision⟩ : Record)
    let blocks := (firstSeen raws).filterMap fun raw => (network? raw).map fun c =>
      (⟨.block c, some (.block ⟨c, hostAffinity e.name⟩), e.revision⟩ : Record)
    let read (field : TextField) :=
      Field.parse field.kind (e.node.bind (·.fieldText field)) field.version?
    ∃ outcome settings, answer config ledger e.toRecord = .ok outcome ∧
      outcome.records = settings ++ (if config.usePodBlocks then deletes ++ blocks else []) ∧
      settings.map (·.key) = settingOrder config e.name ∧
      (∀ r ∈ outcome.records, r.revision = e.revision) ∧
      ⟨.resource e.name nodeKind, e.toRecord.value, e.revision⟩ ∈ settings ∧
      (∀ field setting, field.setting? = some setting →
        ⟨.tunnel e.name setting, ((read field).value?.map field.kind.text).map .text, e.revision⟩ ∈
          settings) ∧
      (∃ mesh, ⟨.mesh e.name, mesh, e.revision⟩ ∈ settings ∧
        (mesh.isSome = true ↔
          (read .meshInterface).ok = true ∨ (read .meshKey).ok = true)) ∧
      (e.node = none → ∀ r ∈ outcome.records, r.isDelete = true) := by
  intro raws gone deletes blocks read
  -- The settings are told of what is read of the node, and the statement of its texts.
  let reading := (readNode e.node).value
  have reads (field : TextField) : reading.result field = read field :=
    result_readNode e.node field
  refine ⟨_, nodeRecords config e reading, answer_toRecord config ledger e, ?_, ?_,
    fun r => revision_of_mem_outcomeOf, resource_mem_nodeRecords, ?_,
    ⟨_, mesh_mem_nodeRecords, ?_⟩, ?_⟩
  · have deleted : blockDeletes ledger e = deletes := by
      rw [blockDeletes, removals_eq_filter]
      rfl
    have assigned : blockAssignments e = blocks := by
      rw [blockAssignments, currentBlocks_eq_firstSeen]
      rfl
    rw [records_outcomeOf_eq, deleted, assigned]
  · rw [map_key_nodeRecords, settingKeys_eq]
  · intro field setting published
    rw [← reads field]
    exact tunnel_mem_nodeRecords published
  · rw [Option.isSome_map, isSome_meshConfig?_iff, ← reads .meshInterface, ← reads .meshKey]
    exact Iff.rfl
  · intro absent r member
    rw [Record.isDelete, value_eq_none_of_gone absent member]
    rfl

end Processor

end NodeDataplane
