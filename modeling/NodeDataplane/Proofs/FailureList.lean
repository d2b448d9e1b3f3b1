import NodeDataplane.Proofs.PrimaryAddress

/-!
# Which fields are reported

What a node gives is checked input by input: its text fields in a fixed order, and behind them, if
blocks are published, every text of a block once. Each input has a label, a kind, and maybe a
version that its value must have. This is the whole list of what can be reported of a node. The
addresses that stand in for a pinned one are not on it, nor are the blocks that a node held before.

## Main result

`failures_exact`: the failures of an event are those of the inputs that are invalid, in their order.

## Proof strategy

The inputs that are texts are the text fields of a reading (`textInputs_eq`), each of which is read
on its own; those of the blocks are the current blocks of the node.
-/

namespace NodeDataplane

/-- A part of a node that is read on its own, and reported under its label if it is invalid. -/
structure CheckedInput where
  label : String
  kind : FieldKind
  raw : Option String
  version : Option IPVersion := none

namespace CheckedInput

def result (input : CheckedInput) : FieldResult input.kind.Value :=
  Field.parse input.kind input.raw input.version

/-- The report on an input, with the wording of the reader, if the input is invalid. -/
def report? (input : CheckedInput) : Option FieldFailure :=
  match input.result with
  | .invalid error => some ⟨input.label, error.message⟩
  | _ => none

theorem report?_eq_failure? (input : CheckedInput) :
    input.report? = input.result.failure? input.label := by
  unfold report?
  cases input.result <;> rfl

/-- What is left out, or written as nothing, is not invalid. -/
theorem isSome_report?_iff (input : CheckedInput) :
    input.report?.isSome = true ↔ ∃ raw, input.raw = some raw ∧ raw ≠ "" ∧
      ∀ value, Field.parse input.kind (some raw) input.version ≠ .parsed value := by
  obtain ⟨label, kind, raw, version⟩ := input
  cases raw with
  | none => simp [report?, result]
  | some raw =>
    have absent : Field.parse kind (some raw) version = .absent ↔ raw = "" :=
      Field.parse_eq_absent_iff
    simp only [report?, result, Option.some.injEq, exists_eq_left', ne_eq, ← absent]
    cases Field.parse kind (some raw) version <;> simp

/-- Reports stand under the labels of their inputs. -/
theorem map_field_filterMap_sublist (inputs : List CheckedInput) :
    ((inputs.filterMap report?).map (·.field)).Sublist (inputs.map (·.label)) := by
  induction inputs with
  | nil => exact .slnil
  | cons input rest ih =>
    rw [List.map_cons]
    cases reported : input.report? with
    | none =>
      rw [List.filterMap_cons_none reported]
      exact ih.cons _
    | some failure =>
      rw [List.filterMap_cons_some reported, List.map_cons]
      have label : failure.field = input.label := by
        unfold report? at reported
        split at reported
        next => exact (congrArg (·.field) (Option.some.inj reported)).symm
        next => cases reported
      rw [label]
      exact ih.cons_cons _

end CheckedInput

theorem Processor.blockField_injective : Function.Injective blockField := by
  intro first second same
  have lists := congrArg String.toList same
  rw [← String.toList_inj]
  simpa [blockField] using lists

namespace NodeDescriptor

def textInputs (node : NodeDescriptor) : List CheckedInput := [
  ⟨"bgp.ipv4_address", .cidrOrIp, node.bgp.bind (·.ipv4Address), some .v4⟩,
  ⟨"bgp.ipv6_address", .cidrOrIp, node.bgp.bind (·.ipv6Address), some .v6⟩,
  ⟨"bgp.ipv4_ipip_tunnel_addr", .ip, node.bgp.bind (·.ipipTunnelAddress), none⟩,
  ⟨"ipv4_vxlan_tunnel_addr", .ip, node.vxlanTunnelAddress4, none⟩,
  ⟨"ipv6_vxlan_tunnel_addr", .ip, node.vxlanTunnelAddress6, none⟩,
  ⟨"vxlan_tunnel_mac_v4", .identifier, node.vxlanTunnelMac4, none⟩,
  ⟨"vxlan_tunnel_mac_v6", .identifier, node.vxlanTunnelMac6, none⟩,
  ⟨"mesh.interface_address", .ip, node.mesh.bind (·.interfaceAddress), none⟩,
  ⟨"mesh_public_key", .meshPublicKey, node.meshPublicKey, none⟩]

/-- The texts of the blocks of a node, each where it first stands. -/
def blockInputs (node : NodeDescriptor) : List CheckedInput :=
  (firstSeen node.podBlocks).map fun raw => ⟨Processor.blockField raw, .cidr, some raw, none⟩

/-- All that is checked of a node, in the order in which it is reported. -/
def inputs (node : NodeDescriptor) (config : ProcessorConfig) : List CheckedInput :=
  node.textInputs ++ if config.usePodBlocks then node.blockInputs else []

theorem textInputs_eq (node : NodeDescriptor) :
    node.textInputs = TextField.all.map fun field =>
      ⟨field.label, field.kind, node.fieldText field, field.version?⟩ := rfl

theorem failures_read (node : NodeDescriptor) :
    node.read.value.failures = node.textInputs.filterMap CheckedInput.report? := by
  rw [NodeReading.failures_eq, textInputs_eq, List.filterMap_map]
  apply List.filterMap_congr
  intro field _
  rw [NodeReading.failureAt, result_read]
  exact (CheckedInput.report?_eq_failure?
    ⟨field.label, field.kind, node.fieldText field, field.version?⟩).symm

/-- No two inputs have one label. -/
theorem nodup_map_label_inputs (node : NodeDescriptor) (config : ProcessorConfig) :
    ((node.inputs config).map (·.label)).Nodup := by
  have texts : node.textInputs.map (·.label) = TextField.all.map TextField.label := by
    rw [textInputs_eq, List.map_map]
    rfl
  have blocks : node.blockInputs.map (·.label) =
      (firstSeen node.podBlocks).map Processor.blockField := by
    rw [blockInputs, List.map_map]
    rfl
  rw [inputs, List.map_append, texts]
  split
  next =>
    rw [blocks, List.nodup_append]
    refine ⟨TextField.nodup_map_label, (nodup_firstSeen _).map Processor.blockField_injective, ?_⟩
    -- No field has the name of a block.
    intro label text other block
    obtain ⟨field, -, rfl⟩ := List.mem_map.1 text
    obtain ⟨raw, -, rfl⟩ := List.mem_map.1 block
    exact field.label_ne_blockField raw
  next =>
    rw [List.map_nil, List.append_nil]
    exact TextField.nodup_map_label

end NodeDescriptor

namespace Processor

theorem blockFailures_eq (name revision : String) (node : NodeDescriptor) :
    blockFailures ⟨name, some node, revision⟩ =
      node.blockInputs.filterMap CheckedInput.report? := by
  rw [blockFailures, NodeDescriptor.blockInputs, List.filterMap_map]
  apply List.filterMap_congr
  intro raw _
  rw [value_blockRecord]
  exact (CheckedInput.report?_eq_failure? ⟨blockField raw, .cidr, some raw, none⟩).symm

/-- A node that is gone has no inputs, so nothing is reported of it. -/
theorem failures_outcomeOf_eq (config : ProcessorConfig) (ledger : BlockLedger) (e : NodeEvent) :
    (outcomeOf config ledger e).value.failures =
      (e.node.elim [] (·.inputs config)).filterMap CheckedInput.report? := by
  obtain ⟨name, node, revision⟩ := e
  cases pods : config.usePodBlocks with
  | false =>
    rw [failures_outcomeOf_of_no_pods pods]
    cases node with
    | none => rfl
    | some node =>
      rw [Option.elim_some, NodeDescriptor.inputs, if_neg (by simp [pods]), List.append_nil]
      exact node.failures_read
  | true =>
    rw [failures_outcomeOf_of_pods pods]
    cases node with
    | none => rfl
    | some node =>
      rw [Option.elim_some, NodeDescriptor.inputs, if_pos pods, List.filterMap_append,
        blockFailures_eq]
      exact congrArg (· ++ _) node.failures_read

end Processor

namespace NodeFailure

variable {name : String} {failures : List FieldFailure}

theorem of?_eq_none_iff : of? name failures = none ↔ failures = [] := by
  unfold of?
  split
  next empty => exact iff_of_true rfl empty
  next nonempty => exact iff_of_false nofun nonempty

theorem of?_eq_some_iff {failure : NodeFailure} :
    of? name failures = some failure ↔ failure.node = name ∧ failure.failures = failures := by
  obtain ⟨node, listed, nonempty⟩ := failure
  unfold of?
  split
  next empty =>
    refine iff_of_false nofun ?_
    rintro ⟨-, rfl⟩
    exact nonempty empty
  next =>
    simp only [Option.some.injEq, mk.injEq]
    constructor
    · rintro ⟨rfl, rfl⟩
      exact ⟨rfl, rfl⟩
    · rintro ⟨rfl, rfl⟩
      exact ⟨rfl, rfl⟩

end NodeFailure

namespace Processor

/-- **The failures are those of the invalid inputs.** To every event that is accepted, with any
switches and any ledger, a processor reports the inputs of the node that are invalid, each once and
in the order of the inputs, with the wording of the reader. An input is invalid if it is written and
has no value. There is an error if there is a failure; it lists just these, and its last one is the
last of them. So there is none if the node is gone, whatever the ledger holds for it. -/
theorem failures_exact (config : ProcessorConfig) (ledger : BlockLedger) (e : NodeEvent) :
    let inputs := e.node.elim [] (·.inputs config)
    let invalid := inputs.filterMap CheckedInput.report?
    ∃ outcome, answer config ledger e.toRecord = .ok outcome ∧
      outcome.failures = invalid ∧ (outcome.failures.map (·.field)).Nodup ∧
      (∀ input ∈ inputs, input.report?.isSome = true ↔ ∃ raw, input.raw = some raw ∧ raw ≠ "" ∧
        ∀ value, Field.parse input.kind (some raw) input.version ≠ .parsed value) ∧
      (NodeFailure.of? e.name outcome.failures = none ↔ invalid = []) ∧
      (e.node = none → NodeFailure.of? e.name outcome.failures = none) ∧
      ∀ error, NodeFailure.of? e.name outcome.failures = some error →
        error.node = e.name ∧ error.failures = invalid ∧ invalid.getLast? = some error.last := by
  intro inputs invalid
  have failures := failures_outcomeOf_eq config ledger e
  have labels : (inputs.map (·.label)).Nodup := by
    cases gone : e.node with
    | none => simp [inputs, gone]
    | some node => simpa [inputs, gone] using node.nodup_map_label_inputs config
  refine ⟨_, answer_toRecord config ledger e, failures, ?_, fun input _ => input.isSome_report?_iff,
    ?_, ?_, ?_⟩
  · rw [failures]
    exact labels.sublist (CheckedInput.map_field_filterMap_sublist inputs)
  · rw [failures]
    exact NodeFailure.of?_eq_none_iff
  · intro gone
    rw [failures, gone]
    rfl
  · intro error made
    rw [failures] at made
    obtain ⟨named, listed⟩ := NodeFailure.of?_eq_some_iff.1 made
    have same : invalid = error.failures := listed.symm
    refine ⟨named, listed, ?_⟩
    rw [same]
    exact List.getLast?_eq_some_getLast error.nonempty

end Processor

end NodeDataplane
