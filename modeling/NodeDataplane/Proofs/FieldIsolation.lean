import NodeDataplane.Proofs.Publication
import NodeDataplane.Proofs.Reading
import Mathlib.Data.List.Basic

/-!
# Fields do not disturb each other

A field that is malformed is reported, and takes away the setting that it is for. Some things are
shared between the fields of a node: the list of failures, the record of the mesh that two fields
fill in, the addresses that stand in for those that are not pinned, and the ledger. None of them
carries a fault over to another field.

## Main result

`answer_beside`: nodes that differ in one field alone get answers that are the same in all that the
field does not own.

## Proof strategy

What a field owns is taken out of an outcome (`Outcome.beside`), so that two answers can be compared
by an equation. The readings of the two nodes agree but for the field, and the primary addresses but
for the two fields that they come from (`NodeReading.AgreeBeside`). Each record of a setting is then
compared on its own. Blocks are published from the blocks of the node alone.
-/

namespace NodeDataplane

/-- A part of a descriptor that can be valid or malformed on its own. -/
inductive InputField where
  | text (field : TextField)
  | addresses
  | podBlocks
  deriving DecidableEq, Repr

inductive Content where
  | text (raw : Option String)
  | addresses (addresses : List NodeAddress)
  | podBlocks (raws : List String)
  deriving DecidableEq, Repr

/-- What a node gives for a field. An empty text is as good as none. -/
def NodeDescriptor.given (node : NodeDescriptor) : InputField → Content
  | .text field => .text ((node.fieldText field).filter (· ≠ ""))
  | .addresses => .addresses node.addresses
  | .podBlocks => .podBlocks node.podBlocks

/-! ### What a field owns -/

def Value.meshInterface? : Value → Option Value
  | .mesh config => config.interfaceAddress.map .address
  | _ => none

def Value.meshKey? : Value → Option Value
  | .mesh config => config.publicKey.map .text
  | _ => none

namespace InputField

/-- Whether a failure is one of the field. -/
def labels (field : InputField) (f : FieldFailure) : Bool :=
  match field with
  | text field => f.field = field.label
  -- Addresses that stand in never fail.
  | addresses => false
  | podBlocks => "pod_cidrs[".toList.isPrefixOf f.field.toList

def setting? : InputField → Option String
  | text field => field.setting?
  | _ => none

/-- What is left of a value under a key without what the field owns of it. -/
def leaves (field : InputField) : Key → Option Value → Option Value
  -- The node itself goes on as it came, with all its fields.
  | .resource _ _, _ => none
  | .primaryAddress _ version, value =>
    if field = text (.pinned version) ∨ field = addresses then none else value
  | .tunnel _ setting, value => if field.setting? = some setting then none else value
  | .mesh _, value =>
    -- The two fields of the mesh own one component each.
    if field = text .meshInterface then value.bind Value.meshKey?
    else if field = text .meshKey then value.bind Value.meshInterface?
    else value
  | _, value => value

/-- What is left of a record without what the field owns of it. -/
def beside (field : InputField) (r : Record) : Option Record :=
  match field, r.key with
  -- How many blocks there are is a matter of the field too.
  | podBlocks, .block _ => none
  | _, _ => some { r with value := field.leaves r.key r.value }

end InputField

/-- What is left of an outcome: a record at each position, failures, and the ledger. -/
@[ext] structure Remainder where
  record : Nat → Option Record
  failures : List FieldFailure
  ledger : Option BlockLedger

/-- What is left of an outcome without what the field owns of it. -/
def Outcome.beside (field : InputField) (o : Outcome) : Remainder where
  record i := o.records[i]?.bind field.beside
  failures := o.failures.filter fun f => !field.labels f
  ledger := if field = .podBlocks then none else some o.ledger

/-! ### Readings -/

/-- Readings that agree on all that is not read from a field. -/
structure NodeReading.AgreeBeside (field : InputField) (r s : NodeReading) : Prop where
  result : ∀ other, field ≠ .text other → r.result other = s.result other
  address : ∀ version, field ≠ .text (.pinned version) → field ≠ .addresses →
    (r.primary version).address = (s.primary version).address

section Readings

variable {field : InputField} {first second : NodeDescriptor}

theorem agreeBeside_read (same : ∀ other, field ≠ other → first.given other = second.given other) :
    NodeReading.AgreeBeside field first.read.value second.read.value := by
  have result (other : TextField) (apart : field ≠ .text other) :
      first.read.value.result other = second.read.value.result other := by
    have given := same _ apart
    simp only [NodeDescriptor.given, Content.text.injEq] at given
    rw [NodeDescriptor.result_read, NodeDescriptor.result_read, ← Field.parse_filter, given,
      Field.parse_filter]
  refine ⟨result, fun version pinned apart => ?_⟩
  -- A primary address is the one that is pinned or comes from the addresses of the node.
  have addresses : first.addresses = second.addresses := by
    simpa [NodeDescriptor.given] using same .addresses apart
  have candidates : first.candidates = second.candidates := by
    simp only [NodeDescriptor.candidates, NodeDescriptor.addressesOf, addresses]
  have pinned := result (.pinned version) pinned
  simp only [NodeReading.result] at pinned
  rw [NodeDescriptor.address_read, NodeDescriptor.address_read, pinned, candidates]

end Readings

theorem NodeReading.meshKey?_meshConfig? (r : NodeReading) :
    (r.meshConfig?.map .mesh).bind Value.meshKey? = r.meshKey.value?.map .text := by
  unfold meshConfig?
  cases r.meshInterface.value? <;> cases r.meshKey.value? <;> rfl

theorem NodeReading.meshInterface?_meshConfig? (r : NodeReading) :
    (r.meshConfig?.map .mesh).bind Value.meshInterface? = r.meshInterface.value?.map .address := by
  unfold meshConfig?
  cases r.meshInterface.value? <;> cases r.meshKey.value? <;> rfl

/-- Every failure of a field is one that the field owns. -/
theorem NodeReading.filter_failureAt (r : NodeReading) (field : TextField) :
    (r.failureAt field).filter (fun f => !(InputField.text field).labels f) = none := by
  unfold failureAt FieldResult.failure?
  cases (r.result field).error? <;> simp [InputField.labels, Option.filter_some]

namespace NodeReading.AgreeBeside

variable {field : InputField} {r s : NodeReading} (agree : AgreeBeside field r s)

include agree

theorem leaves_primaryAddress (name : String) (version : IPVersion) :
    field.leaves (.primaryAddress name version) ((r.primary version).address.map .address) =
      field.leaves (.primaryAddress name version) ((s.primary version).address.map .address) := by
  by_cases own : field = .text (.pinned version) ∨ field = .addresses
  · simp only [InputField.leaves, if_pos own]
  · rw [not_or] at own
    rw [agree.address version own.1 own.2]

theorem leaves_tunnel (name : String) {other : TextField} {setting : String}
    (published : other.setting? = some setting) :
    field.leaves (.tunnel name setting) ((r.textAt other).map .text) =
      field.leaves (.tunnel name setting) ((s.textAt other).map .text) := by
  by_cases own : field = .text other
  · have owned : field.setting? = some setting := by rw [own]; exact published
    simp only [InputField.leaves, if_pos owned]
  · rw [textAt, textAt, agree.result other own]

theorem leaves_mesh (name : String) :
    field.leaves (.mesh name) (r.meshConfig?.map .mesh) =
      field.leaves (.mesh name) (s.meshConfig?.map .mesh) := by
  by_cases ofInterface : field = .text .meshInterface
  · -- The key is left, and it is read from a field of its own.
    subst ofInterface
    have key : r.meshKey = s.meshKey := agree.result .meshKey (by decide)
    simp only [InputField.leaves, if_true, meshKey?_meshConfig?, key]
  · have interface : r.meshInterface = s.meshInterface := agree.result .meshInterface ofInterface
    by_cases ofKey : field = .text .meshKey
    · subst ofKey
      simp only [InputField.leaves, ofInterface, if_false, if_true, meshInterface?_meshConfig?,
        interface]
    · have key : r.meshKey = s.meshKey := agree.result .meshKey ofKey
      rw [meshConfig?, meshConfig?, interface, key]

/-- A failure that is not one of the field is told by both readings. -/
theorem filter_failures :
    r.failures.filter (fun f => !field.labels f) = s.failures.filter (fun f => !field.labels f) := by
  rw [failures_eq, failures_eq, List.filter_filterMap, List.filter_filterMap]
  apply List.filterMap_congr
  intro other _
  by_cases own : field = .text other
  · subst own
    rw [filter_failureAt, filter_failureAt]
  · rw [failureAt, failureAt, agree.result other own]

end NodeReading.AgreeBeside

/-! ### Records -/

theorem InputField.beside_congr {field : InputField} {key : Key} {value other : Option Value}
    (h : field.leaves key value = field.leaves key other) (revision : String) :
    field.beside ⟨key, value, revision⟩ = field.beside ⟨key, other, revision⟩ := by
  unfold beside
  split <;> simp_all

/-- Lists of two parts match place by place if their parts do and the first parts are equally
long. -/
theorem bind_getElem?_append {α β : Type} {g : α → Option β} {xs xs' ys ys' : List α}
    (front : xs.map g = xs'.map g) (back : ∀ i : Nat, ys[i]?.bind g = ys'[i]?.bind g)
    (i : Nat) : (xs ++ ys)[i]?.bind g = (xs' ++ ys')[i]?.bind g := by
  have length : xs.length = xs'.length := by simpa using congrArg List.length front
  by_cases inside : i < xs.length
  · rw [List.getElem?_append_left inside, List.getElem?_append_left (by omega)]
    have there : xs[i]?.map g = xs'[i]?.map g := by
      rw [← List.getElem?_map, ← List.getElem?_map, front]
    simpa only [Option.bind_map, Function.id_comp] using congrArg (Option.bind · id) there
  · -- Behind the first parts, the places are shifted by the same length.
    rw [Nat.not_lt] at inside
    rw [List.getElem?_append_right inside, List.getElem?_append_right (by omega), length]
    exact back _

namespace Processor

section Blocks

variable (config : ProcessorConfig) (ledger : BlockLedger)

/-- The field of the blocks owns all that is published of them. -/
theorem beside_publishBlocks (e : NodeEvent) :
    (publishBlocks config ledger e).value.beside .podBlocks = ⟨fun _ => none, [], none⟩ := by
  cases pods : config.usePodBlocks with
  | false => simp [publishBlocks, pods, Outcome.beside]
  | true =>
    rw [publishBlocks, if_pos pods]
    ext1
    · funext i
      cases found : (blockOutcome config ledger e).value.records[i]? with
      | none => simp only [Outcome.beside, found, Option.bind_none]
      | some r =>
        have member := List.mem_of_getElem? found
        rw [records_blockOutcome] at member
        obtain ⟨c, keyed⟩ := key_block_of_mem member
        simp only [Outcome.beside, found, Option.bind_some, InputField.beside, keyed]
    · -- Whatever the block is written as, its failure is told under the name of the field.
      simp only [Outcome.beside, List.filter_eq_nil_iff, failures_blockOutcome]
      intro f member
      obtain ⟨raw, -, failed⟩ := List.mem_filterMap.1 member
      simp only [value_blockRecord, FieldResult.failure?, Option.map_eq_some_iff] at failed
      obtain ⟨error, -, rfl⟩ := failed
      simp [InputField.labels, blockField, String.toList_append]
    · rfl

/-- Blocks are published from the blocks of a node alone. -/
theorem publishBlocks_congr (name revision : String) {first second : NodeDescriptor}
    (same : first.podBlocks = second.podBlocks) :
    publishBlocks config ledger ⟨name, some first, revision⟩ =
      publishBlocks config ledger ⟨name, some second, revision⟩ := by
  have blocks : currentBlocks (some first) = currentBlocks (some second) := congrArg firstSeen same
  simp only [publishBlocks, blockOutcome, updateLedger, blocks]
  rfl

theorem beside_publishBlocks_congr (name revision : String) {field : InputField}
    {first second : NodeDescriptor}
    (same : ∀ other, field ≠ other → first.given other = second.given other) :
    (publishBlocks config ledger ⟨name, some first, revision⟩).value.beside field =
      (publishBlocks config ledger ⟨name, some second, revision⟩).value.beside field := by
  by_cases own : field = .podBlocks
  · rw [own, beside_publishBlocks, beside_publishBlocks]
  · have blocks : first.podBlocks = second.podBlocks := by
      simpa [NodeDescriptor.given] using same .podBlocks own
    rw [publishBlocks_congr config ledger name revision blocks]

end Blocks

theorem map_beside_nodeRecords {field : InputField} {r s : NodeReading}
    (agree : NodeReading.AgreeBeside field r s) (config : ProcessorConfig) (name revision : String)
    (first second : NodeDescriptor) :
    (nodeRecords config ⟨name, some first, revision⟩ r).map field.beside =
      (nodeRecords config ⟨name, some second, revision⟩ s).map field.beside := by
  rw [nodeRecords_eq, nodeRecords_eq]
  simp only [List.map_append, List.map_cons, List.map_nil, List.map_map, List.map_filterMap]
  congr 1
  · congr 1
    · apply List.map_congr_left
      intro version _
      exact InputField.beside_congr (agree.leaves_primaryAddress name version) revision
    · apply List.filterMap_congr
      intro other _
      cases published : other.setting? with
      | none => rfl
      | some setting =>
        exact congrArg some
          (InputField.beside_congr (agree.leaves_tunnel name published) revision)
  · -- The node itself is left out on both sides.
    have resource : field.leaves (.resource name nodeKind) (some (.node first)) =
      field.leaves (.resource name nodeKind) (some (.node second)) := rfl
    exact congrArg₂ (fun node mesh => [node, mesh]) (InputField.beside_congr resource revision)
      (InputField.beside_congr (agree.leaves_mesh name) revision)

theorem beside_outcomeOf (config : ProcessorConfig) (ledger : BlockLedger) (name revision : String)
    {field : InputField} {first second : NodeDescriptor}
    (same : ∀ other, field ≠ other → first.given other = second.given other) :
    (outcomeOf config ledger ⟨name, some first, revision⟩).value.beside field =
      (outcomeOf config ledger ⟨name, some second, revision⟩).value.beside field := by
  have agree := agreeBeside_read same
  have settings := map_beside_nodeRecords agree config name revision first second
  have blocks := beside_publishBlocks_congr config ledger name revision same
  ext1
  · funext i
    exact bind_getElem?_append settings (congrFun (congrArg Remainder.record blocks)) i
  · simp only [Outcome.beside, failures_outcomeOf, List.filter_append]
    exact congrArg₂ _ agree.filter_failures (congrArg Remainder.failures blocks)
  · simp only [Outcome.beside, ledger_outcomeOf]
    exact congrArg Remainder.ledger blocks

/-! ### Main result -/

/-- An event is refused whatever node it carries, or it is that of a node. -/
theorem refused_or_node (config : ProcessorConfig) (ledger : BlockLedger) (key : Key)
    (revision : String) :
    (∃ fault, ∀ node, answer config ledger ⟨key, some (.node node), revision⟩ = .error fault) ∨
      ∃ name, key = .resource name nodeKind := by
  cases key with
  | resource name kind =>
    by_cases node : kind = nodeKind
    · exact Or.inr ⟨name, by rw [node]⟩
    · left
      refine ⟨.keyMismatch (.resource name kind), fun _ => ?_⟩
      simp only [answer, process, NodeEvent.ofRecord, if_pos node, Except.map]
  | _ => exact Or.inl ⟨.keyMismatch _, fun _ => rfl⟩

/-- **Fields do not disturb each other.** Let two nodes give the same for all fields but one, and
anything for this one: a valid text, a malformed one, an empty one or none. To the event that tells
of either node, a processor gives answers that are the same without what the field owns. That is the
value of the record that the field is for, its component of the mesh, or the primary addresses; for
the blocks it is all records of blocks and the ledger; and in each case the failures under the name
of the field. The node itself, which goes on as it came, is left out. -/
theorem answer_beside (config : ProcessorConfig) (ledger : BlockLedger) (key : Key)
    (revision : String) {field : InputField} {first second : NodeDescriptor}
    (same : ∀ other, field ≠ other → first.given other = second.given other) :
    (answer config ledger ⟨key, some (.node first), revision⟩).map (Outcome.beside field) =
      (answer config ledger ⟨key, some (.node second), revision⟩).map (Outcome.beside field) := by
  rcases refused_or_node config ledger key revision with ⟨fault, refused⟩ | ⟨name, rfl⟩
  · rw [refused first, refused second]
  · have answered (node : NodeDescriptor) :
        answer config ledger ⟨.resource name nodeKind, some (.node node), revision⟩ =
          .ok (outcomeOf config ledger ⟨name, some node, revision⟩).value :=
      answer_toRecord config ledger ⟨name, some node, revision⟩
    rw [answered first, answered second]
    exact congrArg Except.ok (beside_outcomeOf config ledger name revision same)

/-- A key of the mesh that is too short, and none: only one of the two nodes has a failure. -/
theorem answer_beside_of_short_key :
    let keyless : NodeDescriptor :=
      { name := "a", mesh := some ⟨some "10.0.0.9"⟩, podBlocks := ["10.0.0.0/24"] }
    let short : NodeDescriptor := { keyless with meshPublicKey := some "short" }
    let event (node : NodeDescriptor) : Record := ⟨.resource "a" nodeKind, some (.node node), "1"⟩
    let failing (node : NodeDescriptor) : List String :=
      (outcomeOf {} .empty ⟨"a", some node, "1"⟩).value.failures.map (·.field)
    (∀ other, .text .meshKey ≠ other → short.given other = keyless.given other) ∧
      (answer {} .empty (event short)).map (Outcome.beside (.text .meshKey)) =
        (answer {} .empty (event keyless)).map (Outcome.beside (.text .meshKey)) ∧
      failing short = ["mesh_public_key"] ∧ failing keyless = [] := by
  intro keyless short event failing
  have same (other : InputField) (apart : .text .meshKey ≠ other) :
      short.given other = keyless.given other := by
    cases other with
    | text field =>
      cases field with
      | meshKey => exact absurd rfl apart
      | _ => rfl
    | _ => rfl
  exact ⟨same, answer_beside {} .empty _ "1" same, by decide +kernel, by decide +kernel⟩

end Processor

end NodeDataplane
