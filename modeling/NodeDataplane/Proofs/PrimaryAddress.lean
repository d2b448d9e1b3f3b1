import Mathlib.Data.List.Nodup
import NodeDataplane.Proofs.CanonicalText
import NodeDataplane.Proofs.FieldIsolation

/-!
# Where the primary address comes from

The primary address of a version is told by the first of some texts: the one that routing pins, then
the internal addresses of the node, then the external ones. The pinned text is read with the version
in mind, so that a valid address of the other version makes the field invalid; the other texts are
read without it, and an address of the other version is passed over.

## Main result

`primaryAddress_resolved`: the address is that of the first text that tells one of the version. The
pinned text is reported if it is written and tells none, and nothing else is.

## Proof strategy

Both ways of reading a text accept the same addresses of the version (`parse_pinned_eq_parsed_iff`),
so the pinned text and the candidates are one list, of which the first that counts is taken
(`address_eq_findSome?`). A failure is told under the label of its field, and no two fields have the
same (`label_inj`).
-/

namespace NodeDataplane

/-- A text from which an address of a version is read. -/
def TellsAddress (version : IPVersion) (raw : Option String) (address : IPAddress) : Prop :=
  Field.parse .cidrOrIp raw none = .parsed address ∧ address.version = version

/-- The address that the first of some texts tells, among those that tell one of a version. -/
def IsFirstAddress (version : IPVersion) (raws : List (Option String)) (address : IPAddress) :
    Prop :=
  ∃ before raw after, raws = before ++ raw :: after ∧ TellsAddress version raw address ∧
    ∀ passed ∈ before, ∀ other, ¬ TellsAddress version passed other

namespace NodeDescriptor

/-- The texts that may tell the primary address of a version, in the order in which they count. -/
def addressTexts (node : NodeDescriptor) (version : IPVersion) : List (Option String) :=
  (node.bgp.map (·.address version)).toList ++
    ((node.addresses.filter (·.kind = .internal)).map (·.address) ++
      (node.addresses.filter (·.kind = .external)).map (·.address))

/-- A node for which routing pins a text that is no address of the version. -/
def PinsNoAddress (node : NodeDescriptor) (version : IPVersion) : Prop :=
  ∃ bgp raw, node.bgp = some bgp ∧ bgp.address version = some raw ∧ raw ≠ "" ∧
    ∀ address, ¬ TellsAddress version (some raw) address

/-! ### The two ways of reading a text -/

theorem parse_pinned_eq_parsed_iff {version : IPVersion} {raw : Option String}
    {address : IPAddress} :
    Field.parse .cidrOrIp raw (some version) = .parsed address ↔
      TellsAddress version raw address := by
  cases raw with
  | none => exact iff_of_false nofun fun tells => nomatch tells.1
  | some raw =>
    rw [TellsAddress, Field.parse_eq_parsed_iff, Field.parse_eq_parsed_iff]
    -- The version is asked for in the first place, or compared in the end.
    have asked : (∀ expected ∈ some version, ∀ actual ∈ FieldKind.cidrOrIp.version? address,
        actual = expected) ↔ address.version = version := by
      simp [FieldKind.version?]
    rw [asked]
    simp [and_assoc]

theorem addressOfVersion?_parse_eq_some_iff {version : IPVersion} {raw : Option String}
    {address : IPAddress} :
    addressOfVersion? version (Field.parse .cidrOrIp raw none) = some address ↔
      TellsAddress version raw address := by
  rw [TellsAddress]
  cases Field.parse .cidrOrIp raw none with
  | parsed other =>
    rw [addressOfVersion?, Option.ite_none_right_eq_some, FieldResult.parsed.injEq]
    constructor
    · rintro ⟨same, ⟨⟩⟩
      exact ⟨rfl, same⟩
    · rintro ⟨rfl, same⟩
      exact ⟨same, rfl⟩
  | absent => simp [addressOfVersion?]
  | invalid error => simp [addressOfVersion?]

theorem value?_parse_pinned (version : IPVersion) (raw : Option String) :
    (Field.parse .cidrOrIp raw (some version)).value? =
      addressOfVersion? version (Field.parse .cidrOrIp raw none) := by
  apply Option.ext
  intro address
  rw [FieldResult.value?_eq_some_iff, parse_pinned_eq_parsed_iff,
    addressOfVersion?_parse_eq_some_iff]

/-! ### One list of texts -/

theorem map_snd_candidates (node : NodeDescriptor) :
    node.candidates.map (·.2) =
      (node.addresses.filter (·.kind = .internal)).map (·.address) ++
        (node.addresses.filter (·.kind = .external)).map (·.address) := by
  simp [candidates, addressesOf, Function.comp_def]

theorem address_eq_findSome? (node : NodeDescriptor) (version : IPVersion) :
    (node.primaryAddress version).value.address =
      (node.addressTexts version).findSome? fun raw =>
        addressOfVersion? version (Field.parse .cidrOrIp raw none) := by
  rw [address_primaryAddress, value_firstOfVersion, value_readPinned, addressTexts,
    ← map_snd_candidates, List.findSome?_append, List.findSome?_map]
  cases node.bgp with
  | none => rfl
  | some bgp =>
    rw [Option.elim_some, value?_parse_pinned]
    -- A list of one text tells what the text tells.
    cases told : addressOfVersion? version (Field.parse .cidrOrIp (bgp.address version) none) <;>
      simp [told, Function.comp_def]

theorem address_eq_some_iff {node : NodeDescriptor} {version : IPVersion} {address : IPAddress} :
    (node.primaryAddress version).value.address = some address ↔
      IsFirstAddress version (node.addressTexts version) address := by
  simp only [address_eq_findSome?, List.findSome?_eq_some_iff, IsFirstAddress,
    addressOfVersion?_parse_eq_some_iff, Option.eq_none_iff_forall_ne_some, ne_eq]

theorem address_eq_none_iff {node : NodeDescriptor} {version : IPVersion} :
    (node.primaryAddress version).value.address = none ↔
      ∀ raw ∈ node.addressTexts version, ∀ address, ¬ TellsAddress version raw address := by
  rw [address_eq_findSome?, List.findSome?_eq_none_iff]
  simp only [Option.eq_none_iff_forall_ne_some, ne_eq, addressOfVersion?_parse_eq_some_iff]

/-- A pinned text that is written is invalid if it tells no address of the version. -/
theorem pinsNoAddress_iff {node : NodeDescriptor} {version : IPVersion} :
    node.PinsNoAddress version ↔ ∃ error,
      Field.parse .cidrOrIp (node.fieldText (.pinned version)) (some version) = .invalid error := by
  have pinned : node.PinsNoAddress version ↔ ∃ raw, node.fieldText (.pinned version) = some raw ∧
      raw ≠ "" ∧ ∀ address, ¬ TellsAddress version (some raw) address := by
    simp only [PinsNoAddress, fieldText, Option.bind_eq_some_iff]
    constructor
    · rintro ⟨bgp, raw, present, text, untold⟩
      exact ⟨raw, ⟨bgp, present, text⟩, untold⟩
    · rintro ⟨raw, ⟨bgp, present, text⟩, untold⟩
      exact ⟨bgp, raw, present, text, untold⟩
  rw [pinned]
  cases node.fieldText (.pinned version) with
  | none => simp
  | some raw =>
    have tells (address : IPAddress) :
        Field.parse .cidrOrIp (some raw) (some version) = .parsed address ↔
          TellsAddress version (some raw) address := parse_pinned_eq_parsed_iff
    have absent : Field.parse .cidrOrIp (some raw) (some version) = .absent ↔ raw = "" :=
      Field.parse_eq_absent_iff
    -- A field is parsed, absent or invalid, and never two of them.
    simp only [← tells, Option.some.injEq, exists_eq_left', ne_eq, ← absent]
    cases Field.parse .cidrOrIp (some raw) (some version) <;> simp

end NodeDescriptor

/-! ### Failures under a label -/

namespace TextField

theorem mem_all (field : TextField) : field ∈ all := by
  cases field with
  | pinned version => cases version <;> decide
  | _ => decide

theorem nodup_map_label : (all.map label).Nodup := by decide +kernel

theorem label_inj {field other : TextField} : field.label = other.label ↔ field = other := by
  constructor
  · intro same
    exact List.inj_on_of_nodup_map nodup_map_label field.mem_all other.mem_all same
  · exact congrArg label

theorem bracket_not_mem_label (field : TextField) : '[' ∉ field.label.toList := by
  cases field with
  | pinned version => cases version <;> decide +kernel
  | _ => decide +kernel

theorem label_ne_blockField (field : TextField) (raw : String) :
    field.label ≠ Processor.blockField raw := by
  intro same
  apply field.bracket_not_mem_label
  simp [same, Processor.blockField]

end TextField

/-- Of a list without repetitions, one member alone is looked at. -/
theorem filterMap_eq_toList {α β : Type} [DecidableEq α] {f g : α → Option β} {xs : List α} {x : α}
    (distinct : xs.Nodup) (member : x ∈ xs) (here : g x = f x)
    (else_none : ∀ y, y ≠ x → g y = none) : xs.filterMap g = (f x).toList := by
  induction xs with
  | nil => cases member
  | cons y rest ih =>
    rw [List.nodup_cons] at distinct
    by_cases same : y = x
    · subst same
      have nothing : rest.filterMap g = [] := by
        rw [List.filterMap_eq_nil_iff]
        intro z later
        exact else_none z fun equal => distinct.1 (equal ▸ later)
      cases found : f y <;> simp [here, found, nothing]
    · rw [List.filterMap_cons_none (else_none y same)]
      exact ih distinct.2 ((List.mem_cons.1 member).resolve_left (Ne.symm same))

namespace NodeReading

theorem filter_failures (r : NodeReading) (field : TextField) :
    r.failures.filter (·.field = field.label) = (r.failureAt field).toList := by
  rw [failures_eq, List.filter_filterMap]
  apply filterMap_eq_toList (by decide) field.mem_all
  · -- The failure of a field is told under its own label.
    rw [failureAt, FieldResult.failure?]
    cases (r.result field).error? <;> simp [Option.filter_some]
  · intro other apart
    rw [failureAt, FieldResult.failure?]
    have labels : ¬ other.label = field.label := mt TextField.label_inj.1 apart
    cases (r.result other).error? <;> simp [Option.filter_some, labels]

end NodeReading

namespace Processor

variable (config : ProcessorConfig) (ledger : BlockLedger)

/-- Blocks are reported under names of their own. -/
theorem filter_failures_publishBlocks (e : NodeEvent) (field : TextField) :
    (publishBlocks config ledger e).value.failures.filter (·.field = field.label) = [] := by
  rw [List.filter_eq_nil_iff]
  intro f member
  have labelled : ∃ raw, f.field = blockField raw := by
    cases pods : config.usePodBlocks with
    | false => simp [publishBlocks, pods] at member
    | true =>
      rw [publishBlocks, if_pos pods, failures_blockOutcome] at member
      obtain ⟨raw, -, failed⟩ := List.mem_filterMap.1 member
      simp only [value_blockRecord, FieldResult.failure?, Option.map_eq_some_iff] at failed
      obtain ⟨error, -, rfl⟩ := failed
      exact ⟨raw, rfl⟩
  obtain ⟨raw, named⟩ := labelled
  rw [decide_eq_true_eq, named]
  exact (field.label_ne_blockField raw).symm

theorem filter_failures_outcomeOf (e : NodeEvent) (field : TextField) :
    (outcomeOf config ledger e).value.failures.filter (·.field = field.label) =
      ((readNode e.node).value.failureAt field).toList := by
  rw [failures_outcomeOf, List.filter_append, NodeReading.filter_failures,
    filter_failures_publishBlocks, List.append_nil]

/-- The addresses of a node are read without a word on what is wrong with them. -/
theorem failures_outcomeOf_addresses (name revision : String) (node : NodeDescriptor)
    (others : List NodeAddress) :
    (outcomeOf config ledger ⟨name, some { node with addresses := others }, revision⟩).value.failures =
      (outcomeOf config ledger ⟨name, some node, revision⟩).value.failures := by
  have same (field : InputField) (apart : .addresses ≠ field) :
      ({ node with addresses := others } : NodeDescriptor).given field = node.given field := by
    cases field with
    | text field => cases field <;> rfl
    | addresses => exact absurd rfl apart
    | podBlocks => rfl
  have beside := congrArg Remainder.failures (beside_outcomeOf config ledger name revision same)
  -- No failure is one of the addresses, so all of them are left.
  simpa [Outcome.beside, InputField.labels] using beside

/-- The address of a version is published once: always for version 4, and for version 6 if the
switch is on. -/
theorem filter_primaryAddress_outcomeOf (e : NodeEvent) (version : IPVersion) :
    (outcomeOf config ledger e).value.records.filter (·.key = .primaryAddress e.name version) =
      if version = .v4 ∨ config.emitIPv6 = true then
        [⟨.primaryAddress e.name version,
          ((readNode e.node).value.primary version).address.map .address, e.revision⟩]
      else [] := by
  have blocks : (publishBlocks config ledger e).value.records.filter
      (·.key = .primaryAddress e.name version) = [] := by
    rw [List.filter_eq_nil_iff]
    intro r member
    cases pods : config.usePodBlocks with
    | false => simp [publishBlocks, pods] at member
    | true =>
      rw [publishBlocks, if_pos pods, records_blockOutcome] at member
      obtain ⟨c, keyed⟩ := key_block_of_mem member
      simp [keyed]
  rw [records_outcomeOf, List.filter_append, blocks, List.append_nil]
  cases version <;> cases emits : config.emitIPv6 <;>
    simp [nodeRecords, emits, NodeReading.primary]

/-! ### Main result -/

/-- **The first text that tells an address decides.** The primary address of a version is the one
that the first of the texts tells, if one of them tells any, and it is what is published. A failure
is told under the label of the pinned field exactly if that text is written and tells no address of
the version, whatever stands in for it, and then once. The addresses of the node play no part in
the failures. -/
theorem primaryAddress_resolved (name revision : String) (node : NodeDescriptor)
    (version : IPVersion) :
    let resolved := (node.primaryAddress version).value.address
    let outcome := (outcomeOf config ledger ⟨name, some node, revision⟩).value
    let reported := outcome.failures.filter (·.field = NodeDescriptor.pinnedField version)
    (∀ address, resolved = some address ↔
      IsFirstAddress version (node.addressTexts version) address) ∧
    (resolved = none ↔
      ∀ raw ∈ node.addressTexts version, ∀ address, ¬ TellsAddress version raw address) ∧
    (outcome.records.filter (·.key = .primaryAddress name version) =
      if version = .v4 ∨ config.emitIPv6 = true then
        [⟨.primaryAddress name version, resolved.map .address, revision⟩]
      else []) ∧
    (node.PinsNoAddress version → ∃ reason,
      reported = [⟨NodeDescriptor.pinnedField version, reason⟩]) ∧
    (¬ node.PinsNoAddress version → reported = []) ∧
    ∀ others, (outcomeOf config ledger
      ⟨name, some { node with addresses := others }, revision⟩).value.failures =
        outcome.failures := by
  intro resolved outcome reported
  have told : reported = (node.read.value.failureAt (.pinned version)).toList :=
    filter_failures_outcomeOf config ledger ⟨name, some node, revision⟩ (.pinned version)
  rw [NodeReading.failureAt, NodeDescriptor.result_read] at told
  refine ⟨fun _ => NodeDescriptor.address_eq_some_iff, NodeDescriptor.address_eq_none_iff, ?_,
    ?_, ?_, failures_outcomeOf_addresses config ledger name revision node⟩
  · have published :=
      filter_primaryAddress_outcomeOf config ledger ⟨name, some node, revision⟩ version
    rw [readNode, NodeDescriptor.primary_read] at published
    exact published
  · intro pins
    obtain ⟨error, invalid⟩ := NodeDescriptor.pinsNoAddress_iff.1 pins
    exact ⟨error.message, by rw [told]; exact congrArg _ (congrArg _ invalid)⟩
  · intro fine
    rw [told]
    cases result : Field.parse .cidrOrIp (node.fieldText (.pinned version)) (some version) with
    | invalid error => exact absurd (NodeDescriptor.pinsNoAddress_iff.2 ⟨error, result⟩) fine
    | _ => exact congrArg (fun r => (FieldResult.failure? _ r).toList) result

/-- A pinned text of the other version is reported, and an external address stands in behind an
internal one of the other version. -/
example :
    let node : NodeDescriptor :=
      { name := "a", bgp := some { ipv4Address := some "fd00::1" },
        addresses := [⟨some "10.0.0.7", .external⟩, ⟨some "fd00::2", .internal⟩] }
    (node.primaryAddress .v4).value.address = some (.v4 ⟨0x0a000007⟩) ∧
      ((outcomeOf {} .empty ⟨"a", some node, "1"⟩).value.failures.map (·.field)) =
        ["bgp.ipv4_address"] := by
  decide +kernel

end Processor

end NodeDataplane
