import NodeDataplane.Proofs.FailureList
import NodeDataplane.Proofs.RecordOrder

/-!
# Versions of published addresses

Five text fields of a node are for addresses of one version, which their names tell, and so do the
keys of what is published of them. Only the addresses that routing pins are read with the version in
mind. The addresses of tunnels are read in either version, and published as they are.

## Main result

`versions_kept_iff`: primary addresses are of the version of their keys, and a pinned address of the
other version is reported. For the tunnels the same holds exactly if no address of the other version
is given for one of them.

## Proof strategy

Reading a text with a version in mind tells an address of the other version apart
(`Field.parse_of_otherVersion`). What is published of a tunnel, and what is reported of it, is what
its text is read as (`mem_tunnel_outcomeOf`, `filter_failures_outcomeOf`). The text of an address
tells its version (`IPAddress.version_eq_of_text`), so no other address saves the claim of a key.
-/

namespace NodeDataplane

/-- The version of the addresses that a field is for, as its name tells. -/
def TextField.addressVersion? : TextField → Option IPVersion
  | pinned version => some version
  | ipipTunnel | vxlanTunnel4 => some .v4
  | vxlanTunnel6 => some .v6
  | _ => none

/-- A node gives an address for a field that is for the other version. -/
def NodeDescriptor.Misplaces (node : NodeDescriptor) (field : TextField) : Prop :=
  ∃ version value, field.addressVersion? = some version ∧
    Field.parse field.kind (node.fieldText field) none = .parsed value ∧
      field.kind.version? value ≠ some version

/-- A node gives an address for a tunnel of the other version. -/
def NodeDescriptor.MisplacesTunnel (node : NodeDescriptor) : Prop :=
  ∃ field, field ∈ TextField.tunnels ∧ node.Misplaces field

namespace Outcome

/-- Primary addresses are published under keys of their version. -/
def KeepsPrimaryVersions (o : Outcome) : Prop :=
  ∀ r ∈ o.records, ∀ name version value, r.key = .primaryAddress name version →
    r.value = some value → ∃ a : IPAddress, value = .address a ∧ a.version = version

/-- Texts published of a tunnel's address are of an address of the version that its name tells. -/
def KeepsTunnelVersions (o : Outcome) : Prop :=
  ∀ r ∈ o.records, ∀ (field : TextField) name setting version value,
    field.setting? = some setting → field.addressVersion? = some version →
      r.key = .tunnel name setting → r.value = some value →
        ∃ a : IPAddress, value = .text a.text ∧ a.version = version

/-- Every address that a node gives for a field of the other version is reported. -/
def ReportsMisplaced (node : Option NodeDescriptor) (o : Outcome) : Prop :=
  ∀ n ∈ node, ∀ field, n.Misplaces field → ∃ reason, ⟨field.label, reason⟩ ∈ o.failures

end Outcome

/-! ### Reading addresses of either version -/

/-- The text of an address tells its version. -/
theorem IPAddress.version_eq_of_text {a b : IPAddress} (same : a.text = b.text) :
    a.version = b.version := by
  have apart (a : IPv4) (b : IPv6) : a.text ≠ b.text := by
    intro same
    have unread := IPv4.read?_of_colon b.colon_mem_text
    rw [← same, IPv4.read?_text] at unread
    cases unread
  cases a with
  | v4 a =>
    cases b with
    | v4 b => rfl
    | v6 b => exact absurd same (apart a b)
  | v6 a =>
    cases b with
    | v4 b => exact absurd same.symm (apart b a)
    | v6 b => rfl

/-- A field that is for a version is read as an address. -/
theorem TextField.exists_address {field : TextField} {version : IPVersion}
    (named : field.addressVersion? = some version) (value : field.kind.Value) :
    ∃ a : IPAddress, field.kind.text value = a.text ∧ field.kind.version? value = some a.version := by
  cases field with
  | vxlanMac4 | vxlanMac6 | meshInterface | meshKey => cases named
  | _ => exact ⟨value, rfl, rfl⟩

theorem Field.parse_of_otherVersion {kind : FieldKind} {raw : String} {value : kind.Value}
    {expected actual : IPVersion} (parsed : parse kind (some raw) none = .parsed value)
    (has : kind.version? value = some actual) (differ : actual ≠ expected) :
    parse kind (some raw) (some expected) = .invalid (.otherVersion raw expected) := by
  obtain ⟨written, read, -⟩ := parse_eq_parsed_iff.1 parsed
  rw [parse_of_ne_empty kind _ written, resultFor, read]
  simp only [has, if_neg differ]

theorem TextField.version?_of_setting? {field : TextField} {setting : String}
    (published : field.setting? = some setting) : field.version? = none := by
  cases field with
  | pinned version => cases published
  | _ => rfl

theorem TextField.exists_setting_of_mem_tunnels {field : TextField} (tunnel : field ∈ tunnels) :
    ∃ setting, field.setting? = some setting := by
  simp only [tunnels, List.mem_cons, List.not_mem_nil, or_false] at tunnel
  rcases tunnel with rfl | rfl | rfl | rfl | rfl <;> exact ⟨_, rfl⟩

theorem NodeDescriptor.Misplaces.exists_text {node : NodeDescriptor} {field : TextField}
    (misplaced : node.Misplaces field) : ∃ raw, node.fieldText field = some raw := by
  obtain ⟨version, value, -, parsed, -⟩ := misplaced
  cases given : node.fieldText field with
  | none => rw [given] at parsed; cases parsed
  | some raw => exact ⟨raw, rfl⟩

namespace Processor

variable {config : ProcessorConfig} {ledger : BlockLedger} {e : NodeEvent}

/-! ### What is published -/

theorem version_of_address {node : Option NodeDescriptor} {version : IPVersion} {a : IPAddress}
    (found : ((readNode node).value.primary version).address = some a) : a.version = version := by
  cases node with
  | none => cases version <;> cases found
  | some node =>
    rw [readNode, NodeDescriptor.primary_read, NodeDescriptor.address_eq_some_iff] at found
    obtain ⟨_, _, _, -, tells, -⟩ := found
    exact tells.2

theorem version_of_mem_outcomeOf {r : Record} {name : String} {version : IPVersion} {value : Value}
    (published : r ∈ (outcomeOf config ledger e).value.records)
    (keyed : r.key = .primaryAddress name version) (set : r.value = some value) :
    ∃ a : IPAddress, value = .address a ∧ a.version = version := by
  rcases mem_outcomeOf published with setting | ⟨c, block⟩
  · rw [nodeRecords_eq] at setting
    simp only [List.mem_append, List.mem_map, List.mem_filterMap, Option.map_eq_some_iff,
      List.mem_cons, List.not_mem_nil, or_false] at setting
    rcases setting with (⟨other, -, rfl⟩ | ⟨_, -, _, -, rfl⟩) | rfl | rfl
    · obtain ⟨-, rfl⟩ := Key.primaryAddress.inj keyed
      obtain ⟨a, found, rfl⟩ := Option.map_eq_some_iff.1 set
      exact ⟨a, rfl, version_of_address found⟩
    all_goals cases keyed
  · cases block.symm.trans keyed

/-- A tunnel is published as what its text is read as, whatever the version. -/
theorem mem_tunnel_iff {r : Record} {field : TextField} {name setting : String}
    (tunnel : field.setting? = some setting) (keyed : r.key = .tunnel name setting) :
    r ∈ (outcomeOf config ledger e).value.records ↔
      r = ⟨.tunnel e.name setting,
        (Field.parse field.kind (e.node.bind (·.fieldText field)) none).value?.map
          fun value => .text (field.kind.text value), e.revision⟩ := by
  rw [mem_tunnel_outcomeOf tunnel keyed, NodeReading.textAt, result_readNode,
    TextField.version?_of_setting? tunnel, Option.map_map]
  rfl

/-! ### What is reported -/

theorem mem_failures_iff {field : TextField} {reason : String} :
    ⟨field.label, reason⟩ ∈ (outcomeOf config ledger e).value.failures ↔
      ∃ error, Field.parse field.kind (e.node.bind (·.fieldText field)) field.version? =
        .invalid error ∧ error.message = reason := by
  have only := filter_failures_outcomeOf config ledger e field
  have member : ⟨field.label, reason⟩ ∈ (outcomeOf config ledger e).value.failures ↔
      ⟨field.label, reason⟩ ∈ (outcomeOf config ledger e).value.failures.filter
        (·.field = field.label) := by
    simp
  rw [member, only, Option.mem_toList, NodeReading.failureAt, result_readNode]
  cases Field.parse field.kind (e.node.bind (·.fieldText field)) field.version? <;>
    simp [FieldResult.failure?, FieldResult.error?]

/-- A pinned address of the other version is reported as such. -/
theorem reported_of_misplaced_pinned {node : NodeDescriptor} {version : IPVersion}
    (told : e.node = some node) (misplaced : node.Misplaces (.pinned version)) :
    ∃ raw, node.fieldText (.pinned version) = some raw ∧
      ⟨NodeDescriptor.pinnedField version, (FieldError.otherVersion raw version).message⟩ ∈
        (outcomeOf config ledger e).value.failures := by
  obtain ⟨raw, given⟩ := misplaced.exists_text
  obtain ⟨expected, value, named, parsed, differ⟩ := misplaced
  obtain rfl : version = expected := Option.some.inj named
  rw [given] at parsed
  have read : Field.parse (TextField.pinned version).kind
      (e.node.bind (·.fieldText (.pinned version))) (TextField.pinned version).version? =
        .invalid (.otherVersion raw version) := by
    rw [told, Option.bind_some, given]
    exact Field.parse_of_otherVersion parsed rfl (fun same => differ (congrArg some same))
  exact ⟨raw, given, mem_failures_iff.2 ⟨_, read, rfl⟩⟩

theorem keepsTunnelVersions_iff :
    (outcomeOf config ledger e).value.KeepsTunnelVersions ↔
      ∀ node, e.node = some node → ¬ node.MisplacesTunnel := by
  constructor
  · rintro keeps node told ⟨field, tunnel, version, value, named, parsed, differ⟩
    obtain ⟨setting, published⟩ := TextField.exists_setting_of_mem_tunnels tunnel
    obtain ⟨a, text, has⟩ := TextField.exists_address named value
    have member : ⟨.tunnel e.name setting, some (.text (field.kind.text value)), e.revision⟩ ∈
        (outcomeOf config ledger e).value.records := by
      rw [mem_tunnel_iff published rfl, told, Option.bind_some, parsed]
      rfl
    obtain ⟨b, same, right⟩ := keeps _ member field _ _ _ _ published named rfl rfl
    -- The same text would be that of an address of either version.
    have versions := IPAddress.version_eq_of_text (text.symm.trans (Value.text.inj same))
    exact differ (has.trans (congrArg some (versions.trans right)))
  · intro placed r member field name setting version value published named keyed set
    rw [mem_tunnel_iff published keyed] at member
    rw [member] at set
    obtain ⟨x, parsed, rfl⟩ := Option.map_eq_some_iff.1 set
    rw [FieldResult.value?_eq_some_iff] at parsed
    obtain ⟨a, text, has⟩ := TextField.exists_address named x
    refine ⟨a, congrArg Value.text text, ?_⟩
    by_contra differ
    cases told : e.node with
    | none => rw [told] at parsed; cases parsed
    | some node =>
      rw [told] at parsed
      refine placed node told ⟨field, TextField.mem_tunnels published, version, x, named, parsed, ?_⟩
      rw [has]
      exact fun same => differ (Option.some.inj same)

theorem reportsMisplaced_iff :
    (outcomeOf config ledger e).value.ReportsMisplaced e.node ↔
      ∀ node, e.node = some node → ¬ node.MisplacesTunnel := by
  constructor
  · rintro reports node told ⟨field, tunnel, misplaced⟩
    obtain ⟨setting, published⟩ := TextField.exists_setting_of_mem_tunnels tunnel
    obtain ⟨reason, member⟩ := reports node told field misplaced
    obtain ⟨error, invalid, -⟩ := mem_failures_iff.1 member
    obtain ⟨_, value, -, parsed, -⟩ := misplaced
    -- The field of a tunnel is read without a version, and so it is valid.
    rw [told, TextField.version?_of_setting? published] at invalid
    cases parsed.symm.trans invalid
  · intro placed node told field misplaced
    cases field with
    | pinned version =>
      obtain ⟨raw, -, member⟩ := reported_of_misplaced_pinned told misplaced
      exact ⟨_, member⟩
    | ipipTunnel | vxlanTunnel4 | vxlanTunnel6 =>
      exact absurd ⟨_, by decide, misplaced⟩ (placed node told)
    | _ =>
      obtain ⟨_, _, named, -⟩ := misplaced
      cases named

/-! ### Main result -/

/-- **Keys keep the versions of addresses, but for the tunnels.** To every event that is accepted,
with any switches and any ledger: a primary address is of the version of its key, and a pinned
address of the other version is reported under its field, as not being of the version. What is
published of the tunnels is of the versions that their names tell exactly if the node gives no
address of the other version for any of them, and exactly then all addresses of a wrong version are
reported. -/
theorem versions_kept_iff (config : ProcessorConfig) (ledger : BlockLedger) (e : NodeEvent) :
    ∃ outcome, answer config ledger e.toRecord = .ok outcome ∧
      outcome.KeepsPrimaryVersions ∧
      (∀ node version, e.node = some node → node.Misplaces (.pinned version) →
        ∃ raw, node.fieldText (.pinned version) = some raw ∧
          ⟨NodeDescriptor.pinnedField version, (FieldError.otherVersion raw version).message⟩ ∈
            outcome.failures) ∧
      (outcome.KeepsTunnelVersions ↔ ∀ node, e.node = some node → ¬ node.MisplacesTunnel) ∧
      (outcome.ReportsMisplaced e.node ↔
        ∀ node, e.node = some node → ¬ node.MisplacesTunnel) := by
  refine ⟨_, answer_toRecord config ledger e, ?_, ?_, keepsTunnelVersions_iff, reportsMisplaced_iff⟩
  · intro r published name version value keyed set
    exact version_of_mem_outcomeOf published keyed set
  · intro node version told misplaced
    exact reported_of_misplaced_pinned told misplaced

/-- An IPv6 address is published for the IPv4 tunnel, and nothing is reported. -/
theorem tunnel_address_of_other_version :
    let node : NodeDescriptor := { name := "a", vxlanTunnelAddress4 := some "fd00::1" }
    let outcome := (outcomeOf {} .empty ⟨"a", some node, "1"⟩).value
    ⟨.tunnel "a" TunnelSetting.vxlanAddress4, some (.text "fd00::1"), "1"⟩ ∈ outcome.records ∧
      outcome.failures = [] ∧ ¬ outcome.KeepsTunnelVersions ∧
        ¬ outcome.ReportsMisplaced (some node) := by
  intro node outcome
  have published : ⟨.tunnel "a" TunnelSetting.vxlanAddress4, some (.text "fd00::1"), "1"⟩ ∈
      outcome.records := by decide +kernel
  have unreported : outcome.failures = [] := by decide +kernel
  have read : Field.parse .ip (some "fd00::1") none =
      .parsed (.v6 ⟨0xfd000000000000000000000000000001, none⟩) := by decide +kernel
  refine ⟨published, unreported, fun keeps => ?_, fun reports => ?_⟩
  · obtain ⟨a, text, version⟩ := keeps _ published .vxlanTunnel4 "a" _ .v4 _ rfl rfl rfl rfl
    have other : IPAddress.version (.v6 ⟨0xfd000000000000000000000000000001, none⟩) = a.version :=
      IPAddress.version_eq_of_text (by rw [← Value.text.inj text]; decide +kernel)
    rw [version] at other
    cases other
  · obtain ⟨reason, member⟩ := reports node rfl .vxlanTunnel4 ⟨.v4, _, rfl, read, nofun⟩
    rw [unreported] at member
    cases member

end Processor

end NodeDataplane
