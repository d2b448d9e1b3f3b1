import NodeDataplane.Proofs.NetworkForm
import NodeDataplane.Proofs.Publication
import NodeDataplane.Proofs.Reading

/-!
# Published texts are canonical

A field is published as the text of its value. Whatever spelling the value was read from, this text
is one of its spellings: it is not empty, and reading it as the same kind of field gives the same
value. So a node that takes its tunnel addresses from what was published about it before has them
published as they are.

## Main results

- `FieldKind.read_text`: the text of a value is read as the value, for every kind of field.
- `Field.parse_text`: the same where a version is asked for.
- `Processor.canonical_texts`: a text that was published of a tunnel is published again unchanged.

## Proof strategy

An address is read back from its text (`IPAddress.read?_text`) if its scope is legible, so it is
shown of each kind that the values it reads are: what stands before a slash holds none, and the
address of an interface has no scope. A network is put together again from its address and the
length of its prefix, since no bit behind the prefix is set. There is one record for the setting of
a tunnel in what comes of an event, and it holds the text of the setting's field.
-/

namespace NodeDataplane

open Text

/-! ### Networks -/

namespace Net

theorem readLength?_toDigits {width : Nat} (length : Fin (width + 1)) (short : width < 1000) :
    readLength? width (Nat.toDigits 10 length) = some length := by
  have digits : (Nat.toDigits 10 length).all Char.isDigit = true :=
    List.all_eq_true.2 fun c mem => Nat.isDigit_of_mem_toDigits (by decide) (by decide) mem
  have few : (Nat.toDigits 10 length).length ≤ 3 :=
    (Nat.length_toDigits_le_iff (by decide) (by decide)).2 (by omega)
  have bounded : ¬ maxDigits < (Nat.toDigits 10 length).length := by
    rw [maxDigits]
    omega
  rw [readLength?, if_neg (by simp [digits, bounded])]
  simp only [natOfDigits_toDigits, length.isLt, dite_true]

end Net

namespace IPNetwork

theorem toList_text (n : IPNetwork) :
    n.text.toList = n.address.text.toList ++ '/' :: Nat.toDigits 10 n.length := by
  simp [text]

theorem text_ne_empty (n : IPNetwork) : n.text ≠ "" := by
  intro empty
  have chars := n.toList_text
  rw [empty] at chars
  simp at chars

/-- A network is found again from its address and the length of its prefix. -/
theorem ofAddress?_address (n : IPNetwork) :
    ofAddress? n.address (some (Nat.toDigits 10 n.length)) = some n := by
  cases n with
  | v4 block =>
    have length : readPrefix4? (Nat.toDigits 10 block.length) = some block.length := by
      rw [readPrefix4?, Net.readLength?_toDigits _ (by decide)]
      rfl
    simp [ofAddress?, address, IPNetwork.length, length]
  | v6 block scope =>
    simp [ofAddress?, address, IPNetwork.length, Net.readLength?_toDigits]

/-- The scope of a network is that of the address, if there is one. -/
theorem legible_of_ofAddress? {a : IPAddress} {length : Option (List Char)} {n : IPNetwork}
    (legible : a.Legible) (found : ofAddress? a length = some n) : n.address.Legible := by
  cases n with
  | v4 block => trivial
  | v6 block scope =>
    have kept : ∀ (a : IPv6) (block : Net.Block 128), IPv6.Legible a.scope →
        IPv6.Legible (if block.bits = a.bits then a.scope else none) := by
      intro a block legible
      split
      · exact legible
      · exact nofun
    cases a with
    | v4 a => cases length <;> simp [ofAddress?, Option.bind_eq_some_iff] at found
    | v6 a =>
      cases length with
      | none =>
        cases found
        exact kept a _ legible
      | some cs =>
        obtain ⟨length, -, made⟩ := Option.bind_eq_some_iff.1 found
        cases made
        exact kept a _ legible

theorem exists_ofAddress? (a : IPAddress) : ∃ n, ofAddress? a none = some n := by
  cases a <;> exact ⟨_, rfl⟩

end IPNetwork

namespace Interface

theorem legible_of_read? {cs : List Char} {i : Interface} (read : read? cs = some i) :
    i.network.address.Legible := by
  have no_slash : ∀ front ∈ fields '/' cs, '/' ∉ front := fun _ => not_mem_of_mem_fields
  have legible : ∀ (front : List Char) (length : Option (List Char)), '/' ∉ front →
      ((IPAddress.read? front).bind fun a => (IPNetwork.ofAddress? a length).bind fun n =>
        some (Interface.mk a n)) = some i → i.network.address.Legible := by
    intro front length apart read
    obtain ⟨a, found, rest⟩ := Option.bind_eq_some_iff.1 read
    obtain ⟨n, network, made⟩ := Option.bind_eq_some_iff.1 rest
    cases made
    exact IPNetwork.legible_of_ofAddress? (IPAddress.legible_of_read? apart found) network
  unfold read? at read
  split at read
  next front cut => exact legible front none (no_slash front (by simp [cut])) read
  next front length cut => exact legible front (some length) (no_slash front (by simp [cut])) read
  next => cases read

theorem read?_text_address {a : IPAddress} (legible : a.Legible) :
    ∃ network, read? a.text.toList = some ⟨a, network⟩ := by
  obtain ⟨network, found⟩ := IPNetwork.exists_ofAddress? a
  refine ⟨network, ?_⟩
  simp [read?, fields_of_not_mem (IPAddress.slash_not_mem_text legible), found,
    IPAddress.read?_text legible]

theorem read?_text_network {n : IPNetwork} (legible : n.address.Legible) :
    read? n.text.toList = some ⟨n.address, n⟩ := by
  have apart : '/' ∉ n.address.text.toList := IPAddress.slash_not_mem_text legible
  have digits : '/' ∉ Nat.toDigits 10 n.length := fun mem =>
    absurd (Nat.isDigit_of_mem_toDigits (by decide) (by decide) mem) (by decide)
  simp [read?, IPNetwork.toList_text, fields_append _ apart, fields_of_not_mem digits,
    IPAddress.read?_text legible, IPNetwork.ofAddress?_address]

end Interface

/-! ### Fields -/

namespace FieldKind

theorem readIp_text {raw : String} {a : IPAddress} (read : readIp raw = .ok a) :
    readIp a.text = .ok a := by
  have legible : a.Legible := by
    unfold readIp at read
    dsimp only at read
    split at read
    next =>
      split at read
      next i _ =>
        cases read
        exact IPAddress.legible_unscoped i.address
      next => cases read
    next no_slash =>
      split at read
      next found =>
        cases read
        exact IPAddress.legible_of_read? (by simpa using no_slash) found
      next => cases read
  have no_slash : '/' ∉ a.text.toList := IPAddress.slash_not_mem_text legible
  simp [readIp, no_slash, IPAddress.read?_text legible]

theorem readCidrOrIp_text {raw : String} {a : IPAddress} (read : readCidrOrIp raw = .ok a) :
    readCidrOrIp a.text = .ok a := by
  unfold readCidrOrIp at read
  split at read
  next i _ =>
    cases read
    obtain ⟨network, found⟩ := Interface.read?_text_address (IPAddress.legible_unscoped i.address)
    simp [readCidrOrIp, Interface.host, found]
  next => cases read

theorem readCidr_text {raw : String} {n : IPNetwork} (read : readCidr raw = .ok n) :
    readCidr n.text = .ok n := by
  unfold readCidr at read
  dsimp only at read
  split at read
  next =>
    split at read
    next found =>
      cases read
      rw [IPNetwork.read?_eq_map_network] at found
      obtain ⟨i, read, rfl⟩ := Option.map_eq_some_iff.1 found
      have again := Interface.read?_text_network (Interface.legible_of_read? read)
      have slash : '/' ∈ i.network.text.toList := by simp [IPNetwork.toList_text]
      simp [readCidr, IPNetwork.read?_eq_map_network, slash, again]
    next => cases read
  next => cases read

theorem readIdentifier_text {raw value : String} (read : readIdentifier raw = .ok value) :
    value ≠ "" ∧ readIdentifier value = .ok value := by
  unfold readIdentifier at read
  dsimp only at read
  split at read
  next => cases read
  next written =>
    cases read
    refine ⟨by simpa using written, ?_⟩
    rw [readIdentifier, trim_trim, if_neg written]

theorem readMeshPublicKey_text {raw value : String} (read : readMeshPublicKey raw = .ok value) :
    value = raw := by
  unfold readMeshPublicKey at read
  dsimp only at read
  repeat' split at read
  all_goals cases read
  rfl

/-- What a text is read as has a text that is not empty, and that is read as the same. -/
theorem read_text (kind : FieldKind) {raw : String} {value : kind.Value}
    (read : kind.read raw = .ok value) (written : raw ≠ "") :
    kind.text value ≠ "" ∧ kind.read (kind.text value) = .ok value := by
  cases kind with
  | ip => exact ⟨IPAddress.text_ne_empty value, readIp_text read⟩
  | cidrOrIp => exact ⟨IPAddress.text_ne_empty value, readCidrOrIp_text read⟩
  | cidr => exact ⟨IPNetwork.text_ne_empty value, readCidr_text read⟩
  | identifier => exact readIdentifier_text read
  | meshPublicKey =>
    obtain rfl := readMeshPublicKey_text read
    exact ⟨written, read⟩

end FieldKind

namespace Field

/-- A value is read if its text is one of its kind, and the version is the one that is asked for. -/
theorem parse_eq_parsed_iff {kind : FieldKind} {raw : String} {version : Option IPVersion}
    {value : kind.Value} :
    parse kind (some raw) version = .parsed value ↔ raw ≠ "" ∧ kind.read raw = .ok value ∧
      ∀ expected ∈ version, ∀ actual ∈ kind.version? value, actual = expected := by
  by_cases empty : raw = ""
  · simp [parse, empty]
  · rw [parse_of_ne_empty kind version empty, resultFor]
    cases read : kind.read raw with
    | error fault => simp
    | ok other =>
      dsimp only
      split
      next expected actual has =>
        split
        next same =>
          constructor
          · rintro ⟨⟩
            refine ⟨empty, rfl, ?_⟩
            rintro _ ⟨⟩ _ version
            exact (Option.some.inj (has.symm.trans version)).symm.trans same
          · rintro ⟨-, ⟨⟩, -⟩
            rfl
        next differ =>
          constructor
          · rintro ⟨⟩
          · rintro ⟨-, ⟨⟩, versions⟩
            exact absurd (versions expected rfl actual has) differ
      next unversioned =>
        constructor
        · rintro ⟨⟩
          exact ⟨empty, rfl, fun expected asked actual has =>
            (unversioned expected actual asked has).elim⟩
        · rintro ⟨-, ⟨⟩, -⟩
          rfl

theorem parse_text {kind : FieldKind} {raw : String} {version : Option IPVersion}
    {value : kind.Value} (parsed : parse kind (some raw) version = .parsed value) :
    kind.text value ≠ "" ∧ parse kind (some (kind.text value)) version = .parsed value := by
  obtain ⟨written, read, versions⟩ := parse_eq_parsed_iff.1 parsed
  obtain ⟨again, same⟩ := kind.read_text read written
  exact ⟨again, parse_eq_parsed_iff.2 ⟨again, same, versions⟩⟩

end Field

namespace TextField

theorem mem_tunnels {field : TextField} {setting : String}
    (tunnel : field.setting? = some setting) :
    field ∈ tunnels := by
  cases field <;> simp_all [setting?, tunnels]

/-- No two fields are published as one setting. -/
theorem eq_of_setting? {field other : TextField} {setting : String}
    (first : field.setting? = some setting) (second : other.setting? = some setting) :
    field = other := by
  cases field <;> cases other <;> cases first <;> simp_all [setting?, TunnelSetting.ipip,
    TunnelSetting.vxlanAddress4, TunnelSetting.vxlanAddress6, TunnelSetting.vxlanMac4,
    TunnelSetting.vxlanMac6]

end TextField

theorem NodeReading.result_absent (field : TextField) :
    NodeReading.absent.result field = .absent := by
  cases field with
  | pinned version => cases version <;> rfl
  | _ => rfl

namespace Processor

theorem mem_outcomeOf {config : ProcessorConfig} {ledger : BlockLedger} {e : NodeEvent} {r : Record}
    (published : r ∈ (outcomeOf config ledger e).value.records) :
    r ∈ nodeRecords config e (readNode e.node).value ∨ ∃ c, r.key = .block c := by
  cases pods : config.usePodBlocks with
  | false =>
    rw [records_outcomeOf_of_no_pods pods] at published
    exact .inl published
  | true =>
    rw [records_outcomeOf_of_pods pods] at published
    exact (List.mem_append.1 published).imp_right key_block_of_mem

/-- The only record of a tunnel's setting holds the text of its field. -/
theorem mem_tunnel_outcomeOf {config : ProcessorConfig} {ledger : BlockLedger} {e : NodeEvent}
    {host setting : String} {field : TextField} {r : Record}
    (tunnel : field.setting? = some setting)
    (keyed : r.key = .tunnel host setting) :
    r ∈ (outcomeOf config ledger e).value.records ↔
      r = ⟨.tunnel e.name setting, ((readNode e.node).value.textAt field).map .text,
        e.revision⟩ := by
  constructor
  · intro published
    rcases mem_outcomeOf published with set | ⟨c, block⟩
    · rw [nodeRecords_eq] at set
      simp only [List.mem_append, List.mem_map, List.mem_filterMap, Option.map_eq_some_iff,
        List.mem_cons, List.not_mem_nil, or_false] at set
      rcases set with (⟨version, -, rfl⟩ | ⟨other, -, _, named, rfl⟩) | rfl | rfl
      · cases keyed
      · obtain ⟨-, rfl⟩ := Key.tunnel.inj keyed
        rw [TextField.eq_of_setting? named tunnel]
      · cases keyed
      · cases keyed
    · cases block.symm.trans keyed
  · rintro rfl
    rw [records_outcomeOf, nodeRecords_eq]
    refine List.mem_append_left _ (List.mem_append_left _ (List.mem_append_right _ ?_))
    exact List.mem_filterMap.2 ⟨field, TextField.mem_tunnels tunnel, by rw [tunnel]; rfl⟩

theorem outcome_of_answer {config : ProcessorConfig} {ledger : BlockLedger} {event : Record}
    {outcome : Outcome} (told : answer config ledger event = .ok outcome) :
    ∃ e : NodeEvent, event = e.toRecord ∧ outcome = (outcomeOf config ledger e).value := by
  cases accepted : NodeEvent.ofRecord event with
  | error fault =>
    rw [answer, process, accepted] at told
    cases told
  | ok e =>
    rw [answer, process, accepted] at told
    cases told
    exact ⟨e, NodeEvent.ofRecord_eq_ok_iff.1 accepted, rfl⟩

/-- A field whose value has a text gives the same text if it is written as that text. -/
theorem textAt_of_textAt {node : Option NodeDescriptor} {next : NodeDescriptor} {field : TextField}
    {text : String} (given : (readNode node).value.textAt field = some text)
    (used : next.fieldText field = some text) : next.read.value.textAt field = some text := by
  obtain ⟨value, read, rfl⟩ := Option.map_eq_some_iff.1 given
  rw [FieldResult.value?_eq_some_iff] at read
  have parsed : ∃ raw, Field.parse field.kind (some raw) field.version? = .parsed value := by
    cases node with
    | none =>
      rw [readNode, Logged.value_pure, NodeReading.result_absent] at read
      cases read
    | some node =>
      rw [readNode, NodeDescriptor.result_read] at read
      cases written : node.fieldText field with
      | none =>
        rw [written] at read
        cases read
      | some raw => exact ⟨raw, by rwa [written] at read⟩
  obtain ⟨raw, parsed⟩ := parsed
  rw [NodeReading.textAt, NodeDescriptor.result_read, used, (Field.parse_text parsed).2]
  rfl

/-- **A published text is canonical.** Let a text be read as a value of some kind of field, in
either version or with none asked for. The text of the value is not empty, and is read as that value
again.

So a text that a processor published of a tunnel stays as it is: if a node of a later event gives it
for the field of the tunnel, then whatever the processor and its ledger, the one record that is
published for the tunnel's setting holds this text. -/
theorem canonical_texts :
    (∀ (kind : FieldKind) (raw : String) (version : Option IPVersion) (value : kind.Value),
      Field.parse kind (some raw) version = .parsed value →
        kind.text value ≠ "" ∧
          Field.parse kind (some (kind.text value)) version = .parsed value) ∧
      ∀ (config next : ProcessorConfig) (ledger later : BlockLedger) (event : Record)
        (outcome : Outcome) (field : TextField) (host setting text revision : String),
        answer config ledger event = .ok outcome → field.setting? = some setting →
          ⟨.tunnel host setting, some (.text text), revision⟩ ∈ outcome.records →
            ∀ (e : NodeEvent) (node : NodeDescriptor), e.node = some node →
              node.fieldText field = some text →
                ∃ again, answer next later e.toRecord = .ok again ∧
                  ∀ r, r.key = .tunnel e.name setting →
                    (r ∈ again.records ↔
                      r = ⟨.tunnel e.name setting, some (.text text), e.revision⟩) := by
  refine ⟨fun kind raw version value parsed => Field.parse_text parsed, ?_⟩
  intro config next ledger later event outcome field host setting text revision told tunnel
    published e node same used
  obtain ⟨first, rfl, rfl⟩ := outcome_of_answer told
  have given : (readNode first.node).value.textAt field = some text := by
    have only := (mem_tunnel_outcomeOf tunnel rfl).1 published
    simpa [eq_comm] using congrArg Record.value only
  have again : (readNode e.node).value.textAt field = some text := by
    rw [same]
    exact textAt_of_textAt given used
  refine ⟨_, answer_toRecord next later e, fun r keyed => ?_⟩
  rw [mem_tunnel_outcomeOf tunnel keyed, again]
  rfl

/-- A mask of host bits is published as a length, and a scoped address with an IPv4 address at its
end as the shortest text; both texts stay as they are. -/
theorem canonical_texts_of_long_spellings :
    let block : IPNetwork := .v4 (Net.Block.of 0x0a010000#32 16)
    let event (text revision : String) : NodeEvent :=
      ⟨"a", some { name := "a", vxlanTunnelAddress6 := some text }, revision⟩
    let key := Key.tunnel "a" TunnelSetting.vxlanAddress6
    let text := "fe80::a00:1%eth0"
    let first := (outcomeOf {} .empty (event "FE80:0::10.0.0.1%eth0" "1")).value
    Field.parse .cidr (some "10.1.2.3/0.0.255.255") none = .parsed block ∧
      FieldKind.text .cidr block = "10.1.0.0/16" ∧
      Field.parse .cidr (some "10.1.0.0/16") none = .parsed block ∧
      ⟨key, some (.text text), "1"⟩ ∈ first.records ∧
      ∃ again, answer {} first.ledger (event text "2").toRecord = .ok again ∧
        ∀ r, r.key = key → (r ∈ again.records ↔ r = ⟨key, some (.text text), "2"⟩) := by
  intro block event key text first
  have parsed : Field.parse .cidr (some "10.1.2.3/0.0.255.255") none = .parsed block := by
    decide +kernel
  have written : FieldKind.text .cidr block = "10.1.0.0/16" := by decide +kernel
  have published : ⟨key, some (.text text), "1"⟩ ∈ first.records := by decide +kernel
  obtain ⟨texts, tunnels⟩ := canonical_texts
  refine ⟨parsed, written, written ▸ (texts .cidr _ none block parsed).2, published, ?_⟩
  exact tunnels {} {} .empty first.ledger _ first .vxlanTunnel6 "a" _ text "1"
    (answer_toRecord ..) rfl published (event text "2") _ rfl rfl

end Processor

end NodeDataplane
