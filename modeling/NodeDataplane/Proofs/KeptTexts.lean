import NodeDataplane.Proofs.AddressForm
import NodeDataplane.Proofs.CanonicalText
import NodeDataplane.Proofs.MeshKeys
import NodeDataplane.Proofs.NodeDescription
import NodeDataplane.Proofs.Reading
import NodeDataplane.Proofs.Yaml.ValueForms

/-!
# Texts of fields as plain scalars

A text that is a plain scalar of a YAML file comes back if what the scalar means has that text. The
texts of fields do, but for one form: an address that is written in decimal digits between colons
can be an integer in base 60.

## Main results

- `isKept_of_isAddressForm`: a text in the form of an address comes back exactly if it has not the
  form of an integer; of a hardware address, `isKept_of_groups` tells by its digits.
- `FieldKind.isKept_of_read`: so does every text that is read as an address, a network or a key.
- `NodeDescription.isKept_eq_isClear`: so do all texts of a node that is valid, other than its name
  and its identifiers.

## Proof strategy

A prefix, a scope and the pad of a key have characters that are in no form of a value. What is left
are digits between points and colons (`IsAddressForm`). A single point would make a float, but an
address has none or three.
-/

namespace NodeDataplane

open Text
open Yaml (IsForeign integer? plainValue)

/-- Whether a plain scalar is read as something that has its own text. -/
def isKept (s : String) : Bool :=
  (plainValue s).toOption.any fun d => d.isWritable && d.text == s

theorem isKept_of_string {s : String} (means : plainValue s = .ok (.string s)) :
    isKept s = true := by
  simp [isKept, means, Except.toOption, Document.isWritable, Document.every, Document.isShort,
    Document.text]

/-! ### The form of addresses -/

theorem mem_text_int {n : Int} {c : Char} (mem : c ∈ (Document.int n).text.toList) :
    c = '-' ∨ c.isDigit = true := by
  have digit {k : Nat} (mem : c ∈ (Nat.repr k).toList) : c.isDigit = true := by
    rw [Nat.toList_repr] at mem
    exact Nat.isDigit_of_mem_toDigits (by decide) (by decide) mem
  have text : (Document.int n).text = toString n := rfl
  rw [text] at mem
  cases n with
  | ofNat k => exact .inr (digit mem)
  | negSucc k =>
    have written : (toString (Int.negSucc k)).toList = '-' :: (Nat.repr (k + 1)).toList :=
      String.toList_append ..
    rw [written] at mem
    exact (List.mem_cons.1 mem).imp_right digit

/-- An address without a scope is lost exactly if it is an integer in base 60. -/
theorem isKept_of_isAddressForm {s : String} (form : IsAddressForm s.toList) :
    isKept s = (integer? s).isNone := by
  have no_dash : '-' ∉ s.toList := fun dash => absurd (form.digits _ dash) (by decide)
  have no_float : ¬ Yaml.IsPointed s.toList := fun pointed => form.points pointed.count_eq
  have means := Yaml.plainValue_of_marked form.marked no_dash no_float
  cases read : integer? s with
  | none =>
    rw [read] at means
    exact isKept_of_string means
  | some value =>
    rw [read] at means
    cases value with
    | error fault =>
      simp [isKept, means, Except.map, Except.toOption]
    | ok n =>
      have other : (Document.int n).text ≠ s := by
        intro same
        rcases form.marked with point | colon
        · rw [← same] at point
          exact absurd (mem_text_int point) (by decide)
        · rw [← same] at colon
          exact absurd (mem_text_int colon) (by decide)
      simp [isKept, means, Except.map, Except.toOption, other]

/-- So are digits in groups between colons, as of a hardware address: exactly if the groups are
decimal, the first one has no zero in front, and the others are small. -/
theorem isKept_of_groups {first : List Char} {rest : List (List Char)}
    (digits : ∀ piece ∈ first :: rest, ∀ c ∈ piece, (hexValue? c).isSome = true)
    (several : rest ≠ []) :
    isKept (String.ofList (joined ':' (first :: rest))) =
      !(first.all Char.isDigit && first.head?.any (· != '0') && rest.all Yaml.isPlace) := by
  have form : IsAddressForm (String.ofList (joined ':' (first :: rest))).toList := by
    rw [String.toList_ofList]
    have letters : ∀ c ∈ joined ':' (first :: rest), (hexValue? c).isSome = true ∨ c = ':' := by
      intro c mem
      by_cases colon : c = ':'
      · exact .inr colon
      · obtain ⟨piece, place, inside⟩ := (mem_joined_iff colon).1 mem
        exact .inl (digits piece place c inside)
    have no_point : '.' ∉ joined ':' (first :: rest) := fun point =>
      absurd (letters _ point) (by decide)
    refine ⟨fun c mem => (letters c mem).imp_right .inr, ?_, .inr ?_⟩
    · rw [List.count_eq_zero.2 no_point]
      decide
    · obtain ⟨next, more, rfl⟩ := List.exists_cons_of_ne_nil several
      simp [joined_cons_cons]
  rw [isKept_of_isAddressForm form, ← Yaml.isSome_integer?_joined digits several,
    Option.not_isSome]

/-! ### Fields -/

namespace FieldKind

theorem isForeign_of_mem {s : String} {c : Char} (mem : c ∈ s.toList)
    (foreign : c = '/' ∨ c = '%') : IsForeign s := by
  refine ⟨⟨c, mem, by rcases foreign with rfl | rfl <;> decide⟩, ?_⟩
  refine ⟨?_, ?_, ?_⟩ <;> rintro rfl <;> rcases foreign with rfl | rfl <;>
    exact absurd mem (by decide)

theorem form_of_address {s : String} {a : IPAddress} (read : IPAddress.read? s.toList = some a) :
    IsAddressForm s.toList ∨ IsForeign s :=
  (IPAddress.form_of_read? read).imp_right fun percent => isForeign_of_mem percent (.inr rfl)

theorem form_of_interface {s : String} {i : Interface} (read : Interface.read? s.toList = some i) :
    IsAddressForm s.toList ∨ IsForeign s := by
  by_cases slash : '/' ∈ s.toList
  · exact .inr (isForeign_of_mem slash (.inl rfl))
  · rw [Interface.read?, fields_of_not_mem slash] at read
    obtain ⟨_, whole, read⟩ := Option.bind_eq_some_iff.1 read
    cases whole
    obtain ⟨a, address, -⟩ := Option.bind_eq_some_iff.1 read
    exact form_of_address address

theorem form_of_read {kind : FieldKind} (other : kind ≠ .identifier) {raw : String}
    {value : kind.Value} (read : kind.read raw = .ok value) :
    IsAddressForm raw.toList ∨ IsForeign raw := by
  cases kind with
  | ip =>
    have read : readIp raw = .ok value := read
    unfold readIp at read
    dsimp only at read
    split at read
    next slash => exact .inr (isForeign_of_mem (by simpa using slash) (.inl rfl))
    next =>
      split at read
      next address => exact form_of_address address
      next => cases read
  | cidrOrIp =>
    have read : readCidrOrIp raw = .ok value := read
    unfold readCidrOrIp at read
    split at read
    next interface => exact form_of_interface interface
    next => cases read
  | cidr =>
    have read : readCidr raw = .ok value := read
    unfold readCidr at read
    dsimp only at read
    split at read
    next slash => exact .inr (isForeign_of_mem (by simpa using slash) (.inl rfl))
    next => cases read
  | identifier => exact absurd rfl other
  | meshPublicKey =>
    obtain ⟨-, key, spare, text⟩ := readMeshPublicKey_eq_ok_iff.1 read
    have long {mark : String} (short : mark.toList.length ≠ meshKeyLength) : raw ≠ mark := by
      rintro rfl
      exact short text.length
    exact .inr ⟨⟨'=', text.pad_mem, by decide⟩, long (by decide), long (by decide), long (by decide)⟩

/-- A text of a field, other than an identifier, comes back exactly if it has not the form of an
integer. -/
theorem isKept_of_read {kind : FieldKind} (other : kind ≠ .identifier) {raw : String}
    {value : kind.Value} (read : kind.read raw = .ok value) :
    isKept raw = (integer? raw).isNone := by
  rcases form_of_read other read with form | foreign
  · exact isKept_of_isAddressForm form
  · obtain ⟨integer, means⟩ := Yaml.plainValue_of_isForeign foreign
    rw [isKept_of_string means, integer]
    rfl

end FieldKind

/-! ### The texts of a node -/

/-- A text that a node gives, and what it is read as. -/
structure FieldText where
  kind : FieldKind
  version : Option IPVersion
  raw : String
  deriving DecidableEq, Repr

namespace FieldText

def isAccepted (t : FieldText) : Bool := (Field.parse t.kind (some t.raw) t.version).ok

/-- Whether a text has not the form of an integer. An identifier may have any form, so it is looked
up what the form means. -/
def isClear (t : FieldText) : Bool :=
  if t.kind = .identifier then isKept t.raw else (integer? t.raw).isNone

theorem isKept_eq_isClear {t : FieldText} (accepted : t.isAccepted = true) :
    isKept t.raw = t.isClear := by
  by_cases identifier : t.kind = .identifier
  · rw [isClear, if_pos identifier]
  · rw [isClear, if_neg identifier]
    cases parsed : Field.parse t.kind (some t.raw) t.version with
    | parsed value =>
      exact FieldKind.isKept_of_read identifier (Field.parse_eq_parsed_iff.1 parsed).2.1
    | absent => simp [isAccepted, parsed, FieldResult.ok, FieldResult.value?] at accepted
    | invalid error => simp [isAccepted, parsed, FieldResult.ok, FieldResult.value?] at accepted

end FieldText

/-- The texts that a node gives, other than its name. -/
def NodeDescriptor.fieldTexts (node : NodeDescriptor) : List FieldText :=
  (TextField.all.filterMap fun field =>
    ((node.fieldText field).filter (· ≠ "")).map fun raw => ⟨field.kind, field.version?, raw⟩) ++
  (node.addresses.filterMap fun a => a.address.map fun raw => ⟨.cidrOrIp, none, raw⟩) ++
  node.podBlocks.map fun raw => ⟨.cidr, none, raw⟩

namespace NodeDescription

/-- Whether all fields that are given are valid. -/
def isAccepted (d : NodeDescription) : Bool := d.descriptor.fieldTexts.all (·.isAccepted)

/-- Whether the name is read as a name. -/
def isNamed (d : NodeDescription) : Bool :=
  (plainValue d.name.text).toOption.any Document.truthy && NodeDataplane.isKept d.name.text

/-- Whether the name and all texts come back. -/
def isKept (d : NodeDescription) : Bool :=
  d.isNamed && d.outline.texts.all fun t => NodeDataplane.isKept t.text

def isClear (d : NodeDescription) : Bool :=
  d.isNamed && d.descriptor.fieldTexts.all (·.isClear)

/-- The text of a field, if it is given. -/
def text? (d : NodeDescription) : TextField → Option PlainText
  | .pinned .v4 => d.bgp.bind (·.ipv4Address)
  | .pinned .v6 => d.bgp.bind (·.ipv6Address)
  | .ipipTunnel => d.bgp.bind (·.ipipTunnelAddress)
  | .vxlanTunnel4 => d.vxlanTunnelAddress4
  | .vxlanTunnel6 => d.vxlanTunnelAddress6
  | .vxlanMac4 => d.vxlanTunnelMac4
  | .vxlanMac6 => d.vxlanTunnelMac6
  | .meshInterface => d.mesh.bind (·.interfaceAddress)
  | .meshKey => d.meshPublicKey

theorem fieldText_descriptor (d : NodeDescription) (field : TextField) :
    (d.descriptor.fieldText field).filter (· ≠ "") = (d.text? field).map (·.text) := by
  have given (t : Option PlainText) :
      (some (t.elim "" (·.text))).filter (· ≠ "") = t.map (·.text) := by
    cases t with
    | none => simp
    | some t => simp [NodeDescriptor.text_ne_empty]
  have inside {α : Type} (part : Option α) (text : α → Option PlainText) :
      (part.bind fun a => some ((text a).elim "" (·.text))).filter (· ≠ "") =
        (part.bind text).map (·.text) := by
    cases part with
    | none => rfl
    | some a => exact given (text a)
  have section_text {α β : Type} (part : Option α) (spec : α → β) (text : β → Option String) :
      (part.map spec).bind text = part.bind fun a => text (spec a) := by
    cases part <;> rfl
  cases field with
  | pinned version =>
    cases version with
    | v4 => exact (congrArg _ (section_text ..)).trans (inside d.bgp (·.ipv4Address))
    | v6 => exact (congrArg _ (section_text ..)).trans (inside d.bgp (·.ipv6Address))
  | ipipTunnel => exact (congrArg _ (section_text ..)).trans (inside d.bgp (·.ipipTunnelAddress))
  | vxlanTunnel4 => exact given d.vxlanTunnelAddress4
  | vxlanTunnel6 => exact given d.vxlanTunnelAddress6
  | vxlanMac4 => exact given d.vxlanTunnelMac4
  | vxlanMac6 => exact given d.vxlanTunnelMac6
  | meshInterface =>
    exact (congrArg _ (section_text ..)).trans (inside d.mesh (·.interfaceAddress))
  | meshKey => exact given d.meshPublicKey

variable {P : String → Prop}

theorem forall_texts_text_iff {t : Option PlainText} :
    (∀ o ∈ t.map Outline.text, ∀ t ∈ o.texts, P t.text) ↔ ∀ given ∈ t, P given.text := by
  cases t <;> simp [Outline.texts]

theorem forall_texts_bgp_iff {d : NodeDescription} :
    (∀ o ∈ d.bgp.map (·.outline), ∀ t ∈ o.texts, P t.text) ↔
      (∀ t ∈ d.text? (.pinned .v4), P t.text) ∧ (∀ t ∈ d.text? (.pinned .v6), P t.text) ∧
        ∀ t ∈ d.text? .ipipTunnel, P t.text := by
  unfold text?
  cases d.bgp with
  | none => simp
  | some bgp =>
    simp only [Option.map_some, Option.mem_some_iff, forall_eq', BgpDescription.outline,
      Outline.forall_texts_ofFields_iff, BgpDescription.fields, List.forall_mem_cons,
      forall_texts_text_iff]
    simp

theorem forall_texts_mesh_iff {d : NodeDescription} :
    (∀ o ∈ d.mesh.map (·.outline), ∀ t ∈ o.texts, P t.text) ↔
      ∀ t ∈ d.text? .meshInterface, P t.text := by
  unfold text?
  cases d.mesh with
  | none => simp
  | some mesh =>
    simp only [Option.map_some, Option.mem_some_iff, forall_eq', MeshDescription.outline,
      Outline.forall_texts_ofFields_iff, MeshDescription.fields, List.forall_mem_cons,
      forall_texts_text_iff]
    simp

theorem forall_texts_addresses_iff (kinds : ∀ kind : AddressKind, P kind.name)
    {d : NodeDescription} :
    (∀ o ∈ d.addresses.map fun all => Outline.list (all.map (·.outline)),
        ∀ t ∈ o.texts, P t.text) ↔
      ∀ a ∈ d.descriptor.addresses, ∀ raw ∈ a.address, P raw := by
  have each (a : AddressDescription) :
      (∀ t ∈ a.outline.texts, P t.text) ↔ ∀ raw ∈ a.spec.address, P raw := by
    rw [AddressDescription.outline, Outline.forall_texts_ofFields_iff]
    cases kind : a.kind <;>
      simp [AddressDescription.fields, kind, Outline.texts, AddressKind.plain, kinds,
        AddressDescription.spec]
  rw [descriptor]
  cases d.addresses with
  | none => simp
  | some all => simp [Outline.forall_texts_list_iff, each]

theorem forall_texts_pods_iff {d : NodeDescription} :
    (∀ o ∈ d.podBlocks.map fun all => Outline.list (all.map .text), ∀ t ∈ o.texts, P t.text) ↔
      ∀ raw ∈ d.descriptor.podBlocks, P raw := by
  rw [descriptor]
  cases d.podBlocks with
  | none => simp
  | some blocks =>
    simp only [Option.map_some, Option.mem_some_iff, forall_eq', Outline.forall_texts_list_iff]
    simp [Outline.texts]

theorem forall_fieldTexts_iff {d : NodeDescription} :
    (∀ t ∈ d.descriptor.fieldTexts, P t.raw) ↔
      (∀ field ∈ TextField.all, ∀ t ∈ d.text? field, P t.text) ∧
      (∀ a ∈ d.descriptor.addresses, ∀ raw ∈ a.address, P raw) ∧
      ∀ raw ∈ d.descriptor.podBlocks, P raw := by
  simp only [NodeDescriptor.fieldTexts, List.forall_mem_append, fieldText_descriptor, and_assoc,
    List.forall_mem_map, List.forall_mem_filterMap, Option.map_map, Option.map_eq_some_iff,
    Function.comp_apply, forall_exists_index, and_imp, forall_apply_eq_imp_iff₂, Option.mem_def]

/-- The texts in a file of nodes are the name, the texts of the fields, and words for the classes of
addresses. -/
theorem forall_texts_iff (kinds : ∀ kind : AddressKind, P kind.name) (d : NodeDescription) :
    (∀ t ∈ d.outline.texts, P t.text) ↔
      P d.name.text ∧ ∀ t ∈ d.descriptor.fieldTexts, P t.raw := by
  have name : (∀ o ∈ some (Outline.text d.name), ∀ t ∈ o.texts, P t.text) ↔ P d.name.text := by
    simp [Outline.texts]
  rw [outline, Outline.forall_texts_ofFields_iff, forall_fieldTexts_iff]
  simp only [fields, TextField.all, List.forall_mem_cons, List.not_mem_nil, false_implies,
    implies_true, and_true, name, forall_texts_bgp_iff, forall_texts_mesh_iff,
    forall_texts_addresses_iff kinds, forall_texts_pods_iff, forall_texts_text_iff]
  constructor
  · rintro ⟨name, ⟨pinned4, pinned6, ipip⟩, addresses, vxlan4, vxlan6, mac4, mac6, mesh, key, pods⟩
    exact ⟨name, ⟨pinned4, pinned6, ipip, vxlan4, vxlan6, mac4, mac6, mesh, key⟩, addresses, pods⟩
  · rintro ⟨name, ⟨pinned4, pinned6, ipip, vxlan4, vxlan6, mac4, mac6, mesh, key⟩, addresses, pods⟩
    exact ⟨name, ⟨pinned4, pinned6, ipip⟩, addresses, vxlan4, vxlan6, mac4, mac6, mesh, key, pods⟩

/-- Of the texts of a node that is valid, those are lost that have the form of an integer, and of
its identifiers those that mean something else. -/
theorem isKept_eq_isClear {d : NodeDescription} (accepted : d.isAccepted = true) :
    d.isKept = d.isClear := by
  have kinds (kind : AddressKind) : NodeDataplane.isKept kind.name = true := by
    cases kind <;> decide +kernel
  have texts := forall_texts_iff (P := fun s => NodeDataplane.isKept s = true) kinds d
  have clear (t : FieldText) (mem : t ∈ d.descriptor.fieldTexts) :
      NodeDataplane.isKept t.raw = t.isClear :=
    FieldText.isKept_eq_isClear (List.all_eq_true.1 accepted t mem)
  rw [Bool.eq_iff_iff]
  simp only [isKept, isClear, Bool.and_eq_true, List.all_eq_true, texts]
  constructor
  · rintro ⟨named, -, kept⟩
    exact ⟨named, fun t mem => clear t mem ▸ kept t mem⟩
  · rintro ⟨named, kept⟩
    refine ⟨named, ?_, fun t mem => (clear t mem).trans (kept t mem)⟩
    simp only [isNamed, Bool.and_eq_true] at named
    exact named.2

end NodeDescription

end NodeDataplane
