import NodeDataplane.NodeEntry
import NodeDataplane.Proofs.Outline.Fields
import NodeDataplane.Proofs.Steps

/-!
# Descriptions of nodes

A description tells a node as a file of nodes does: every field may be there or not, and what it
says is a text. Its outline is the map that stands in the file, its descriptor the node with the
texts as they are.

## Main results

- `NodeDescriptor.ofDocument_eq_ok_iff`: the map is read as the descriptor if the name counts as one
  and every text comes back from what it is read as, and in no other case.

## Proof strategy

Reading a node is taken apart once (`ofEntries_eq_ok_iff`). Each part comes back exactly if its
texts do, by one lemma for each kind of part: a text, a section, a list.
-/

namespace NodeDataplane

/-! ### Descriptions -/

structure BgpDescription where
  ipv4Address : Option PlainText := none
  ipv6Address : Option PlainText := none
  ipipTunnelAddress : Option PlainText := none
  deriving DecidableEq, Repr

structure AddressDescription where
  address : PlainText
  kind : Option AddressKind := none
  deriving DecidableEq, Repr

structure MeshDescription where
  interfaceAddress : Option PlainText := none
  deriving DecidableEq, Repr

/-- A node as a file tells it: the fields that are there, with their texts. -/
structure NodeDescription where
  name : PlainText
  bgp : Option BgpDescription := none
  addresses : Option (List AddressDescription) := none
  vxlanTunnelAddress4 : Option PlainText := none
  vxlanTunnelAddress6 : Option PlainText := none
  vxlanTunnelMac4 : Option PlainText := none
  vxlanTunnelMac6 : Option PlainText := none
  mesh : Option MeshDescription := none
  meshPublicKey : Option PlainText := none
  podBlocks : Option (List PlainText) := none
  deriving DecidableEq, Repr

def AddressKind.plain (kind : AddressKind) : PlainText := ⟨kind.name, by cases kind <;> decide⟩

namespace BgpDescription

def fields (bgp : BgpDescription) : List Outline.Field := [
  (⟨"ipv4_address", by decide, rfl⟩, bgp.ipv4Address.map .text),
  (⟨"ipv6_address", by decide, rfl⟩, bgp.ipv6Address.map .text),
  (⟨"ipv4_ipip_tunnel_addr", by decide, rfl⟩, bgp.ipipTunnelAddress.map .text)]

def outline (bgp : BgpDescription) : Outline := .ofFields bgp.fields

def spec (bgp : BgpDescription) : BgpSpec where
  ipv4Address := some (bgp.ipv4Address.elim "" (·.text))
  ipv6Address := some (bgp.ipv6Address.elim "" (·.text))
  ipipTunnelAddress := some (bgp.ipipTunnelAddress.elim "" (·.text))

end BgpDescription

namespace AddressDescription

def fields (a : AddressDescription) : List Outline.Field := [
  (⟨"address", by decide, rfl⟩, some (.text a.address)),
  (⟨"type", by decide, rfl⟩, a.kind.map (.text ·.plain))]

def outline (a : AddressDescription) : Outline := .ofFields a.fields

def spec (a : AddressDescription) : NodeAddress := ⟨some a.address.text, a.kind.getD .internal⟩

end AddressDescription

namespace MeshDescription

def fields (m : MeshDescription) : List Outline.Field := [
  (⟨"interface_address", by decide, rfl⟩, m.interfaceAddress.map .text)]

def outline (m : MeshDescription) : Outline := .ofFields m.fields

def spec (m : MeshDescription) : MeshSpec := ⟨some (m.interfaceAddress.elim "" (·.text))⟩

end MeshDescription

namespace NodeDescription

def fields (d : NodeDescription) : List Outline.Field := [
  (⟨"name", by decide, rfl⟩, some (.text d.name)),
  (⟨"bgp", by decide, rfl⟩, d.bgp.map (·.outline)),
  (⟨"addresses", by decide, rfl⟩, d.addresses.map fun all => .list (all.map (·.outline))),
  (⟨"ipv4_vxlan_tunnel_addr", by decide, rfl⟩, d.vxlanTunnelAddress4.map .text),
  (⟨"ipv6_vxlan_tunnel_addr", by decide, rfl⟩, d.vxlanTunnelAddress6.map .text),
  (⟨"vxlan_tunnel_mac_v4", by decide, rfl⟩, d.vxlanTunnelMac4.map .text),
  (⟨"vxlan_tunnel_mac_v6", by decide, rfl⟩, d.vxlanTunnelMac6.map .text),
  (⟨"mesh", by decide, rfl⟩, d.mesh.map (·.outline)),
  (⟨"mesh_public_key", by decide, rfl⟩, d.meshPublicKey.map .text),
  (⟨"pod_cidrs", by decide, rfl⟩, d.podBlocks.map fun all => .list (all.map .text))]

def outline (d : NodeDescription) : Outline := .ofFields d.fields

/-- The texts of a node as they are. -/
def descriptor (d : NodeDescription) : NodeDescriptor where
  name := d.name.text
  bgp := d.bgp.map (·.spec)
  addresses := (d.addresses.getD []).map (·.spec)
  vxlanTunnelAddress4 := some (d.vxlanTunnelAddress4.elim "" (·.text))
  vxlanTunnelAddress6 := some (d.vxlanTunnelAddress6.elim "" (·.text))
  vxlanTunnelMac4 := some (d.vxlanTunnelMac4.elim "" (·.text))
  vxlanTunnelMac6 := some (d.vxlanTunnelMac6.elim "" (·.text))
  mesh := d.mesh.map (·.spec)
  meshPublicKey := some (d.meshPublicKey.elim "" (·.text))
  podBlocks := (d.podBlocks.getD []).map (·.text)

/-- A node is a map, in which addresses are maps in a list. -/
theorem depth_outline_le (d : NodeDescription) : d.outline.depth ≤ 3 := by
  have bgp (b : BgpDescription) : b.outline.depth ≤ 2 := by
    rw [BgpDescription.outline, Outline.depth_ofFields_le_iff]
    simp [BgpDescription.fields, Outline.depth]
  have mesh (m : MeshDescription) : m.outline.depth ≤ 2 := by
    rw [MeshDescription.outline, Outline.depth_ofFields_le_iff]
    simp [MeshDescription.fields, Outline.depth]
  have address (a : AddressDescription) : a.outline.depth ≤ 1 := by
    rw [AddressDescription.outline, Outline.depth_ofFields_le_iff]
    simp [AddressDescription.fields, Outline.depth]
  rw [outline, Outline.depth_ofFields_le_iff]
  simp [fields, Outline.depth, Outline.itemsDepth_le_iff, bgp, mesh, address]

end NodeDescription

/-! ### Reading descriptions -/

namespace NodeDescriptor

variable {value : String → Document}

/-- Whether a text comes back from what it is read as. -/
def Keeps (value : String → Document) (t : PlainText) : Prop :=
  value t.text ≠ .null ∧ textOf (value t.text) = .ok t.text

theorem text_ne_empty (t : PlainText) : t.text ≠ "" := by
  intro empty
  have plain := t.plain
  rw [empty] at plain
  cases plain

theorem textAt_eq_ok_iff (value : String → Document) {fields : List Outline.Field}
    (distinct : (fields.map (·.1.text)).Nodup) (key : String) {t : Option PlainText}
    (named : Outline.content? key fields = t.map .text) :
    textAt (Outline.fieldEntries value fields) key = .ok (t.elim "" (·.text)) ↔
      ∀ o ∈ t.map Outline.text, ∀ t ∈ o.texts, Keeps value t := by
  have here := Outline.lookup?_fieldEntries value distinct key
  rw [named] at here
  cases t with
  | none => simp [textAt, here]
  | some t =>
    simp only [Option.map_some, Outline.document] at here
    simp only [Option.map_some, Option.mem_some_iff, forall_eq', Outline.texts,
      List.mem_singleton, forall_eq, Option.elim_some, Keeps, textAt, here]
    cases read : value t.text with
    | null => simp [Ne.symm (text_ne_empty t)]
    | _ => simp

theorem mapM_map_eq_ok_iff {ε α β γ : Type} {f : β → Except ε γ} {g : α → β} {h : α → γ}
    {members : List α} : (members.map g).mapM f = .ok (members.map h) ↔
      ∀ a ∈ members, f (g a) = .ok (h a) := by
  induction members with
  | nil => simp [pure, Except.pure]
  | cons a rest ih =>
    rw [List.map_cons, List.mapM_cons]
    simp only [bind_eq_ok_iff, pure, Except.pure, Except.ok.injEq, List.map_cons, List.cons.injEq,
      List.forall_mem_cons, ← ih]
    grind

/-- A section comes back if all its texts do. -/
theorem mapM_section_eq_ok_iff {α γ : Type} {read : Entries → Except EntryFault γ}
    {fields : α → List Outline.Field} {outline : α → Outline} {spec : α → γ}
    (each : ∀ a, read (Outline.fieldEntries value (fields a)) = .ok (spec a) ↔
      ∀ t ∈ (outline a).texts, Keeps value t) (part : Option α) :
    ((part.map fields).map (Outline.fieldEntries value)).mapM read = .ok (part.map spec) ↔
      ∀ o ∈ part.map outline, ∀ t ∈ o.texts, Keeps value t := by
  cases part with
  | none => simp [pure, Except.pure]
  | some a =>
    simp only [Option.map_some, Option.mapM_some, Option.mem_some_iff, forall_eq', ← each]
    cases read (Outline.fieldEntries value (fields a)) <;> simp [Functor.map, Except.map]

theorem bgpOf_eq_ok_iff (bgp : BgpDescription) :
    bgpOf (Outline.fieldEntries value bgp.fields) = .ok bgp.spec ↔
      ∀ t ∈ bgp.outline.texts, Keeps value t := by
  have distinct : (bgp.fields.map (·.1.text)).Nodup := by simp [BgpDescription.fields]
  have text {t : Option PlainText} (key : String) := textAt_eq_ok_iff value distinct key (t := t)
  rw [BgpDescription.outline, Outline.forall_texts_ofFields_iff]
  simp only [BgpDescription.fields, List.forall_mem_cons, List.not_mem_nil, false_implies,
    implies_true, and_true]
  rw [← text "ipv4_address" rfl, ← text "ipv6_address" rfl, ← text "ipv4_ipip_tunnel_addr" rfl]
  simp only [bgpOf, bind_eq_ok_iff, BgpDescription.spec, pure, Except.pure, Except.ok.injEq,
    BgpSpec.mk.injEq, Option.some.injEq]
  constructor
  · rintro ⟨_, first, _, second, _, third, rfl, rfl, rfl⟩
    exact ⟨first, second, third⟩
  · rintro ⟨first, second, third⟩
    exact ⟨_, first, _, second, _, third, rfl, rfl, rfl⟩

theorem meshOf_eq_ok_iff (m : MeshDescription) :
    meshOf (Outline.fieldEntries value m.fields) = .ok m.spec ↔
      ∀ t ∈ m.outline.texts, Keeps value t := by
  have distinct : (m.fields.map (·.1.text)).Nodup := by simp [MeshDescription.fields]
  rw [MeshDescription.outline, Outline.forall_texts_ofFields_iff]
  simp only [MeshDescription.fields, List.forall_mem_cons, List.not_mem_nil, false_implies,
    implies_true, and_true]
  rw [← textAt_eq_ok_iff value distinct "interface_address" rfl]
  simp only [meshOf, bind_eq_ok_iff, MeshDescription.spec, pure, Except.pure, Except.ok.injEq,
    MeshSpec.mk.injEq, Option.some.injEq]
  constructor
  · rintro ⟨_, first, rfl⟩
    exact first
  · intro first
    exact ⟨_, first, rfl⟩

/-- What the words of the format and the empty value are read as. -/
structure ReadsWords (value : String → Document) : Prop where
  kind (kind : AddressKind) : value kind.name = .string kind.name
  none : value "None" ≠ .null

theorem keeps_iff (words : ReadsWords value) {t : PlainText} :
    Keeps value t ↔ textOf (value t.text) = .ok t.text := by
  refine ⟨fun keeps => keeps.2, fun same => ⟨fun null => ?_, same⟩⟩
  rw [null] at same
  have shown : "None" = t.text := Except.ok.inj same
  exact words.none (shown ▸ null)

theorem keeps_kind (words : ReadsWords value) (kind : AddressKind) : Keeps value kind.plain := by
  rw [keeps_iff words, AddressKind.plain, words.kind]
  rfl

theorem nameAt_eq_ok_iff (words : ReadsWords value) {entries : Entries} {t : PlainText}
    (here : Document.lookup? "name" entries = some (value t.text)) :
    nameAt entries = .ok t.text ↔ (value t.text).truthy = true ∧ Keeps value t := by
  rw [nameAt, here, keeps_iff words]
  by_cases truthy : (value t.text).truthy = true <;> simp [truthy]

theorem addressOf_eq_ok_iff (words : ReadsWords value) (a : AddressDescription) :
    addressOf (a.outline.document value) = .ok a.spec ↔
      ∀ t ∈ a.outline.texts, Keeps value t := by
  have distinct : (a.fields.map (·.1.text)).Nodup := by simp [AddressDescription.fields]
  have address : Document.lookup? "address" (Outline.fieldEntries value a.fields) =
      some (value a.address.text) := Outline.lookup?_fieldEntries value distinct "address"
  have type : Document.lookup? "type" (Outline.fieldEntries value a.fields) =
      (a.kind.map (.text ·.plain)).map (Outline.document value) :=
    Outline.lookup?_fieldEntries value distinct "type"
  have kind : addressKind (Outline.fieldEntries value a.fields) = .ok (a.kind.getD .internal) := by
    rw [addressKind, type]
    cases a.kind with
    | none => rfl
    | some kind =>
      simp [Outline.document, AddressKind.plain, words.kind, Document.string?,
        AddressKind.ofName?_name]
  have texts : (∀ t ∈ a.outline.texts, Keeps value t) ↔ Keeps value a.address := by
    rw [AddressDescription.outline, Outline.forall_texts_ofFields_iff]
    simp [AddressDescription.fields, Outline.texts, keeps_kind words]
  rw [texts, keeps_iff words, AddressDescription.outline, Outline.document_ofFields]
  simp only [addressOf, Document.entries?_map, address, kind, bind_eq_ok_iff,
    AddressDescription.spec, pure, Except.pure, Except.ok.injEq, NodeAddress.mk.injEq,
    Option.some.injEq]
  constructor
  · rintro ⟨_, same, _, rfl, rfl, -⟩
    exact same
  · intro same
    exact ⟨_, same, _, rfl, rfl, rfl⟩

theorem sectionAt_eq (value : String → Document) {fields : List Outline.Field}
    (distinct : (fields.map (·.1.text)).Nodup) (key : String) (part : Option (List Outline.Field))
    (named : Outline.content? key fields = part.map .ofFields) :
    sectionAt (Outline.fieldEntries value fields) key =
      .ok (part.map (Outline.fieldEntries value)) := by
  rw [sectionAt, Outline.lookup?_fieldEntries value distinct, named]
  cases part <;> rfl

theorem listAt_eq (value : String → Document) {fields : List Outline.Field}
    (distinct : (fields.map (·.1.text)).Nodup) (key : String) (items : Option (List Outline))
    (named : Outline.content? key fields = items.map .list) :
    listAt (Outline.fieldEntries value fields) key =
      .ok ((items.getD []).map (Outline.document value)) := by
  rw [listAt, Outline.lookup?_fieldEntries value distinct, named]
  cases items with
  | none => rfl
  | some items => simp [Outline.document, Outline.itemDocuments_eq_map]

/-- The members of a list come back if all their texts do. -/
theorem mapM_items_eq_ok_iff {α β : Type} {member : Document → Except EntryFault β}
    {outline : α → Outline} {spec : α → β}
    (each : ∀ a, member ((outline a).document value) = .ok (spec a) ↔
      ∀ t ∈ (outline a).texts, Keeps value t) (items : Option (List α)) :
    (((items.map (·.map outline)).getD []).map (Outline.document value)).mapM member =
        .ok ((items.getD []).map spec) ↔
      ∀ o ∈ items.map fun all => Outline.list (all.map outline), ∀ t ∈ o.texts, Keeps value t := by
  cases items with
  | none => simp [pure, Except.pure]
  | some items =>
    simp only [Option.map_some, Option.getD_some, List.map_map, mapM_map_eq_ok_iff,
      Function.comp_apply, each, Option.mem_some_iff, forall_eq', Outline.forall_texts_list_iff,
      List.forall_mem_map]

/-- A node is read part by part. -/
theorem ofEntries_eq_ok_iff {entries : Entries} {node : NodeDescriptor} :
    ofEntries entries = .ok node ↔
      nameAt entries = .ok node.name ∧
      (∃ part, sectionAt entries "bgp" = .ok part ∧ part.mapM bgpOf = .ok node.bgp) ∧
      (∃ part, sectionAt entries "mesh" = .ok part ∧ part.mapM meshOf = .ok node.mesh) ∧
      (∃ items, listAt entries "pod_cidrs" = .ok items ∧ items.mapM textOf = .ok node.podBlocks) ∧
      (∃ items, listAt entries "addresses" = .ok items ∧
        items.mapM addressOf = .ok node.addresses) ∧
      (∃ s, textAt entries "ipv4_vxlan_tunnel_addr" = .ok s ∧ some s = node.vxlanTunnelAddress4) ∧
      (∃ s, textAt entries "ipv6_vxlan_tunnel_addr" = .ok s ∧ some s = node.vxlanTunnelAddress6) ∧
      (∃ s, textAt entries "vxlan_tunnel_mac_v4" = .ok s ∧ some s = node.vxlanTunnelMac4) ∧
      (∃ s, textAt entries "vxlan_tunnel_mac_v6" = .ok s ∧ some s = node.vxlanTunnelMac6) ∧
      ∃ s, textAt entries "mesh_public_key" = .ok s ∧ some s = node.meshPublicKey := by
  obtain ⟨name, bgp, addresses, vxlan4, vxlan6, mac4, mac6, mesh, key, pods⟩ := node
  simp only [ofEntries, bind_eq_ok_iff, pure, Except.pure, Except.ok.injEq, NodeDescriptor.mk.injEq]
  constructor
  · rintro ⟨_, name, _, bgp, _, bgp', _, mesh, _, mesh', _, pods, _, addresses, _, addresses',
      _, vxlan4, _, vxlan6, _, mac4, _, mac6, _, key, _, pods', rfl, rfl, rfl, rfl, rfl, rfl, rfl,
      rfl, rfl, rfl⟩
    exact ⟨name, ⟨_, bgp, bgp'⟩, ⟨_, mesh, mesh'⟩, ⟨_, pods, pods'⟩, ⟨_, addresses, addresses'⟩,
      ⟨_, vxlan4, rfl⟩, ⟨_, vxlan6, rfl⟩, ⟨_, mac4, rfl⟩, ⟨_, mac6, rfl⟩, ⟨_, key, rfl⟩⟩
  · rintro ⟨name, ⟨_, bgp, bgp'⟩, ⟨_, mesh, mesh'⟩, ⟨_, pods, pods'⟩, ⟨_, addresses, addresses'⟩,
      ⟨_, vxlan4, rfl⟩, ⟨_, vxlan6, rfl⟩, ⟨_, mac4, rfl⟩, ⟨_, mac6, rfl⟩, ⟨_, key, rfl⟩⟩
    exact ⟨_, name, _, bgp, _, bgp', _, mesh, _, mesh', _, pods, _, addresses, _, addresses',
      _, vxlan4, _, vxlan6, _, mac4, _, mac6, _, key, _, pods', rfl, rfl, rfl, rfl, rfl, rfl, rfl,
      rfl, rfl, rfl⟩

/-- A node is read as its texts say if it is a node, and all of them come back. -/
theorem ofDocument_eq_ok_iff (words : ReadsWords value) (d : NodeDescription) :
    ofDocument (d.outline.document value) = .ok d.descriptor ↔
      (value d.name.text).truthy = true ∧ ∀ t ∈ d.outline.texts, Keeps value t := by
  have distinct : (d.fields.map (·.1.text)).Nodup := by simp [NodeDescription.fields]
  have found := Outline.lookup?_fieldEntries value distinct
  have text {t : Option PlainText} (key : String)
      (named : Outline.content? key d.fields = t.map .text) :
      (∃ s, textAt (Outline.fieldEntries value d.fields) key = .ok s ∧
          some s = some (t.elim "" (·.text))) ↔
        ∀ o ∈ t.map Outline.text, ∀ t ∈ o.texts, Keeps value t := by
    rw [← textAt_eq_ok_iff value distinct key named]
    simp
  have name := nameAt_eq_ok_iff words (found "name")
  have bgp := sectionAt_eq value distinct "bgp" (d.bgp.map (·.fields))
    (by rw [Option.map_map]; rfl)
  have mesh := sectionAt_eq value distinct "mesh" (d.mesh.map (·.fields))
    (by rw [Option.map_map]; rfl)
  have pod (block : PlainText) : textOf ((Outline.text block).document value) = .ok block.text ↔
      ∀ t ∈ (Outline.text block).texts, Keeps value t := by
    simp [Outline.document, Outline.texts, keeps_iff words]
  have pods := listAt_eq value distinct "pod_cidrs" (d.podBlocks.map (·.map .text))
    (by rw [Option.map_map]; rfl)
  have addresses := listAt_eq value distinct "addresses" (d.addresses.map (·.map (·.outline)))
    (by rw [Option.map_map]; rfl)
  rw [NodeDescription.outline, Outline.forall_texts_ofFields_iff, Outline.document_ofFields,
    ofDocument_map, ofEntries_eq_ok_iff]
  simp only [bgp, mesh, pods, addresses, Except.ok.injEq, exists_eq_left',
    NodeDescription.descriptor, name]
  rw [mapM_section_eq_ok_iff bgpOf_eq_ok_iff, mapM_section_eq_ok_iff meshOf_eq_ok_iff,
    mapM_items_eq_ok_iff pod, mapM_items_eq_ok_iff (addressOf_eq_ok_iff words)]
  rw [text "ipv4_vxlan_tunnel_addr" rfl, text "ipv6_vxlan_tunnel_addr" rfl,
    text "vxlan_tunnel_mac_v4" rfl, text "vxlan_tunnel_mac_v6" rfl, text "mesh_public_key" rfl]
  simp only [NodeDescription.fields, List.forall_mem_cons, List.not_mem_nil, false_implies,
    implies_true, and_true]
  have single : (∀ o ∈ some (Outline.text d.name), ∀ t ∈ o.texts, Keeps value t) ↔
      Keeps value d.name := by
    simp [Outline.texts]
  rw [single]
  constructor
  · rintro ⟨⟨truthy, name⟩, bgp, mesh, pods, addresses, vxlan4, vxlan6, mac4, mac6, key⟩
    exact ⟨truthy, name, bgp, addresses, vxlan4, vxlan6, mac4, mac6, mesh, key, pods⟩
  · rintro ⟨truthy, name, bgp, addresses, vxlan4, vxlan6, mac4, mac6, mesh, key, pods⟩
    exact ⟨⟨truthy, name⟩, bgp, mesh, pods, addresses, vxlan4, vxlan6, mac4, mac6, key⟩

end NodeDescriptor

end NodeDataplane
