import NodeDataplane.Document.Yaml
import NodeDataplane.Proofs.Entries.Shape
import NodeDataplane.Proofs.Outline.JsonText

/-!
# Entries are read exactly

Two entries are alike if they differ in nothing that counts: in keys that are unknown, and in how
they tell that there is no text. The map that spells out a node has an entry for each of its fields.

## Main result

`entries_read_exactly`: of what a JSON text holds, the well-formed entries and no others are read as
nodes, and the fault of another one is what is wrong with it. Entries that are alike are read alike,
and a node whose fields are all texts comes back from the map that spells it out.

## Proof strategy

An entry is read part by part (`ofEntries_eq`). Parts that are alike are read alike, and a part that
is spelled out comes back, by one lemma for each kind of part: a text, a section, a list.
-/

namespace NodeDataplane

open Document (lookup?)
open NodeDescriptor (Entries)

/-! ### Entries that are alike -/

namespace NodeDescriptor

/-- Nothing is told where a text may be: nothing stands there, or null, or an empty text. -/
inductive IsBlank : Option Document → Prop
  | missing : IsBlank none
  | null : IsBlank (some .null)
  | empty : IsBlank (some (.string ""))

/-- The same is told where a text may be. -/
def SameText (first second : Option Document) : Prop :=
  first = second ∨ IsBlank first ∧ IsBlank second

/-- Sections that tell the same texts under their keys, whatever else they hold, or are missing. -/
inductive SameSection (keys : List String) : Option Document → Option Document → Prop
  | same (part : Option Document) : SameSection keys part part
  | none {first second : Option Document} (here : IsNoSection first) (there : IsNoSection second) :
      SameSection keys first second
  | maps {first second : Entries}
      (texts : ∀ key ∈ keys, SameText (lookup? key first) (lookup? key second)) :
      SameSection keys (some (.map first)) (some (.map second))

inductive SameAddress : Document → Document → Prop
  | same (item : Document) : SameAddress item item
  | maps {first second : Entries}
      (address : lookup? "address" first = lookup? "address" second)
      (type : lookup? "type" first = lookup? "type" second) :
      SameAddress (.map first) (.map second)

inductive SameAddresses : Option Document → Option Document → Prop
  | same (part : Option Document) : SameAddresses part part
  | lists {first second : List Document} (each : List.Forall₂ SameAddress first second) :
      SameAddresses (some (.list first)) (some (.list second))

/-- Two entries differ in nothing but keys that are unknown, and in how they tell nothing. -/
structure Alike (first second : Entries) : Prop where
  name : lookup? "name" first = lookup? "name" second
  bgp : SameSection ["ipv4_address", "ipv6_address", "ipv4_ipip_tunnel_addr"]
    (lookup? "bgp" first) (lookup? "bgp" second)
  mesh : SameSection ["interface_address"] (lookup? "mesh" first) (lookup? "mesh" second)
  podBlocks : lookup? "pod_cidrs" first = lookup? "pod_cidrs" second
  addresses : SameAddresses (lookup? "addresses" first) (lookup? "addresses" second)
  texts : ∀ key ∈ ["ipv4_vxlan_tunnel_addr", "ipv6_vxlan_tunnel_addr", "vxlan_tunnel_mac_v4",
    "vxlan_tunnel_mac_v6", "mesh_public_key"], SameText (lookup? key first) (lookup? key second)

end NodeDescriptor

/-! ### Nodes that are spelled out -/

/-- A text as it stands in a map; null if there is none. -/
def textDocument (text : Option String) : Document := text.elim .null .string

def BgpSpec.entries (bgp : BgpSpec) : Entries := [
  (.string "ipv4_address", textDocument bgp.ipv4Address),
  (.string "ipv6_address", textDocument bgp.ipv6Address),
  (.string "ipv4_ipip_tunnel_addr", textDocument bgp.ipipTunnelAddress)]

def MeshSpec.entries (mesh : MeshSpec) : Entries := [
  (.string "interface_address", textDocument mesh.interfaceAddress)]

def NodeAddress.document (a : NodeAddress) : Document := .map [
  (.string "address", textDocument a.address), (.string "type", .string a.kind.name)]

namespace NodeDescriptor

/-- What spells out a node, with its lists in their order. -/
def entries (node : NodeDescriptor) : Entries := [
  (.string "name", .string node.name),
  (.string "bgp", node.bgp.elim .null fun bgp => .map bgp.entries),
  (.string "addresses", .list (node.addresses.map NodeAddress.document)),
  (.string "ipv4_vxlan_tunnel_addr", textDocument node.vxlanTunnelAddress4),
  (.string "ipv6_vxlan_tunnel_addr", textDocument node.vxlanTunnelAddress6),
  (.string "vxlan_tunnel_mac_v4", textDocument node.vxlanTunnelMac4),
  (.string "vxlan_tunnel_mac_v6", textDocument node.vxlanTunnelMac6),
  (.string "mesh", node.mesh.elim .null fun mesh => .map mesh.entries),
  (.string "mesh_public_key", textDocument node.meshPublicKey),
  (.string "pod_cidrs", .list (node.podBlocks.map .string))]

/-- No field of a node is missing that should be a text. -/
structure HasTexts (node : NodeDescriptor) : Prop where
  bgp : ∀ bgp ∈ node.bgp, bgp.ipv4Address.isSome ∧ bgp.ipv6Address.isSome ∧
    bgp.ipipTunnelAddress.isSome
  addresses : ∀ a ∈ node.addresses, a.address.isSome
  vxlanTunnelAddress4 : node.vxlanTunnelAddress4.isSome
  vxlanTunnelAddress6 : node.vxlanTunnelAddress6.isSome
  vxlanTunnelMac4 : node.vxlanTunnelMac4.isSome
  vxlanTunnelMac6 : node.vxlanTunnelMac6.isSome
  mesh : ∀ mesh ∈ node.mesh, mesh.interfaceAddress.isSome
  meshPublicKey : node.meshPublicKey.isSome

/-! ### Entries that are read alike -/

variable {entries : Entries}

theorem textAt_of_isBlank {key : String} (blank : IsBlank (lookup? key entries)) :
    textAt entries key = .ok "" := by
  unfold textAt
  generalize lookup? key entries = told at blank
  cases blank <;> rfl

variable {first second : Entries}

theorem textAt_congr {key : String} (same : SameText (lookup? key first) (lookup? key second)) :
    textAt first key = textAt second key := by
  rcases same with same | ⟨here, there⟩
  · rw [textAt, textAt, same]
  · rw [textAt_of_isBlank here, textAt_of_isBlank there]

/-- Sections are read alike if their texts are. -/
theorem section_congr {α : Type} {read : Entries → Except EntryFault α} {key : String}
    {keys : List String} (reads : ∀ {a b : Entries},
      (∀ key ∈ keys, textAt a key = textAt b key) → read a = read b)
    (same : SameSection keys (lookup? key first) (lookup? key second)) :
    (sectionAt first key >>= (·.mapM read)) = (sectionAt second key >>= (·.mapM read)) := by
  generalize one : lookup? key first = a, other : lookup? key second = b at same
  -- The sections are the same, or neither is there, or both are maps that tell the same texts.
  cases same with
  | same => rw [sectionAt, sectionAt, one, other]
  | none here there =>
    rw [sectionAt_eq_ok_iff.2 (.inl ⟨one ▸ here, rfl⟩),
      sectionAt_eq_ok_iff.2 (.inl ⟨other ▸ there, rfl⟩)]
  | maps texts =>
    have inside := reads fun key member => textAt_congr (texts key member)
    simp [sectionAt, one, other, bind, Except.bind, inside]

theorem addressOf_congr {a b : Document} (same : SameAddress a b) : addressOf a = addressOf b := by
  cases same with
  | same => rfl
  | maps address type =>
    simp only [addressOf, Document.entries?_map, addressKind, address, type]

theorem addresses_congr
    (same : SameAddresses (lookup? "addresses" first) (lookup? "addresses" second)) :
    (listAt first "addresses" >>= (·.mapM addressOf)) =
      (listAt second "addresses" >>= (·.mapM addressOf)) := by
  unfold listAt
  generalize lookup? "addresses" first = a, lookup? "addresses" second = b at same
  cases same with
  | same => rfl
  | @lists xs ys each =>
    have items : xs.mapM addressOf = ys.mapM addressOf := by
      induction each with
      | nil => rfl
      | cons here _ ih => rw [List.mapM_cons, List.mapM_cons, addressOf_congr here, ih]
    simpa [bind, Except.bind] using items

/-- What is known of two entries decides what they are read as. -/
theorem ofEntries_congr (alike : Alike first second) : ofEntries first = ofEntries second := by
  have name : nameAt first = nameAt second := by rw [nameAt, nameAt, alike.name]
  have blocks : listAt first "pod_cidrs" = listAt second "pod_cidrs" := by
    rw [listAt, listAt, alike.podBlocks]
  have bgp : (sectionAt first "bgp" >>= (·.mapM bgpOf)) =
      (sectionAt second "bgp" >>= (·.mapM bgpOf)) :=
    section_congr (fun texts => by simp [bgpOf, texts]) alike.bgp
  have mesh : (sectionAt first "mesh" >>= (·.mapM meshOf)) =
      (sectionAt second "mesh" >>= (·.mapM meshOf)) :=
    section_congr (fun texts => by simp [meshOf, texts]) alike.mesh
  have text : ∀ key ∈ _, textAt first key = textAt second key :=
    fun key member => textAt_congr (alike.texts key member)
  simp only [List.forall_mem_cons] at text
  obtain ⟨vxlan4, vxlan6, mac4, mac6, key, -⟩ := text
  -- All that is read of an entry are these parts, so that faults agree as well.
  simp only [ofEntries_eq, name, bgp, mesh, blocks, addresses_congr alike.addresses, vxlan4, vxlan6,
    mac4, mac6, key]

/-! ### Nodes that come back -/

theorem some_getD_eq_iff {text : Option String} {other : String} :
    some (text.getD other) = text ↔ text.isSome = true := by
  cases text <;> simp

/-- A text that is spelled out comes back; if there is none, the empty text does. -/
theorem textAt_of_textDocument {key : String} {text : Option String}
    (there : lookup? key entries = some (textDocument text)) :
    textAt entries key = .ok (text.getD "") := by
  rw [textAt, there]
  cases text <;> rfl

theorem bgpOf_entries_eq_ok_iff (bgp : BgpSpec) :
    bgpOf bgp.entries = .ok bgp ↔ bgp.ipv4Address.isSome ∧ bgp.ipv6Address.isSome ∧
      bgp.ipipTunnelAddress.isSome := by
  have read : bgpOf bgp.entries = .ok ⟨some (bgp.ipv4Address.getD ""),
      some (bgp.ipv6Address.getD ""), some (bgp.ipipTunnelAddress.getD "")⟩ := by
    have first : textAt bgp.entries "ipv4_address" = _ := textAt_of_textDocument rfl
    have second : textAt bgp.entries "ipv6_address" = _ := textAt_of_textDocument rfl
    have third : textAt bgp.entries "ipv4_ipip_tunnel_addr" = _ := textAt_of_textDocument rfl
    rw [bgpOf, first, second, third]
    rfl
  obtain ⟨ipv4, ipv6, ipip⟩ := bgp
  simp only [read, Except.ok.injEq, BgpSpec.mk.injEq, some_getD_eq_iff]

theorem meshOf_entries_eq_ok_iff (mesh : MeshSpec) :
    meshOf mesh.entries = .ok mesh ↔ mesh.interfaceAddress.isSome = true := by
  have read : meshOf mesh.entries = .ok ⟨some (mesh.interfaceAddress.getD "")⟩ := by
    have text : textAt mesh.entries "interface_address" = _ := textAt_of_textDocument rfl
    rw [meshOf, text]
    rfl
  obtain ⟨interface⟩ := mesh
  simp only [read, Except.ok.injEq, MeshSpec.mk.injEq, some_getD_eq_iff]

theorem addressOf_document_eq_ok_iff (a : NodeAddress) :
    addressOf a.document = .ok a ↔ a.address.isSome = true := by
  have kind : addressKind [(.string "address", textDocument a.address),
      (.string "type", .string a.kind.name)] = .ok a.kind := addressKind_eq_ok_iff.2 (.inl rfl)
  -- A missing address is taken for a text here.
  have read : addressOf a.document = .ok ⟨some (a.address.getD "None"), a.kind⟩ := by
    rw [NodeAddress.document, addressOf, Document.entries?_map]
    simp only [lookup?, reduceIte, kind]
    cases a.address <;> rfl
  obtain ⟨address, kind⟩ := a
  simp only [read, Except.ok.injEq, NodeAddress.mk.injEq, some_getD_eq_iff, and_true]

/-- A section that is spelled out comes back if what is in it does. -/
theorem section_eq_ok_iff {α : Type} {read : Entries → Except EntryFault α}
    {spelled : α → Entries} {key : String} {part : Option α}
    (there : lookup? key entries = some (part.elim .null fun a => .map (spelled a))) :
    (∃ inner, sectionAt entries key = .ok inner ∧ inner.mapM read = .ok part) ↔
      ∀ a ∈ part, read (spelled a) = .ok a := by
  rw [sectionAt, there]
  cases part with
  | none => simp [pure, Except.pure]
  | some a =>
    simp only [Option.elim_some, Document.entries?_map, Except.ok.injEq, exists_eq_left',
      Option.mapM_some, Option.mem_some_iff, forall_eq']
    cases read (spelled a) <;> simp [Functor.map, Except.map]

/-- A list that is spelled out comes back if its members do. -/
theorem list_eq_ok_iff {α : Type} {read : Document → Except EntryFault α}
    {spelled : α → Document} {key : String} {members : List α}
    (there : lookup? key entries = some (.list (members.map spelled))) :
    (∃ items, listAt entries key = .ok items ∧ items.mapM read = .ok members) ↔
      ∀ a ∈ members, read (spelled a) = .ok a := by
  have each : (members.map spelled).mapM read = .ok (members.map id) ↔
      ∀ a ∈ members, read (spelled a) = .ok a := mapM_map_eq_ok_iff
  rw [List.map_id] at each
  rw [listAt, there, ← each]
  simp

theorem ofEntries_entries_eq_ok_iff (node : NodeDescriptor) :
    ofEntries node.entries = .ok node ↔ node.name ≠ "" ∧ node.HasTexts := by
  have name : nameAt node.entries = .ok node.name ↔ node.name ≠ "" := by
    have there : lookup? "name" node.entries = some (.string node.name) := rfl
    rw [nameAt, there]
    simp [Document.truthy, textOf, Document.isWritable, Document.every, Document.isShort,
      Document.text]
  have pods : ∀ block ∈ node.podBlocks, textOf (.string block) = .ok block := fun _ _ => rfl
  have text {key : String} {text : Option String}
      (there : lookup? key node.entries = some (textDocument text)) :
      (∃ s, textAt node.entries key = .ok s ∧ some s = text) ↔ text.isSome = true := by
    simp [textAt_of_textDocument there, some_getD_eq_iff]
  have bgp : lookup? "bgp" node.entries = some (node.bgp.elim .null fun b => .map b.entries) := rfl
  have mesh : lookup? "mesh" node.entries =
      some (node.mesh.elim .null fun m => .map m.entries) := rfl
  have blocks : lookup? "pod_cidrs" node.entries = some (.list (node.podBlocks.map .string)) := rfl
  have addresses : lookup? "addresses" node.entries =
      some (.list (node.addresses.map NodeAddress.document)) := rfl
  -- Every part of the reader becomes a condition on one field of the node.
  rw [ofEntries_eq_ok_iff, name, section_eq_ok_iff bgp, section_eq_ok_iff mesh,
    list_eq_ok_iff blocks, list_eq_ok_iff addresses, text rfl, text rfl, text rfl, text rfl,
    text rfl]
  simp only [bgpOf_entries_eq_ok_iff, meshOf_entries_eq_ok_iff, addressOf_document_eq_ok_iff]
  constructor
  · rintro ⟨named, bgp, mesh, -, addresses, vxlan4, vxlan6, mac4, mac6, key⟩
    exact ⟨named, bgp, addresses, vxlan4, vxlan6, mac4, mac6, mesh, key⟩
  · rintro ⟨named, texts⟩
    exact ⟨named, texts.bgp, texts.mesh, pods, texts.addresses, texts.vxlanTunnelAddress4,
      texts.vxlanTunnelAddress6, texts.vxlanTunnelMac4, texts.vxlanTunnelMac6, texts.meshPublicKey⟩

/-! ### Main result -/

/-- **Entries are read exactly.** Of all that a JSON text holds, what has the shape of a node is
read as one, and nothing else is: it is refused as a value that is not allowed, for a reason that is
true of it. Two entries that tell the same, whatever else they hold and however they tell that there
is no text, are read alike. The map that spells out a node is read as that very node exactly if it
has a name and none of its texts is missing. -/
theorem entries_read_exactly [Loader] :
    (∀ text d, Json.parse text = .ok d →
      ((∃ node, ofDocument d = .ok node) ↔ IsWellFormed d) ∧
      (¬ IsWellFormed d → ∃ fault : EntryFault, ofDocument d = .error fault ∧ fault.IsOf d ∧
        fault.failureClass = .invalidValue)) ∧
    (∀ first second, Alike first second → ofDocument (.map first) = ofDocument (.map second)) ∧
    ∀ node : NodeDescriptor,
      ofDocument (.map node.entries) = .ok node ↔ node.name ≠ "" ∧ node.HasTexts := by
  refine ⟨fun text d parsed => ?_, fun _ _ alike => ofEntries_congr alike,
    ofEntries_entries_eq_ok_iff⟩
  have simple := Json.isSimple_of_parse parsed
  -- A fault is true of the entry, and no fault is true of one that is well formed.
  cases result : ofDocument d with
  | ok node =>
    have fits := isWellFormed_of_ofDocument simple result
    exact ⟨iff_of_true ⟨node, rfl⟩ fits, fun misshapen => absurd fits misshapen⟩
  | error fault =>
    have wrong := isOf_of_ofDocument simple result
    have misshapen := not_isWellFormed_of_isOf wrong
    refine ⟨iff_of_false ?_ misshapen, fun _ => ⟨fault, rfl, wrong, rfl⟩⟩
    rintro ⟨node, read⟩
    cases read

namespace Sample

/-- A node with both sections, and with two members in each of its lists. -/
def fullNode : NodeDescription where
  name := ⟨"n1", by decide⟩
  bgp := some { ipv4Address := some ⟨"10.0.0.1", by decide⟩ }
  addresses := some [⟨⟨"10.0.0.1", by decide⟩, some .external⟩, ⟨⟨"fd00::1", by decide⟩, none⟩]
  mesh := some ⟨some ⟨"10.0.0.9", by decide⟩⟩
  podBlocks := some [⟨"10.1.0.0/24", by decide⟩, ⟨"10.2.0.0/24", by decide⟩]

def fullEntries : Entries := [
  (.string "name", .string "n1"),
  (.string "bgp", .map [(.string "ipv4_address", .string "10.0.0.1")]),
  (.string "addresses", .list [
    .map [(.string "address", .string "10.0.0.1"), (.string "type", .string "ExternalIP")],
    .map [(.string "address", .string "fd00::1")]]),
  (.string "mesh", .map [(.string "interface_address", .string "10.0.0.9")]),
  (.string "pod_cidrs", .list [.string "10.1.0.0/24", .string "10.2.0.0/24"])]

/-- The same node told in another order, with blanks and with unknown keys. -/
def otherEntries : Entries := [
  (.string "rack", .string "r1"),
  (.string "pod_cidrs", .list [.string "10.1.0.0/24", .string "10.2.0.0/24"]),
  (.string "mesh", .map [(.string "mtu", .int 1400),
    (.string "interface_address", .string "10.0.0.9")]),
  (.string "addresses", .list [
    .map [(.string "type", .string "ExternalIP"), (.string "address", .string "10.0.0.1")],
    .map [(.string "note", .null), (.string "address", .string "fd00::1")]]),
  (.string "bgp", .map [(.string "ipv6_address", .null),
    (.string "ipv4_address", .string "10.0.0.1")]),
  (.string "mesh_public_key", .string ""),
  (.string "name", .string "n1")]

theorem parse_fullNode :
    Json.parse (String.ofList fullNode.outline.json) = .ok (.map fullEntries) :=
  Outline.parse_json (Nat.le_trans fullNode.depth_outline_le (by decide))

theorem isWellFormed_fullEntries : IsWellFormed (.map fullEntries) := by
  refine ⟨fullEntries, rfl, ⟨_, rfl, rfl⟩, .inr ⟨_, rfl⟩, .inr ⟨_, rfl⟩, ?_, ?_⟩
  · rintro _ ⟨⟩
    exact ⟨_, rfl⟩
  · rintro _ ⟨⟩
    refine ⟨_, rfl, ?_⟩
    simp only [List.forall_mem_cons, List.not_mem_nil, false_implies, implies_true, and_true]
    refine ⟨⟨_, rfl, ⟨_, rfl⟩, ?_⟩, ⟨_, rfl, ⟨_, rfl⟩, nofun⟩⟩
    rintro _ ⟨⟩
    exact ⟨.external, rfl⟩

theorem alike_fullEntries : Alike fullEntries otherEntries := by
  refine ⟨rfl, .maps ?_, .maps ?_, rfl, .lists ?_, ?_⟩
  · simp only [List.forall_mem_cons, List.not_mem_nil, false_implies, implies_true, and_true]
    exact ⟨.inl rfl, .inr ⟨.missing, .null⟩, .inl rfl⟩
  · simp only [List.forall_mem_cons, List.not_mem_nil, false_implies, implies_true, and_true]
    exact .inl rfl
  · exact .cons (.maps rfl rfl) (.cons (.maps rfl rfl) .nil)
  · simp only [List.forall_mem_cons, List.not_mem_nil, false_implies, implies_true, and_true]
    exact ⟨.inl rfl, .inl rfl, .inl rfl, .inl rfl, .inr ⟨.missing, .empty⟩⟩

theorem hasTexts_fullNode : fullNode.descriptor.HasTexts := by
  refine ⟨?_, ?_, rfl, rfl, rfl, rfl, ?_, rfl⟩
  · rintro _ ⟨⟩
    exact ⟨rfl, rfl, rfl⟩
  · simp [NodeDescription.descriptor, fullNode, AddressDescription.spec]
  · rintro _ ⟨⟩
    rfl

theorem entries_read_exactly_of_fullNode :
    (Json.parse (String.ofList fullNode.outline.json) = .ok (.map fullEntries) ∧
      IsWellFormed (.map fullEntries) ∧ Alike fullEntries otherEntries ∧
        fullNode.descriptor.name ≠ "" ∧ fullNode.descriptor.HasTexts) ∧
    (∃ node, ofDocument (.map fullEntries) = .ok node) ∧
      ofDocument (.map fullEntries) = ofDocument (.map otherEntries) ∧
        ofDocument (.map fullNode.descriptor.entries) = .ok fullNode.descriptor := by
  have named : fullNode.descriptor.name ≠ "" := by decide
  obtain ⟨reads, same, back⟩ := entries_read_exactly
  exact ⟨⟨parse_fullNode, isWellFormed_fullEntries, alike_fullEntries, named, hasTexts_fullNode⟩,
    (reads _ _ parse_fullNode).1.2 isWellFormed_fullEntries, same _ _ alike_fullEntries,
    (back _).2 ⟨named, hasTexts_fullNode⟩⟩

end Sample

end NodeDescriptor

end NodeDataplane
