import NodeDataplane.Document.Basic
import NodeDataplane.Node

/-!
# Nodes in documents

A node is told by a map. `NodeDescriptor.ofDocument` checks the shape of the map and nothing else:
what the fields say is taken over as text, whatever kind of value it is written as, if it has a
text. The first thing that is wrong with the shape is reported, in a fixed order: the map itself,
its name, the sections for routing and mesh, the blocks, the addresses.
-/

namespace NodeDataplane

inductive EntryFault where
  | notMap
  | noName
  | sectionNotMap (key : String)
  | notList (key : String)
  /-- An address entry that does not tell its address. -/
  | noAddress
  /-- An address of a class that does not exist. -/
  | unknownAddressKind (shown : String)
  | unwritable
  deriving DecidableEq, Repr

def EntryFault.message : EntryFault → String
  | notMap => "node entry must be a mapping"
  | noName => "node entry missing 'name'"
  | sectionNotMap key => "'" ++ key ++ "' must be a mapping"
  | notList key => "'" ++ key ++ "' must be a list"
  | noAddress => "node address entries need an 'address' key"
  | unknownAddressKind shown => shown ++ " is not a valid AddressType"
  | unwritable => Document.unwritableMessage

/-- Whatever is wrong with an entry, it is a value that is not allowed. -/
def EntryFault.failureClass : EntryFault → FailureClass := fun _ => .invalidValue

namespace NodeDescriptor

abbrev Entries := List (Document × Document)

def textOf (value : Document) : Except EntryFault String :=
  if value.isWritable then .ok value.text else .error .unwritable

/-- The text under a key; empty if there is nothing. -/
def textAt (entries : Entries) (key : String) : Except EntryFault String :=
  match Document.lookup? key entries with
  | none => .ok ""
  | some .null => .ok ""
  | some value => textOf value

def sectionAt (entries : Entries) (key : String) : Except EntryFault (Option Entries) :=
  match Document.lookup? key entries with
  | none => .ok none
  | some .null => .ok none
  | some value =>
    match value.entries? with
    | some inner => .ok (some inner)
    | none => .error (.sectionNotMap key)

/-- The list under a key; empty if the key is not there. -/
def listAt (entries : Entries) (key : String) : Except EntryFault (List Document) :=
  match Document.lookup? key entries with
  | none => .ok []
  | some value =>
    match value.items? with
    | some items => .ok items
    | none => .error (.notList key)

def addressKind (entries : Entries) : Except EntryFault AddressKind :=
  match Document.lookup? "type" entries with
  | none => .ok .internal
  | some value =>
    match value.string?.bind AddressKind.ofName? with
    | some kind => .ok kind
    | none => .error (if value.isWritable then .unknownAddressKind value.shown else .unwritable)

def addressOf (d : Document) : Except EntryFault NodeAddress :=
  match d.entries? with
  | some entries =>
    match Document.lookup? "address" entries with
    | none => .error .noAddress
    | some value => do return ⟨some (← textOf value), ← addressKind entries⟩
  | none => .error .noAddress

/-- The name of a node, which must not be empty. -/
def nameAt (entries : Entries) : Except EntryFault String :=
  match Document.lookup? "name" entries with
  | none => .error .noName
  | some value => if value.truthy then textOf value else .error .noName

def bgpOf (entries : Entries) : Except EntryFault BgpSpec := do
  return {
    ipv4Address := some (← textAt entries "ipv4_address")
    ipv6Address := some (← textAt entries "ipv6_address")
    ipipTunnelAddress := some (← textAt entries "ipv4_ipip_tunnel_addr") }

def meshOf (entries : Entries) : Except EntryFault MeshSpec := do
  return ⟨some (← textAt entries "interface_address")⟩

def ofEntries (entries : Entries) : Except EntryFault NodeDescriptor := do
  -- Of several faults, the one that is met first is reported.
  let name ← nameAt entries
  let bgp ← (← sectionAt entries "bgp").mapM bgpOf
  let mesh ← (← sectionAt entries "mesh").mapM meshOf
  let podBlocks ← listAt entries "pod_cidrs"
  let addresses ← (← listAt entries "addresses").mapM addressOf
  return {
    name
    bgp
    addresses
    vxlanTunnelAddress4 := some (← textAt entries "ipv4_vxlan_tunnel_addr")
    vxlanTunnelAddress6 := some (← textAt entries "ipv6_vxlan_tunnel_addr")
    vxlanTunnelMac4 := some (← textAt entries "vxlan_tunnel_mac_v4")
    vxlanTunnelMac6 := some (← textAt entries "vxlan_tunnel_mac_v6")
    mesh
    meshPublicKey := some (← textAt entries "mesh_public_key")
    podBlocks := ← podBlocks.mapM textOf }

def ofDocument (d : Document) : Except EntryFault NodeDescriptor :=
  match d.entries? with
  | some entries => ofEntries entries
  | none => .error .notMap

theorem ofDocument_map (entries : Entries) : ofDocument (.map entries) = ofEntries entries := rfl

end NodeDescriptor

end NodeDataplane
