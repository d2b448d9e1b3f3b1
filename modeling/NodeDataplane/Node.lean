import NodeDataplane.Net.Network
import NodeDataplane.Text.Quoted

/-!
# Nodes

A node as its descriptor tells it: addresses, tunnels, the encrypted mesh and the address blocks it
holds, all as plain texts that nobody has checked yet. A text may be missing altogether, which is
kept apart from an empty text but means the same.
-/

namespace NodeDataplane

open NodeDataplane.Text (quoted)

inductive AddressKind where
  | internal
  | external
  deriving DecidableEq, Repr

namespace AddressKind

def name : AddressKind → String
  | internal => "InternalIP"
  | external => "ExternalIP"

def ofName? (s : String) : Option AddressKind :=
  if s = internal.name then some internal
  else if s = external.name then some external
  else none

theorem ofName?_name (kind : AddressKind) : ofName? kind.name = some kind := by
  cases kind <;> decide

theorem ofName?_eq_some_iff {s : String} {kind : AddressKind} :
    ofName? s = some kind ↔ s = kind.name := by
  constructor
  · intro h
    unfold ofName? at h
    split at h
    · simp_all
    · split at h <;> simp_all
  · rintro rfl
    exact ofName?_name kind

end AddressKind

structure NodeAddress where
  address : Option String
  kind : AddressKind
  deriving DecidableEq, Repr

structure BgpSpec where
  ipv4Address : Option String := some ""
  ipv6Address : Option String := some ""
  ipipTunnelAddress : Option String := some ""
  deriving DecidableEq, Repr

def BgpSpec.address (bgp : BgpSpec) : IPVersion → Option String
  | .v4 => bgp.ipv4Address
  | .v6 => bgp.ipv6Address

structure MeshSpec where
  interfaceAddress : Option String := some ""
  deriving DecidableEq, Repr

structure NodeDescriptor where
  name : String
  bgp : Option BgpSpec := none
  addresses : List NodeAddress := []
  vxlanTunnelAddress4 : Option String := some ""
  vxlanTunnelAddress6 : Option String := some ""
  vxlanTunnelMac4 : Option String := some ""
  vxlanTunnelMac6 : Option String := some ""
  mesh : Option MeshSpec := none
  meshPublicKey : Option String := some ""
  podBlocks : List String := []
  deriving DecidableEq, Repr

/-! ### How a node is shown -/

def shownText : Option String → String
  | none => "None"
  | some s => quoted s

/-- A fixed sequence; a single member is followed by a comma. -/
def shownTuple : List String → String
  | [] => "()"
  | [item] => "(" ++ item ++ ",)"
  | items => "(" ++ ", ".intercalate items ++ ")"

def shownFields (name : String) (fields : List (String × String)) : String :=
  name ++ "(" ++ ", ".intercalate (fields.map fun (field, value) => field ++ "=" ++ value) ++ ")"

def AddressKind.shown : AddressKind → String
  | internal => "<AddressType.INTERNAL: 'InternalIP'>"
  | external => "<AddressType.EXTERNAL: 'ExternalIP'>"

def NodeAddress.shown (a : NodeAddress) : String :=
  shownFields "NodeAddress" [("address", shownText a.address), ("type", a.kind.shown)]

def BgpSpec.shown (bgp : BgpSpec) : String :=
  shownFields "BGPSpec" [("ipv4_address", shownText bgp.ipv4Address),
    ("ipv6_address", shownText bgp.ipv6Address),
    ("ipv4_ipip_tunnel_addr", shownText bgp.ipipTunnelAddress)]

def MeshSpec.shown (mesh : MeshSpec) : String :=
  shownFields "MeshSpec" [("interface_address", shownText mesh.interfaceAddress)]

def NodeDescriptor.shown (node : NodeDescriptor) : String :=
  shownFields "NodeDescriptor" [("name", quoted node.name),
    ("bgp", node.bgp.elim "None" BgpSpec.shown),
    ("addresses", shownTuple (node.addresses.map NodeAddress.shown)),
    ("ipv4_vxlan_tunnel_addr", shownText node.vxlanTunnelAddress4),
    ("ipv6_vxlan_tunnel_addr", shownText node.vxlanTunnelAddress6),
    ("vxlan_tunnel_mac_v4", shownText node.vxlanTunnelMac4),
    ("vxlan_tunnel_mac_v6", shownText node.vxlanTunnelMac6),
    ("mesh", node.mesh.elim "None" MeshSpec.shown),
    ("mesh_public_key", shownText node.meshPublicKey),
    ("pod_cidrs", shownTuple (node.podBlocks.map quoted))]

end NodeDataplane
