import NodeDataplane.BlockLedger
import NodeDataplane.Field
import NodeDataplane.Record

/-!
# What a node says

`NodeDescriptor.read` reads every field of a node on its own. A reading holds what became of each
field, so the failures of a node are read off it in the order of the fields, and the values of the
valid fields stand beside them.

The primary address of a version is the one that routing pins, if it is valid. Otherwise it is the
first address of that version among the internal addresses, then among the external ones; what is
wrong with those is never a failure of the node.
-/

namespace NodeDataplane

structure FieldFailure where
  field : String
  reason : String
  deriving DecidableEq, Repr

def FieldFailure.text (f : FieldFailure) : String := f.field ++ ": " ++ f.reason

def FieldResult.failure? {α : Type} (field : String) (result : FieldResult α) :
    Option FieldFailure :=
  result.error?.map fun error => ⟨field, error.message⟩

structure PrimaryAddress where
  pinned : FieldResult IPAddress
  address : Option IPAddress
  deriving DecidableEq, Repr

structure NodeReading where
  ipv4 : PrimaryAddress
  ipv6 : PrimaryAddress
  ipipTunnel : FieldResult IPAddress
  vxlanTunnel4 : FieldResult IPAddress
  vxlanTunnel6 : FieldResult IPAddress
  vxlanMac4 : FieldResult String
  vxlanMac6 : FieldResult String
  meshInterface : FieldResult IPAddress
  meshKey : FieldResult String
  deriving DecidableEq, Repr

namespace NodeDescriptor

/-- The name of the field in which routing pins the address of a version. -/
def pinnedField (version : IPVersion) : String :=
  "bgp.ipv" ++ toString version.number ++ "_address"

/-- The addresses of a class, each under the name of its field. -/
def addressesOf (node : NodeDescriptor) (kind : AddressKind) : List (String × Option String) :=
  (node.addresses.filter (·.kind = kind)).map fun a =>
    ("addresses[" ++ kind.name ++ "]", a.address)

/-- The addresses that stand in for one that is not pinned: internal ones first. -/
def candidates (node : NodeDescriptor) : List (String × Option String) :=
  node.addressesOf .internal ++ node.addressesOf .external

def addressOfVersion? (version : IPVersion) (result : FieldResult IPAddress) : Option IPAddress :=
  match result with
  | .parsed address => if address.version = version then some address else none
  | _ => none

def noteAddress (node : NodeDescriptor) (version : IPVersion) (field : String)
    (address : IPAddress) : Logged Unit :=
  .note .debug .processor ("Node " ++ node.name ++ " IPv" ++ toString version.number ++
    " address " ++ address.text ++ " from " ++ field)

def firstOfVersion (node : NodeDescriptor) (version : IPVersion) :
    List (String × Option String) → Logged (Option IPAddress)
  | [] => pure none
  | (field, raw) :: rest => do
    let result ← Field.parseLogged .cidrOrIp field raw none
    -- An address of the other version is passed over like one that is invalid.
    match addressOfVersion? version result with
    | some address =>
      node.noteAddress version field address
      return some address
    | none => node.firstOfVersion version rest

def readPinned (node : NodeDescriptor) (version : IPVersion) : Logged (FieldResult IPAddress) :=
  match node.bgp with
  | none => pure .absent
  | some bgp =>
    Field.parseLogged .cidrOrIp (pinnedField version) (bgp.address version) (some version)

def primaryAddress (node : NodeDescriptor) (version : IPVersion) : Logged PrimaryAddress := do
  let pinned ← node.readPinned version
  match pinned.value? with
  | some address =>
    node.noteAddress version (pinnedField version) address
    return ⟨pinned, some address⟩
  -- Also a pinned address that is invalid lets the candidates stand in.
  | none => return ⟨pinned, ← node.firstOfVersion version node.candidates⟩

def read (node : NodeDescriptor) : Logged NodeReading := do
  let ipv4 ← node.primaryAddress .v4
  let ipv6 ← node.primaryAddress .v6
  let ipipTunnel ← Field.parseLogged .ip "bgp.ipv4_ipip_tunnel_addr"
    (node.bgp.bind (·.ipipTunnelAddress)) none
  let vxlanTunnel4 ← Field.parseLogged .ip "ipv4_vxlan_tunnel_addr" node.vxlanTunnelAddress4 none
  let vxlanTunnel6 ← Field.parseLogged .ip "ipv6_vxlan_tunnel_addr" node.vxlanTunnelAddress6 none
  let vxlanMac4 ← Field.parseLogged .identifier "vxlan_tunnel_mac_v4" node.vxlanTunnelMac4 none
  let vxlanMac6 ← Field.parseLogged .identifier "vxlan_tunnel_mac_v6" node.vxlanTunnelMac6 none
  let meshInterface ← Field.parseLogged .ip "mesh.interface_address"
    (node.mesh.bind (·.interfaceAddress)) none
  let meshKey ← Field.parseLogged .meshPublicKey "mesh_public_key" node.meshPublicKey none
  return { ipv4, ipv6, ipipTunnel, vxlanTunnel4, vxlanTunnel6, vxlanMac4, vxlanMac6, meshInterface,
           meshKey }

/-! ### What is read, whatever is noted -/

theorem value_firstOfVersion (node : NodeDescriptor) (version : IPVersion)
    (candidates : List (String × Option String)) :
    (node.firstOfVersion version candidates).value =
      candidates.findSome? fun candidate =>
        addressOfVersion? version (Field.parse .cidrOrIp candidate.2 none) := by
  induction candidates with
  | nil => rfl
  | cons candidate rest ih =>
    obtain ⟨field, raw⟩ := candidate
    rw [firstOfVersion, List.findSome?_cons, Logged.value_bind, Field.value_parseLogged]
    dsimp only
    split
    next address found => rw [found]; rfl
    next missing => rw [missing]; exact ih

theorem value_readPinned (node : NodeDescriptor) (version : IPVersion) :
    (node.readPinned version).value =
      node.bgp.elim .absent fun bgp =>
        Field.parse .cidrOrIp (bgp.address version) (some version) := by
  unfold readPinned
  cases node.bgp <;> rfl

/-- The address that routing pins goes before all candidates. -/
theorem address_primaryAddress (node : NodeDescriptor) (version : IPVersion) :
    (node.primaryAddress version).value.address =
      ((node.readPinned version).value.value? <|>
        (node.firstOfVersion version node.candidates).value) := by
  unfold primaryAddress
  rw [Logged.value_bind]
  cases (node.readPinned version).value.value? <;> rfl

theorem pinned_primaryAddress (node : NodeDescriptor) (version : IPVersion) :
    (node.primaryAddress version).value.pinned = (node.readPinned version).value := by
  unfold primaryAddress
  rw [Logged.value_bind]
  cases (node.readPinned version).value.value? <;> rfl

end NodeDescriptor

namespace NodeReading

/-- The reading of a node that is gone: every field is absent. -/
def absent : NodeReading where
  ipv4 := ⟨.absent, none⟩
  ipv6 := ⟨.absent, none⟩
  ipipTunnel := .absent
  vxlanTunnel4 := .absent
  vxlanTunnel6 := .absent
  vxlanMac4 := .absent
  vxlanMac6 := .absent
  meshInterface := .absent
  meshKey := .absent

/-- The invalid fields, in the order in which they are read. -/
def failures (r : NodeReading) : List FieldFailure :=
  [ r.ipv4.pinned.failure? (NodeDescriptor.pinnedField .v4),
    r.ipv6.pinned.failure? (NodeDescriptor.pinnedField .v6),
    r.ipipTunnel.failure? "bgp.ipv4_ipip_tunnel_addr",
    r.vxlanTunnel4.failure? "ipv4_vxlan_tunnel_addr",
    r.vxlanTunnel6.failure? "ipv6_vxlan_tunnel_addr",
    r.vxlanMac4.failure? "vxlan_tunnel_mac_v4",
    r.vxlanMac6.failure? "vxlan_tunnel_mac_v6",
    r.meshInterface.failure? "mesh.interface_address",
    r.meshKey.failure? "mesh_public_key" ].filterMap id

def meshConfig? (r : NodeReading) : Option MeshConfig :=
  match r.meshInterface.value?, r.meshKey.value? with
  -- One of the two is enough for a node to take part in the mesh.
  | none, none => none
  | address, key => some ⟨address, key⟩

end NodeReading

end NodeDataplane
