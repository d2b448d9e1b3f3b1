import NodeDataplane.Processor

/-!
# What is read of each field

A node has nine fields that are texts. Each has a kind, maybe a version that its value must have,
and a name under which its failure is told. This is all that tells the fields apart: the reading of
a node, its failures and its tunnel records are stated here once for all of them.

## Main results

- `result_read`: a text field is read on its own, by its kind and version.
- `failures_eq`: the failures are those of the text fields, in their order.
- `nodeRecords_eq`: every tunnel record holds the value of one text field.
-/

namespace NodeDataplane

inductive TextField where
  /-- The address of a version that routing pins. -/
  | pinned (version : IPVersion)
  | ipipTunnel
  | vxlanTunnel4
  | vxlanTunnel6
  | vxlanMac4
  | vxlanMac6
  | meshInterface
  | meshKey
  deriving DecidableEq, Repr

namespace TextField

/-- The text fields in the order in which they are read. -/
def all : List TextField :=
  [pinned .v4, pinned .v6, ipipTunnel, vxlanTunnel4, vxlanTunnel6, vxlanMac4, vxlanMac6,
    meshInterface, meshKey]

def kind : TextField → FieldKind
  | pinned _ => .cidrOrIp
  | ipipTunnel | vxlanTunnel4 | vxlanTunnel6 | meshInterface => .ip
  | vxlanMac4 | vxlanMac6 => .identifier
  | meshKey => .meshPublicKey

def version? : TextField → Option IPVersion
  | pinned version => some version
  | _ => none

def label : TextField → String
  | pinned version => NodeDescriptor.pinnedField version
  | ipipTunnel => "bgp.ipv4_ipip_tunnel_addr"
  | vxlanTunnel4 => "ipv4_vxlan_tunnel_addr"
  | vxlanTunnel6 => "ipv6_vxlan_tunnel_addr"
  | vxlanMac4 => "vxlan_tunnel_mac_v4"
  | vxlanMac6 => "vxlan_tunnel_mac_v6"
  | meshInterface => "mesh.interface_address"
  | meshKey => "mesh_public_key"

/-- The setting of the tunnel that a field is published as, if it is. -/
def setting? : TextField → Option String
  | ipipTunnel => some TunnelSetting.ipip
  | vxlanTunnel4 => some TunnelSetting.vxlanAddress4
  | vxlanTunnel6 => some TunnelSetting.vxlanAddress6
  | vxlanMac4 => some TunnelSetting.vxlanMac4
  | vxlanMac6 => some TunnelSetting.vxlanMac6
  | _ => none

/-- The text fields of the tunnels in the order of their records. -/
def tunnels : List TextField := [ipipTunnel, vxlanTunnel4, vxlanTunnel6, vxlanMac6, vxlanMac4]

end TextField

/-- The text that a node gives for a field. -/
def NodeDescriptor.fieldText (node : NodeDescriptor) : TextField → Option String
  | .pinned version => node.bgp.bind (·.address version)
  | .ipipTunnel => node.bgp.bind (·.ipipTunnelAddress)
  | .vxlanTunnel4 => node.vxlanTunnelAddress4
  | .vxlanTunnel6 => node.vxlanTunnelAddress6
  | .vxlanMac4 => node.vxlanTunnelMac4
  | .vxlanMac6 => node.vxlanTunnelMac6
  | .meshInterface => node.mesh.bind (·.interfaceAddress)
  | .meshKey => node.meshPublicKey

namespace NodeReading

variable (r : NodeReading)

def primary : IPVersion → PrimaryAddress
  | .v4 => r.ipv4
  | .v6 => r.ipv6

def result : (field : TextField) → FieldResult field.kind.Value
  | .pinned version => (r.primary version).pinned
  | .ipipTunnel => r.ipipTunnel
  | .vxlanTunnel4 => r.vxlanTunnel4
  | .vxlanTunnel6 => r.vxlanTunnel6
  | .vxlanMac4 => r.vxlanMac4
  | .vxlanMac6 => r.vxlanMac6
  | .meshInterface => r.meshInterface
  | .meshKey => r.meshKey

def textAt (field : TextField) : Option String :=
  (r.result field).value?.map field.kind.text

def failureAt (field : TextField) : Option FieldFailure :=
  (r.result field).failure? field.label

theorem failures_eq : r.failures = TextField.all.filterMap r.failureAt := rfl

end NodeReading

namespace Field

/-- An empty text is read as none at all. -/
theorem parse_filter (kind : FieldKind) (raw : Option String) (version : Option IPVersion) :
    parse kind (raw.filter (· ≠ "")) version = parse kind raw version := by
  cases raw with
  | none => rfl
  | some raw => by_cases empty : raw = "" <;> simp [parse, Option.filter_some, empty]

end Field

namespace NodeDescriptor

theorem primary_read (node : NodeDescriptor) (version : IPVersion) :
    node.read.value.primary version = (node.primaryAddress version).value := by
  cases version <;> rfl

/-- A text field is read on its own. -/
theorem result_read (node : NodeDescriptor) (field : TextField) :
    node.read.value.result field = Field.parse field.kind (node.fieldText field) field.version? := by
  cases field with
  | pinned version =>
    rw [NodeReading.result, primary_read, pinned_primaryAddress, value_readPinned]
    cases h : node.bgp <;> simp [fieldText, h, TextField.kind, TextField.version?]
  | _ => rfl

theorem address_read (node : NodeDescriptor) (version : IPVersion) :
    (node.read.value.primary version).address =
      ((node.read.value.primary version).pinned.value? <|>
        node.candidates.findSome? fun candidate =>
          addressOfVersion? version (Field.parse .cidrOrIp candidate.2 none)) := by
  rw [primary_read, address_primaryAddress, value_firstOfVersion, pinned_primaryAddress]

end NodeDescriptor

namespace Processor

theorem nodeRecords_eq (config : ProcessorConfig) (e : NodeEvent) (r : NodeReading) :
    nodeRecords config e r =
      (if config.emitIPv6 then [IPVersion.v4, .v6] else [.v4]).map (fun version =>
          ⟨.primaryAddress e.name version, (r.primary version).address.map .address, e.revision⟩) ++
        TextField.tunnels.filterMap (fun field => field.setting?.map fun setting =>
          ⟨.tunnel e.name setting, (r.textAt field).map .text, e.revision⟩) ++
        [⟨.resource e.name nodeKind, e.node.map .node, e.revision⟩,
          ⟨.mesh e.name, r.meshConfig?.map .mesh, e.revision⟩] := by
  -- An identifier is its own text.
  have mac4 : r.textAt .vxlanMac4 = r.vxlanMac4.value? := Option.map_id_apply
  have mac6 : r.textAt .vxlanMac6 = r.vxlanMac6.value? := Option.map_id_apply
  cases h : config.emitIPv6 <;>
    simp only [nodeRecords, TextField.tunnels, TextField.setting?, List.filterMap_cons,
      List.filterMap_nil, Option.map_some, mac4, mac6, h] <;> rfl

end Processor

end NodeDataplane
