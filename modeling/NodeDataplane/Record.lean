import NodeDataplane.Node

/-!
# Records

The dataplane is configured by keyed records: a record with a value sets its key, a record without
one deletes it. The change of a node is itself told by a record, keyed by the node and carrying its
descriptor.
-/

namespace NodeDataplane

open NodeDataplane.Text (quoted)

inductive Key where
  /-- A resource of some kind, such as a node. -/
  | resource (name kind : String)
  | primaryAddress (hostname : String) (version : IPVersion)
  | tunnel (hostname setting : String)
  | mesh (node : String)
  | block (cidr : IPNetwork)
  /-- A bare text, which is about nothing in particular. -/
  | text (text : String)
  deriving DecidableEq, Repr

/-- The mesh settings of a node, at least one of which is there. -/
structure MeshConfig where
  interfaceAddress : Option IPAddress
  publicKey : Option String
  deriving DecidableEq, Repr

structure AddressBlock where
  cidr : IPNetwork
  affinity : String
  deriving DecidableEq, Repr

def Key.name : Key → String
  | resource name _ => name
  | primaryAddress hostname _ => hostname
  | tunnel hostname _ => hostname
  | mesh node => node
  | block cidr => cidr.text
  | text s => s

inductive Value where
  | address (address : IPAddress)
  | text (text : String)
  | mesh (config : MeshConfig)
  | block (block : AddressBlock)
  | node (node : NodeDescriptor)
  /-- A value of some other type, of which only the type's name and the shown form are known. -/
  | other (typeName shown : String)
  deriving DecidableEq, Repr

/-- A key with a value, or without one to delete it, and the revision of the change. -/
structure Record where
  key : Key
  value : Option Value
  revision : String
  deriving DecidableEq, Repr

def Record.isDelete (r : Record) : Bool := r.value.isNone

def nodeKind : String := "Node"

def hostAffinity (hostname : String) : String := "host:" ++ hostname

/-! ### The settings of a host's tunnels -/

namespace TunnelSetting

def ipip : String := "IpInIpTunnelAddr"

def vxlanAddress4 : String := "IPv4VXLANTunnelAddr"

def vxlanAddress6 : String := "IPv6VXLANTunnelAddr"

def vxlanMac4 : String := "VXLANTunnelMACV4Addr"

def vxlanMac6 : String := "VXLANTunnelMACV6Addr"

end TunnelSetting

/-! ### How records are shown -/

def IPAddress.shown (a : IPAddress) : String :=
  "IPv" ++ toString a.version.number ++ "Address(" ++ quoted a.text ++ ")"

def IPNetwork.shown (n : IPNetwork) : String :=
  "IPv" ++ toString n.version.number ++ "Network(" ++ quoted n.text ++ ")"

def Key.shown : Key → String
  | resource name kind => shownFields "ResourceKey" [("name", quoted name), ("kind", quoted kind)]
  | primaryAddress hostname version =>
    shownFields "PrimaryAddressKey"
      [("hostname", quoted hostname), ("ip_version", toString version.number)]
  | tunnel hostname setting =>
    shownFields "TunnelConfigKey" [("hostname", quoted hostname), ("name", quoted setting)]
  | mesh node => shownFields "MeshConfigKey" [("node_name", quoted node)]
  | block cidr => shownFields "AddressBlockKey" [("cidr", cidr.shown)]
  | text s => quoted s

def Key.className : Key → String
  | resource _ _ => "node_translator.model.ResourceKey"
  | primaryAddress _ _ => "node_translator.model.PrimaryAddressKey"
  | tunnel _ _ => "node_translator.model.TunnelConfigKey"
  | mesh _ => "node_translator.model.MeshConfigKey"
  | block _ => "node_translator.model.AddressBlockKey"
  | text _ => "str"

def Value.typeName : Value → String
  | address (.v4 _) => "IPv4Address"
  | address (.v6 _) => "IPv6Address"
  | text _ => "str"
  | mesh _ => "MeshConfig"
  | block _ => "AddressBlock"
  | node _ => "NodeDescriptor"
  | other typeName _ => typeName

/-- The text of a key: a bare text is its own. -/
def Key.plain : Key → String
  | text s => s
  | key => key.shown

def Value.plain : Value → String
  | address a => a.text
  | text s => s
  | mesh config =>
    shownFields "MeshConfig"
      [("interface_address", config.interfaceAddress.elim "None" IPAddress.shown),
        ("public_key", shownText config.publicKey)]
  | block b =>
    shownFields "AddressBlock" [("cidr", b.cidr.shown), ("affinity", quoted b.affinity)]
  | node n => n.shown
  | other _ shown => shown

end NodeDataplane
