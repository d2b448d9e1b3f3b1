import NodeDataplane.Main
import NodeDataplane.Proofs.Publication
import NodeDataplane.Store
import NodeDataplane.SwitchOptions
import NodeDataplane.Proofs.Changes
import NodeDataplane.Proofs.Watching
import NodeDataplane.Proofs.Convergence
import NodeDataplane.Proofs.Recovery
import NodeDataplane.Proofs.Emission
import NodeDataplane.Proofs.Takeover
import NodeDataplane.Proofs.Ownership
import NodeDataplane.Proofs.Interleaving
import NodeDataplane.Proofs.Retry
import NodeDataplane.Proofs.Pruning
import NodeDataplane.Proofs.Reading
import NodeDataplane.Proofs.FieldIsolation
import NodeDataplane.Proofs.SharedLedger
import NodeDataplane.Proofs.Delivery
import NodeDataplane.Proofs.AddressText
import NodeDataplane.Proofs.CanonicalText
import NodeDataplane.Proofs.NetworkForm
import NodeDataplane.Proofs.AddressFields
import NodeDataplane.Proofs.MeshKeys
import NodeDataplane.Proofs.BlockRecords
import NodeDataplane.Proofs.Yaml.PlainLine
import NodeDataplane.Proofs.Yaml.BlockScan
import NodeDataplane.Proofs.Yaml.NodeReader
import NodeDataplane.Proofs.Outline.Basic
import NodeDataplane.Proofs.Outline.YamlTokens
import NodeDataplane.Proofs.Outline.YamlTree
import NodeDataplane.Proofs.Outline.JsonText
import NodeDataplane.Proofs.Outline.Fields
import NodeDataplane.Proofs.NodeDescription
import NodeDataplane.Proofs.NodeFiles
import NodeDataplane.Proofs.PrimaryAddress
import NodeDataplane.Proofs.FailureList
import NodeDataplane.Proofs.KeptNodes
import NodeDataplane.Proofs.JsonFaults
import NodeDataplane.Proofs.UnreadableFiles
import NodeDataplane.Proofs.RecordOrder
import NodeDataplane.Proofs.Attempt
import NodeDataplane.Proofs.Refusal
import NodeDataplane.Proofs.Switches
import NodeDataplane.Proofs.AddressVersions
import NodeDataplane.Proofs.Settings.Faults
import NodeDataplane.Proofs.Entries.Exactness
import NodeDataplane.Proofs.Ledger.Calls
import NodeDataplane.Proofs.Standing
import NodeDataplane.Proofs.Ledger.History
import NodeDataplane.Proofs.Dispatch.Calls
import NodeDataplane.Proofs.Dispatch.History
import NodeDataplane.Proofs.RejectedOrder
