import ChassisRegistry.CardDriver
import ChassisRegistry.CardNotice
import ChassisRegistry.ChassisError
import ChassisRegistry.CommandLine
import ChassisRegistry.Config
import ChassisRegistry.Config.File
import ChassisRegistry.Config.Settings
import ChassisRegistry.Coordinate
import ChassisRegistry.Daemon
import ChassisRegistry.DataError
import ChassisRegistry.Decimal.Binary64
import ChassisRegistry.Decimal.Digits
import ChassisRegistry.Decimal.Shortest
import ChassisRegistry.Digest
import ChassisRegistry.Endpoint
import ChassisRegistry.FileError
import ChassisRegistry.FileSystem
import ChassisRegistry.FileSystem.Tree
import ChassisRegistry.Flusher
import ChassisRegistry.Identifier
import ChassisRegistry.InputError
import ChassisRegistry.Inventory
import ChassisRegistry.Json.Number
import ChassisRegistry.Json.Patch
import ChassisRegistry.Json.Reader
import ChassisRegistry.Json.Shape
import ChassisRegistry.Json.Value
import ChassisRegistry.Json.Writer
import ChassisRegistry.Logical.Binder
import ChassisRegistry.Logical.Chassis
import ChassisRegistry.Logical.Check
import ChassisRegistry.Logical.Edit
import ChassisRegistry.Main
import ChassisRegistry.Path
import ChassisRegistry.Physical.Chassis
import ChassisRegistry.Physical.Check
import ChassisRegistry.Physical.Edit
import ChassisRegistry.Positional
import ChassisRegistry.Proofs.Abandonment
import ChassisRegistry.Proofs.Activations
import ChassisRegistry.Proofs.ActiveTerminals
import ChassisRegistry.Proofs.AddressRoundTrip
import ChassisRegistry.Proofs.AllOrNothing
import ChassisRegistry.Proofs.Annals
import ChassisRegistry.Proofs.BackReferences
import ChassisRegistry.Proofs.Binder
import ChassisRegistry.Proofs.Bindings
import ChassisRegistry.Proofs.Callers
import ChassisRegistry.Proofs.Chronicle
import ChassisRegistry.Proofs.Closing
import ChassisRegistry.Proofs.Coherence
import ChassisRegistry.Proofs.Commitments
import ChassisRegistry.Proofs.CompleteNotices
import ChassisRegistry.Proofs.CompleteServices
import ChassisRegistry.Proofs.Coordinates
import ChassisRegistry.Proofs.CrashSafety
import ChassisRegistry.Proofs.Custody
import ChassisRegistry.Proofs.DeadlockFreedom
import ChassisRegistry.Proofs.Digits
import ChassisRegistry.Proofs.Discretion
import ChassisRegistry.Proofs.Durability
import ChassisRegistry.Proofs.Errands
import ChassisRegistry.Proofs.FileNames
import ChassisRegistry.Proofs.FilePaths
import ChassisRegistry.Proofs.FileTree
import ChassisRegistry.Proofs.FlushLoop
import ChassisRegistry.Proofs.FlushPass
import ChassisRegistry.Proofs.ForeignFiles
import ChassisRegistry.Proofs.Foreseen
import ChassisRegistry.Proofs.Founding
import ChassisRegistry.Proofs.HandingOut
import ChassisRegistry.Proofs.Identifiers
import ChassisRegistry.Proofs.Installations
import ChassisRegistry.Proofs.Interleaving
import ChassisRegistry.Proofs.InternalFaults
import ChassisRegistry.Proofs.Inventories
import ChassisRegistry.Proofs.Joining
import ChassisRegistry.Proofs.JsonRoundTrip
import ChassisRegistry.Proofs.Layout
import ChassisRegistry.Proofs.Leniency
import ChassisRegistry.Proofs.Lineage
import ChassisRegistry.Proofs.LockFloor
import ChassisRegistry.Proofs.Locking
import ChassisRegistry.Proofs.Mirror
import ChassisRegistry.Proofs.Notices
import ChassisRegistry.Proofs.Offers
import ChassisRegistry.Proofs.OlderLayout
import ChassisRegistry.Proofs.OneByOne
import ChassisRegistry.Proofs.PackedCoordinates
import ChassisRegistry.Proofs.Passwords
import ChassisRegistry.Proofs.PhysicalTree
import ChassisRegistry.Proofs.Placement
import ChassisRegistry.Proofs.PlannedTags
import ChassisRegistry.Proofs.Progress
import ChassisRegistry.Proofs.Reactivation
import ChassisRegistry.Proofs.Reflow
import ChassisRegistry.Proofs.Reliability
import ChassisRegistry.Proofs.Restoration
import ChassisRegistry.Proofs.Routes
import ChassisRegistry.Proofs.Secrecy
import ChassisRegistry.Proofs.Serializability
import ChassisRegistry.Proofs.Simulation
import ChassisRegistry.Proofs.SiteFiles
import ChassisRegistry.Proofs.SiteMap
import ChassisRegistry.Proofs.SnapshotRoundTrip
import ChassisRegistry.Proofs.Solitude
import ChassisRegistry.Proofs.StaleTransitions
import ChassisRegistry.Proofs.StoredForms
import ChassisRegistry.Proofs.TerminalAddresses
import ChassisRegistry.Proofs.TerminalMachine
import ChassisRegistry.Proofs.Traffic
import ChassisRegistry.Proofs.Triggers
import ChassisRegistry.Proofs.Visits
import ChassisRegistry.Provisioner.Rehearsal
import ChassisRegistry.Registry.Overlap
import ChassisRegistry.Report.Chassis
import ChassisRegistry.Report.Daemon
import ChassisRegistry.Report.Inventory
import ChassisRegistry.Report.Registry
import ChassisRegistry.Request.Arguments
import ChassisRegistry.Request.Registry
import ChassisRegistry.Text.Lossy
