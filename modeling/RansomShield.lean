import RansomShield.Buffers.Bounds
import RansomShield.Buffers.Handler
import RansomShield.Buffers.ImagePath
import RansomShield.Buffers.Notification
import RansomShield.Buffers.Refinement
import RansomShield.Buffers.Rewritten
import RansomShield.Buffers.Wire
import RansomShield.Client.AlertPipeline
import RansomShield.Client.CommManager
import RansomShield.Client.CommandLine
import RansomShield.Client.ConfigManager
import RansomShield.Client.Daemon
import RansomShield.Client.Defs
import RansomShield.Client.EventLogger
import RansomShield.Client.EventTexts
import RansomShield.Client.HeaderClient
import RansomShield.Client.Listing
import RansomShield.Client.NotificationManager
import RansomShield.Client.PushAllowlist
import RansomShield.Client.PushSystem
import RansomShield.Client.RansomShieldModule
import RansomShield.Client.Registry
import RansomShield.Client.Requests
import RansomShield.Client.Session
import RansomShield.Client.SessionRequests
import RansomShield.Client.SharedSettings
import RansomShield.Client.StoredEntries
import RansomShield.Client.Tray
import RansomShield.Driver.Callbacks
import RansomShield.Driver.CommPort
import RansomShield.Driver.Context
import RansomShield.Driver.Defs
import RansomShield.Guarantees.AlertOrder
import RansomShield.Guarantees.AlertPipeline
import RansomShield.Guarantees.AlertRate
import RansomShield.Guarantees.AllowlistHistory
import RansomShield.Guarantees.AllowlistMatch
import RansomShield.Guarantees.AllowlistPush
import RansomShield.Guarantees.AllowlistReplacement
import RansomShield.Guarantees.BlockedReport
import RansomShield.Guarantees.Capacity
import RansomShield.Guarantees.ClientPorts
import RansomShield.Guarantees.ClientReports
import RansomShield.Guarantees.ClockShift
import RansomShield.Guarantees.CommandLine
import RansomShield.Guarantees.CommandLines
import RansomShield.Guarantees.CorruptRegistry
import RansomShield.Guarantees.Daemon
import RansomShield.Guarantees.DamageBound
import RansomShield.Guarantees.DeclaredMessage
import RansomShield.Guarantees.Detection
import RansomShield.Guarantees.DriverEntry
import RansomShield.Guarantees.Exactness
import RansomShield.Guarantees.ExceptionSet
import RansomShield.Guarantees.FullUpdate
import RansomShield.Guarantees.ImageNames
import RansomShield.Guarantees.InterruptedSave
import RansomShield.Guarantees.Isolation
import RansomShield.Guarantees.ListenerBytes
import RansomShield.Guarantees.Listening
import RansomShield.Guarantees.LockDiscipline
import RansomShield.Guarantees.Meaning
import RansomShield.Guarantees.NeverDenied
import RansomShield.Guarantees.NoFalseBlock
import RansomShield.Guarantees.Notification
import RansomShield.Guarantees.NumericArguments
import RansomShield.Guarantees.PathAgreement
import RansomShield.Guarantees.Pause
import RansomShield.Guarantees.PidReuse
import RansomShield.Guarantees.PortHandles
import RansomShield.Guarantees.Pruning
import RansomShield.Guarantees.RegistryRoundTrip
import RansomShield.Guarantees.SequenceNumbers
import RansomShield.Guarantees.SettingsPush
import RansomShield.Guarantees.SharedSettings
import RansomShield.Guarantees.StaleErrors
import RansomShield.Guarantees.StickyBlock
import RansomShield.Guarantees.StricterSettings
import RansomShield.Guarantees.TrayEvents
import RansomShield.Guarantees.TrayStatus
import RansomShield.Guarantees.Unload
import RansomShield.Guarantees.ValidatedCount
import RansomShield.Heap.Moves
import RansomShield.Heap.Ownership
import RansomShield.Lock.Code
import RansomShield.Lock.Discipline
import RansomShield.Machine.Basic
import RansomShield.Machine.Flags
import RansomShield.Machine.Program
import RansomShield.Machine.Replicas
import RansomShield.Machine.Simulation
import RansomShield.Machine.Since
import RansomShield.Machine.Tickets
import RansomShield.Memory.Fields
import RansomShield.Memory.Stores
import RansomShield.Pool.Basic
import RansomShield.Pool.Invariant
import RansomShield.Pool.Refinement
import RansomShield.Pool.Sections
import RansomShield.Pool.Unload
import RansomShield.Ring.Basic
import RansomShield.Ring.Window
import RansomShield.System.Allowlist
import RansomShield.System.Atomic
import RansomShield.System.Basic
import RansomShield.System.ClientPorts
import RansomShield.System.Dispatch
import RansomShield.System.DriverEntry
import RansomShield.System.Events
import RansomShield.System.Meaning
import RansomShield.System.Process
import RansomShield.System.Steps
import RansomShield.System.View
import RansomShield.Table.Chained
import RansomShield.Table.Pointers
import RansomShield.Table.Related
import RansomShield.Tracker.Allowlist
import RansomShield.Tracker.Lookup
import RansomShield.Tracker.Reports
import RansomShield.Tracker.Ring
import RansomShield.Tracker.Slots
import RansomShield.Tracker.Window
