import BreadProvider.Adapter.AtMostOnce
import BreadProvider.Interaction.Trace
import BreadProvider.Session.Spec
import BreadProvider.Contracts.Reference
import BreadProvider.Inventory.Encoders
import BreadProvider.Inventory.Ids
import BreadProvider.Adapter.Published
import BreadProvider.Adapter.Setpoints
import BreadProvider.Runtime
import BreadProvider.Runtime.Runs
import BreadProvider.Startup.Accounting
import BreadProvider.Provider.Commands
import BreadProvider.Inventory.Published
import BreadProvider.Runtime.Contract
import BreadProvider.Runtime.Encoders
import BreadProvider.Runtime.Permitted
import BreadProvider.Session.Statistics
import BreadProvider.Session.Retry
import BreadProvider.Keepalive.Schedule
import BreadProvider.Inventory.Locality
import BreadProvider.Adapter.Reads
import BreadProvider.Adapter.Encoding
import BreadProvider.Runtime.Lifecycle
import BreadProvider.Runtime.Interleaved
import BreadProvider.CannedBus.SafeOutputs
import BreadProvider.Interaction.Threads
import BreadProvider.Adapter.Rejections
import BreadProvider.Runtime.HandOver
import BreadProvider.Runtime.Health
import BreadProvider.Provider.Sessions
import BreadProvider.Adapter.Readings
import BreadProvider.Transport.Framing
import BreadProvider.CannedBus.MockRuns
import BreadProvider.CannedBus.Faults
import BreadProvider.Session.Isolation
import BreadProvider.Runtime.Applied
import BreadProvider.Main
import BreadProvider.Session.Shared
import BreadProvider.Runtime.Views
import BreadProvider.Runtime.Footprint
import BreadProvider.CannedBus.Refines
