import Bridgewire.Transducer
import Bridgewire.Reader.StreamLaws
import Bridgewire.Reader.Resync
import Bridgewire.Reader.Chunking
import Bridgewire.Audit
import Bridgewire.Effect
import Bridgewire.Escalation
import Bridgewire.Controller.Model
import Bridgewire.Controller.View
import Bridgewire.History
import Bridgewire.Controller.Safety
import Bridgewire.Controller.Restore
import Bridgewire.Controller.Release
import Bridgewire.Gpio
import Bridgewire.Controller.World
import Bridgewire.Reader.Supervisor
import Bridgewire.Runtime.Model
import Bridgewire.Runtime.Frame
import Bridgewire.Runtime.Door
import Bridgewire.Runtime.Shutdown
import Bridgewire.Runtime.Sessions
import Bridgewire.Configuration
import Bridgewire.Host.Model
import Bridgewire.Host.Exit
import Bridgewire.Host.Honest
import Bridgewire.Reader.Format
import Bridgewire.Escalation.History
import Bridgewire.Reader.Standalone
import Bridgewire.Reader.Protocol
import Bridgewire.Reader.Backoff
import Bridgewire.Controller.Audited
import Bridgewire.Escalation.Cycles
import Bridgewire.Controller.Alarms
import Bridgewire.Controller.Truth
import Bridgewire.Controller.Replay
import Bridgewire.Controller.Noninterference
import Bridgewire.Runtime.Watched
import Bridgewire.Runtime.Faults
import Bridgewire.Api.Lifecycle
import Bridgewire.Api.Stopped
import Bridgewire.Authorization.Decisions
import Bridgewire.Authorization.Reload
import Bridgewire.Authorization.Install
import Bridgewire.Authorization.Atomic
import Bridgewire.Runtime.Status
import Bridgewire.Json.Value
import Bridgewire.Json.Reader
import Bridgewire.Json.RoundTrip
import Bridgewire.Json.Canonical
import Bridgewire.Json.Beginnings
import Bridgewire.Calendar
import Bridgewire.Isoformat
import Bridgewire.Persistence.Event
import Bridgewire.Reader.Discovery
import Bridgewire.Reader.Distance
import Bridgewire.Reader.PosixSerial
import Bridgewire.Api.Verdicts
import Bridgewire.Authorization.Retained
import Bridgewire.Runtime.Expiry
import Bridgewire.Gpio.Simulated
import Bridgewire.Controller.StandIn
import Bridgewire.Configuration.Loading
import Bridgewire.Configuration.Accepted
import Bridgewire.Lines
import Bridgewire.Notifications.Queue
import Bridgewire.Notifications.Delivery
import Bridgewire.Notifications.Torn
import Bridgewire.Isoformat.RoundTrip
import Bridgewire.Isoformat.Order
import Bridgewire.Base64
import Bridgewire.Encodings
import Bridgewire.Queries.Cursor
import Bridgewire.Persistence.Store
import Bridgewire.Authorization.Confidential
import Bridgewire.Json.Texts
import Bridgewire.Persistence.Disclosure
import Bridgewire.Reader.Bounded
import Bridgewire.Encodings.Order
import Bridgewire.Queries.Reader
import Bridgewire.Queries.ReadBack
import Bridgewire.Queries.Chronology
import Bridgewire.Keyset
import Bridgewire.Queries.Service
import Bridgewire.Queries.Pages
import Bridgewire.Queries.ExactlyOnce
import Bridgewire.Queries.Total
import Bridgewire.Observation
import Bridgewire.Runtime.Seen
import Bridgewire.Host.Seen
import Bridgewire.Controller.Open
import Bridgewire.Host.Backed
import Bridgewire.Host.Delivers
import Bridgewire.Controller.Journal
import Bridgewire.Runtime.Provenance
import Bridgewire.Runtime.Parts
import Bridgewire.Runtime.Health
import Bridgewire.Json.Plain
import Bridgewire.Host.HealthFile
import Bridgewire.Runtime.Admission
import Bridgewire.Runtime.Descriptors
import Bridgewire.Runtime.Waiting
import Bridgewire.Queries.Agreement
import Bridgewire.Controller.Refusals
import Bridgewire.Controller.Releases
import Bridgewire.Persistence.Archive
import Bridgewire.Queries.Listing
import Bridgewire.Runtime.Archive
import Bridgewire.Runtime.Pages
