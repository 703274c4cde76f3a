import SignalRelay.Message.Hello
import SignalRelay.Message.Notice
import SignalRelay.Message.Report
import SignalRelay.Message.Envelope
import SignalRelay.Status.Json
import SignalRelay.Config
import SignalRelay.Registry.Snapshot
import SignalRelay.Relay.Basic
import SignalRelay.Keepalive
import SignalRelay.Console.Basic
import SignalRelay.Server.Basic
import SignalRelay.Program.Basic
import SignalRelay.Main
import SignalRelay.Proofs.Text.Tokens
import SignalRelay.Proofs.Json.Grammar
import SignalRelay.Proofs.Json.Reading
import SignalRelay.Proofs.Json.Writing
import SignalRelay.Proofs.Json.Accepting
import SignalRelay.Proofs.Json.Denotation
import SignalRelay.Proofs.Json.Magnitude
import SignalRelay.Proofs.Json.Overflow
import SignalRelay.Proofs.Message.Addressing
import SignalRelay.Proofs.Message.Report
import SignalRelay.Proofs.Message.ReportForm
import SignalRelay.Proofs.Message.Announcement
import SignalRelay.Proofs.Message.Target
import SignalRelay.Proofs.Status.RoundTrip
import SignalRelay.Proofs.Registry.Range
import SignalRelay.Proofs.Registry.Allocation
import SignalRelay.Proofs.Session.Dispatch
import SignalRelay.Proofs.Session.Admission
import SignalRelay.Proofs.Session.Ownership
import SignalRelay.Proofs.Session.Succession
import SignalRelay.Proofs.Relay.Correspondence
import SignalRelay.Proofs.Relay.Roster
import SignalRelay.Proofs.Relay.ClientDelivery
import SignalRelay.Proofs.Relay.MediaDelivery
import SignalRelay.Proofs.Relay.Attendance
import SignalRelay.Proofs.Relay.Reports
import SignalRelay.Proofs.Relay.OutboxProtocol
import SignalRelay.Proofs.Relay.Inertness
import SignalRelay.Proofs.Relay.Commuting
import SignalRelay.Proofs.Relay.Visit
import SignalRelay.Proofs.Timeline.Alone
import SignalRelay.Proofs.Timeline.NoTrace
import SignalRelay.Proofs.Timeline.Passing
import SignalRelay.Proofs.Timeline.Silence
import SignalRelay.Proofs.Timeline.Routing
import SignalRelay.Proofs.Timeline.Pinging
import SignalRelay.Proofs.Server.Receiving
import SignalRelay.Proofs.Server.Visits
import SignalRelay.Proofs.Server.Recoding
import SignalRelay.Proofs.Keepalive
import SignalRelay.Proofs.Registry.Snapshot
import SignalRelay.Proofs.Config.ListenAddress
import SignalRelay.Proofs.Status.Decoding
import SignalRelay.Proofs.Config.Variables
