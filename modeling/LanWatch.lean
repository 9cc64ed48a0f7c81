import LanWatch.Address
import LanWatch.Address.Ipv6
import LanWatch.Bytes
import LanWatch.Capture.Device
import LanWatch.Capture.Filter
import LanWatch.Capture.Loop
import LanWatch.Capture.Running
import LanWatch.Capture.Source
import LanWatch.CommandLine.Option
import LanWatch.CommandLine.Parse
import LanWatch.Frame.Arp
import LanWatch.Frame.ChannelAccess
import LanWatch.Frame.Cursor
import LanWatch.Frame.Dhcp
import LanWatch.Frame.Ethernet
import LanWatch.Frame.Guarded
import LanWatch.Frame.Guarded.Decoders
import LanWatch.Frame.Ipv4Packet
import LanWatch.Frame.NetBios
import LanWatch.Frame.Packet
import LanWatch.Frame.Scan
import LanWatch.Log
import LanWatch.Log.Directive
import LanWatch.Log.Filter
import LanWatch.Log.Pattern
import LanWatch.Log.Pattern.Bracketed
import LanWatch.Log.Pattern.Escape
import LanWatch.Log.Pattern.Nesting
import LanWatch.Main
import LanWatch.Pending.Monitor
import LanWatch.Pending.Queue
import LanWatch.Pending.Ring
import LanWatch.Proofs.Capture.Keeping
import LanWatch.Proofs.Capture.Running
import LanWatch.Proofs.Capture.Storing
import LanWatch.Proofs.Frame.Sightings
import LanWatch.Proofs.Frame.Telling
import LanWatch.Proofs.Guarded.Frames
import LanWatch.Proofs.Guarded.Payloads
import LanWatch.Proofs.Guarded.Reads
import LanWatch.Proofs.Handover.Alone
import LanWatch.Proofs.Handover.Balance
import LanWatch.Proofs.Handover.Delivery
import LanWatch.Proofs.Handover.Loss
import LanWatch.Proofs.Handover.Steps
import LanWatch.Proofs.Monitor.Signals
import LanWatch.Proofs.Monitor.Steps
import LanWatch.Proofs.Monitor.Waking
import LanWatch.Proofs.Pending.Layout
import LanWatch.Proofs.Pending.Refinement
import LanWatch.Proofs.Report.Draining
import LanWatch.Proofs.Report.Writing
import LanWatch.Proofs.Session.Accounting
import LanWatch.Proofs.Session.InSequence
import LanWatch.Proofs.Session.Outcome
import LanWatch.Proofs.Settings.Values
import LanWatch.Proofs.Sighting.Distinct
import LanWatch.Proofs.Sql.Grammar
import LanWatch.Proofs.Sql.Newlines
import LanWatch.Proofs.Sql.Reading
import LanWatch.Proofs.Sql.Sightings
import LanWatch.Proofs.Text.Characters
import LanWatch.Proofs.Text.Lines
import LanWatch.Proofs.Text.Utf8
import LanWatch.Proofs.Truncation.Frames
import LanWatch.Proofs.Truncation.Payloads
import LanWatch.Proofs.Truncation.Reads
import LanWatch.Report.Drain
import LanWatch.Report.Handover
import LanWatch.Report.HostLookup
import LanWatch.Report.Line
import LanWatch.Report.Sink
import LanWatch.Report.Upsert
import LanWatch.Report.Writer
import LanWatch.Session
import LanWatch.Session.Tandem
import LanWatch.Settings.File
import LanWatch.Settings.Key
import LanWatch.Settings.Setting
import LanWatch.Sighting
import LanWatch.Sighting.Kind
import LanWatch.Sql.Statement
import LanWatch.Sql.Token
import LanWatch.System.Files
import LanWatch.System.Interface
import LanWatch.System.IoError
import LanWatch.System.Machine
import LanWatch.Text.Alphanumeric
import LanWatch.Text.Blank
import LanWatch.Text.ByteCut
import LanWatch.Text.Case
import LanWatch.Text.ControlSequence
import LanWatch.Text.Digits
import LanWatch.Text.FixedPoint
import LanWatch.Text.Pieces
import LanWatch.Text.Quoted
import LanWatch.Text.Similarity
import LanWatch.Text.Unprintable
import LanWatch.Text.Utf8
import LanWatch.Timestamp
import LanWatch.Watch.Failure
import LanWatch.Watch.Run
import LanWatch.Proofs.Frame.Tagging
import LanWatch.Proofs.Frame.Padding
import LanWatch.Proofs.Capture.Filtering
import LanWatch.Proofs.Settings.Assignments
import LanWatch.Proofs.Text.Trimming
import LanWatch.Proofs.Settings.Layers
import LanWatch.Proofs.Settings.Bounds
import LanWatch.Watch.Daemon
import LanWatch.Proofs.Handover.Unevicted
import LanWatch.Proofs.Session.Following
import LanWatch.Proofs.Watch.Threads
import LanWatch.Proofs.Watch.Exit
import LanWatch.Proofs.Watch.Shutdown
import LanWatch.Proofs.Watch.Sequence
import LanWatch.Report.Crew
import LanWatch.Proofs.Crew.Numbers
import LanWatch.Proofs.Crew.Sharing
import LanWatch.Sql.Table
import LanWatch.Proofs.Text.Numerals
import LanWatch.Proofs.Sql.Rows
import LanWatch.Proofs.Sql.Accumulation
import LanWatch.Proofs.Text.Encoding
import LanWatch.Proofs.Payload.Dhcp
import LanWatch.Proofs.Payload.NetBios
import LanWatch.Proofs.Payload.ChannelAccess
import LanWatch.Proofs.Frame.Emission
import LanWatch.Proofs.Pending.Occupancy
import LanWatch.Proofs.Frame.Datagrams
import LanWatch.Proofs.Frame.Resolution
import LanWatch.Proofs.Pending.Suppression
import LanWatch.Proofs.Report.Lines
import LanWatch.Proofs.Payload.NameLimit
import LanWatch.Proofs.Settings.InPlace
import LanWatch.Proofs.Frame.Errors
import LanWatch.Proofs.Text.Fractions
import LanWatch.Proofs.Sighting.Times
import LanWatch.Frame.InPlace
import LanWatch.Proofs.Frame.InPlace
