import CameraViewer.Channel.Announcement
import CameraViewer.Channel.Notice
import CameraViewer.Clip.Basic
import CameraViewer.CommandLine.Arguments
import CameraViewer.CommandLine.Invocation
import CameraViewer.CommandLine.Reader
import CameraViewer.CommandLine.Token
import CameraViewer.Config.Basic
import CameraViewer.Config.Endpoint
import CameraViewer.Config.Environment
import CameraViewer.Control.Catalog
import CameraViewer.Control.Descriptor
import CameraViewer.Json.Binary64
import CameraViewer.Json.Decode
import CameraViewer.Json.Number
import CameraViewer.Json.Tree
import CameraViewer.Json.Value
import CameraViewer.Link.Basic
import CameraViewer.Link.Timer
import CameraViewer.Main
import CameraViewer.Negotiation.Machine
import CameraViewer.Peer.Basic
import CameraViewer.Peer.Connectivity
import CameraViewer.Proofs.Channel.Announced
import CameraViewer.Proofs.CommandLine.Spelling
import CameraViewer.Proofs.CommandLine.Transparency
import CameraViewer.Proofs.Control.Catalogs
import CameraViewer.Proofs.Control.Ranges
import CameraViewer.Proofs.Json.Canonical
import CameraViewer.Proofs.Json.Decimals
import CameraViewer.Proofs.Json.Doubles
import CameraViewer.Proofs.Json.Literals
import CameraViewer.Proofs.Json.Reading
import CameraViewer.Proofs.Json.Records
import CameraViewer.Proofs.Json.Rounding
import CameraViewer.Proofs.Link.Renewal
import CameraViewer.Proofs.Negotiation.Adoptions
import CameraViewer.Proofs.Negotiation.Candidates
import CameraViewer.Proofs.Negotiation.Outstanding
import CameraViewer.Proofs.Negotiation.Rejections
import CameraViewer.Proofs.Negotiation.Repetitions
import CameraViewer.Proofs.Negotiation.Requests
import CameraViewer.Proofs.Negotiation.Restarts
import CameraViewer.Proofs.Negotiation.Runs
import CameraViewer.Proofs.Negotiation.Settlement
import CameraViewer.Proofs.Negotiation.Signalling
import CameraViewer.Proofs.Negotiation.States
import CameraViewer.Proofs.Negotiation.Steps
import CameraViewer.Proofs.Session.Channels
import CameraViewer.Proofs.Session.Chunks
import CameraViewer.Proofs.Session.Closings
import CameraViewer.Proofs.Session.Controls
import CameraViewer.Proofs.Session.Deliveries
import CameraViewer.Proofs.Session.Discarded
import CameraViewer.Proofs.Session.Endings
import CameraViewer.Proofs.Session.Entries
import CameraViewer.Proofs.Session.Generations
import CameraViewer.Proofs.Session.Lives
import CameraViewer.Proofs.Session.Microphone
import CameraViewer.Proofs.Session.Moves
import CameraViewer.Proofs.Session.Operations
import CameraViewer.Proofs.Session.Peers
import CameraViewer.Proofs.Session.Publishing
import CameraViewer.Proofs.Session.Reconnection
import CameraViewer.Proofs.Session.Runs
import CameraViewer.Proofs.Session.Servers
import CameraViewer.Proofs.Session.Turns
import CameraViewer.Proofs.Session.Uploads
import CameraViewer.Proofs.Signal.Decoding
import CameraViewer.Proofs.Signal.Frames
import CameraViewer.Proofs.Signal.RoundTrip
import CameraViewer.Proofs.Signal.Servers
import CameraViewer.Proofs.Signal.Texts
import CameraViewer.Proofs.Telemetry.Averages
import CameraViewer.Proofs.Text.Lines
import CameraViewer.Proofs.Transfer.Backpressure
import CameraViewer.Proofs.Transfer.Courses
import CameraViewer.Proofs.Transfer.Draining
import CameraViewer.Proofs.Transfer.Limits
import CameraViewer.Proofs.Transfer.Moves
import CameraViewer.Proofs.Transfer.Parcels
import CameraViewer.Proofs.Transfer.Progress
import CameraViewer.Proofs.Transfer.Pumping
import CameraViewer.Proofs.Transfer.Runs
import CameraViewer.Proofs.Transfer.Shipments
import CameraViewer.Proofs.Transfer.Sizes
import CameraViewer.Proofs.Transfer.Stream
import CameraViewer.Proofs.Transfer.Windows
import CameraViewer.Proofs.World.Loops
import CameraViewer.Proofs.World.Record
import CameraViewer.Rehearsal.Bench
import CameraViewer.Rehearsal.Channel
import CameraViewer.Rehearsal.Cue
import CameraViewer.Rehearsal.Link
import CameraViewer.Rehearsal.Negotiation
import CameraViewer.Rehearsal.Peer
import CameraViewer.Rehearsal.Program
import CameraViewer.Rehearsal.Relay
import CameraViewer.Rehearsal.Running
import CameraViewer.Rehearsal.Session
import CameraViewer.Rehearsal.Stage
import CameraViewer.Rehearsal.Transfer
import CameraViewer.Rtc.CandidateLine
import CameraViewer.Rtc.Capture
import CameraViewer.Rtc.Codec
import CameraViewer.Rtc.Credentials
import CameraViewer.Rtc.Description
import CameraViewer.Rtc.Negotiated
import CameraViewer.Rtc.Peer
import CameraViewer.Rtc.Section
import CameraViewer.Rtc.Server
import CameraViewer.Rtc.Transceiver
import CameraViewer.Session.Client
import CameraViewer.Session.Event
import CameraViewer.Session.Pending
import CameraViewer.Session.Report
import CameraViewer.Session.Routing
import CameraViewer.Session.Supervisor
import CameraViewer.Signal.Candidate
import CameraViewer.Signal.Command
import CameraViewer.Signal.Descriptor
import CameraViewer.Signal.Envelope
import CameraViewer.Signal.Frame
import CameraViewer.Signal.IceServer
import CameraViewer.Telemetry.Logging
import CameraViewer.Telemetry.Summary
import CameraViewer.Text.Ascii
import CameraViewer.Text.Blank
import CameraViewer.Text.Mark
import CameraViewer.Text.Printable
import CameraViewer.Text.Quoted
import CameraViewer.Text.Ranges
import CameraViewer.Transfer.Job
import CameraViewer.Transfer.Limits
import CameraViewer.Transfer.Queue
import CameraViewer.Url.Address
import CameraViewer.Url.Basic
import CameraViewer.Url.Composition
import CameraViewer.Url.Direction
import CameraViewer.Url.Forms
import CameraViewer.Url.Joining
import CameraViewer.Url.Name
import CameraViewer.Url.Percent
import CameraViewer.Url.Punycode
import CameraViewer.Url.Read
import CameraViewer.World.Basic
