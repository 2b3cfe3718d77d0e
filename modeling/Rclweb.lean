import Rclweb.Library.BigEndian
import Rclweb.Library.Table
import Rclweb.Protocol.Error
import Rclweb.Protocol.Cbor
import Rclweb.Protocol.Extension
import Rclweb.Protocol.Control
import Rclweb.Protocol.Frame
import Rclweb.Protocol.Bootstrap
import Rclweb.Protocol.Encode
import Rclweb.Session.Channel
import Rclweb.Session.Transition
import Rclweb.Library.Replica
import Rclweb.Session.View
import Rclweb.Session.Refinement
import Rclweb.Session.Conflict
import Rclweb.Session.TwoPeer
import Rclweb.Session.Agreement
import Rclweb.Engine.Control
import Rclweb.Engine.Engine
import Rclweb.Library.Program
import Rclweb.Gateway.Config
import Rclweb.Gateway.Control
import Rclweb.Gateway.Connection
import Rclweb.Gateway.RunConnection
import Rclweb.Gateway.Blocking
import Rclweb.Protocol.CborRoundTrip
import Rclweb.Protocol.FrameRoundTrip
import Rclweb.Protocol.FrameCanonical
import Rclweb.Protocol.ExtensionRoundTrip
import Rclweb.Protocol.ExtensionCanonical
import Rclweb.Protocol.ValidationLossless
import Rclweb.Protocol.BootstrapParts
import Rclweb.Protocol.BootstrapRoundTrip
import Rclweb.Protocol.EncodedSize
import Rclweb.Protocol.Validation
import Rclweb.Protocol.ControlFrame
import Rclweb.Library.Runs
import Rclweb.Library.Scan
import Rclweb.Engine.Outbound
import Rclweb.Engine.Tables
import Rclweb.Engine.Runs
import Rclweb.Library.Lending
import Rclweb.Library.Members
import Rclweb.Engine.Leases
import Rclweb.Engine.LeaseRuns
import Rclweb.Engine.Sent
import Rclweb.Gateway.Outbound
import Rclweb.Session.Lifecycle
import Rclweb.Session.Precedence
import Rclweb.Session.GraphGeneration
import Rclweb.Pair.System
import Rclweb.Library.Numbering
import Rclweb.Pair.Heartbeat
import Rclweb.Pair.ChannelError
import Rclweb.Pair.OperationStream
import Rclweb.Library.Outbox
import Rclweb.Gateway.Queued
import Rclweb.Gateway.Samples
import Rclweb.Gateway.SampleOrder
import Rclweb.Protocol.CborCanonical
import Rclweb.Session.ActiveChannels
import Rclweb.Gateway.Keeps
import Rclweb.Gateway.Steady
import Rclweb.Gateway.Contracts
import Rclweb.Gateway.Invariant
import Rclweb.Gateway.Entities
import Rclweb.Gateway.Limits
import Rclweb.Gateway.Mediation
import Rclweb.Gateway.SampleFrames
import Rclweb.Library.Attempts
import Rclweb.Library.Aligned
import Rclweb.Cdr.Limits
import Rclweb.Cdr.Writer
import Rclweb.Cdr.Reader
import Rclweb.Cdr.Fields
import Rclweb.Cdr.Writes
import Rclweb.Cdr.Reads
import Rclweb.Cdr.Streams
import Rclweb.Cdr.Atomic
import Rclweb.Cdr.InBounds
import Rclweb.Cdr.RoundTrip
import Rclweb.Cdr.Presented
import Rclweb.Cdr.Bodies
import Rclweb.Types.Generated
import Rclweb.Types.GeneratedFields
import Rclweb.Types.GeneratedRoundTrip
import Rclweb.Types.GeneratedCanonical
import Rclweb.Types.Cursor
import Rclweb.Types.HostValue
import Rclweb.Types.HostValueScan
import Rclweb.Types.HostValueSafe
import Rclweb.Types.HostValueMirrors
import Rclweb.Host.Wasm32
import Rclweb.Cdr.PointCloud2
import Rclweb.Cdr.PointCloud2RoundTrip
import Rclweb.Cdr.PointCloud2Allocation
import Rclweb.Engine.Application
import Rclweb.Library.Raises
import Rclweb.Host.Retain
import Rclweb.Host.Truncated
import Rclweb.Host.Leases
import Rclweb.Host.FastPath
import Rclweb.Library.LengthPrefixed
import Rclweb.Gateway.WebTransport
import Rclweb.Host.Poll
import Rclweb.Host.IoHost
import Rclweb.Host.ArrivalOrder
import Rclweb.Host.WebTransport
import Rclweb.Library.TypedArray
import Rclweb.Library.Url
import Rclweb.Host.Batch
import Rclweb.Host.BatchSafe
import Rclweb.Host.Inbox
import Rclweb.Host.LeaseIds
import Rclweb.Worker.Messages
import Rclweb.Worker.IoWorker
import Rclweb.Worker.Handling
import Rclweb.Worker.Answers
import Rclweb.Worker.AnsweredOnce
import Rclweb.Host.PollsCross
import Rclweb.Pair.RefusedSend
import Rclweb.Library.SequenceDomain
import Rclweb.Engine.Inbound
import Rclweb.Engine.SequenceDomains
import Rclweb.Library.InsertionMap
import Rclweb.Library.Journal
import Rclweb.Library.Json
import Rclweb.Library.JsonSpelling
import Rclweb.Engine.GraphJson
import Rclweb.Library.Acts
import Rclweb.Client.Types
import Rclweb.Client.InlineClient
import Rclweb.Client.WorkerClient
import Rclweb.Client.OperationError
import Rclweb.Client.OperationEvents
import Rclweb.Client.Promises
import Rclweb.Client.FailedSend
import Rclweb.Client.Unsettled
import Rclweb.Client.LostConnection
import Rclweb.Client.WorkerUnsettled
import Rclweb.Client.WorkerLostConnection
import Rclweb.Library.Checklist
import Rclweb.Library.Checked
import Rclweb.Protocol.Usize
import Rclweb.Protocol.UsizeCbor
import Rclweb.Protocol.UsizeFrames
import Rclweb.Protocol.ShapeFaults
import Rclweb.Protocol.ValidationOrder
import Rclweb.Ros.Backend
import Rclweb.Ros.Taken
import Rclweb.Ros.Rendezvous
import Rclweb.Ros.Ownership
import Rclweb.Ros.Replies
import Rclweb.Gateway.WireBounds
import Rclweb.Gateway.WriteQueue
import Rclweb.Gateway.PublishedSamples
import Rclweb.Gateway.GraphMessages
import Rclweb.Gateway.GraphStream
import Rclweb.Ros.GraphView
import Rclweb.Library.HashChain
import Rclweb.Library.Lines
import Rclweb.Library.SortedMap
import Rclweb.Audit.Chain
import Rclweb.Audit.Verified
import Rclweb.Audit.Tamper
import Rclweb.Audit.Sink
import Rclweb.Audit.Intact
import Rclweb.Audit.Kept
import Rclweb.Audit.Export
import Rclweb.Audit.Stack
import Rclweb.Audit.Retried
import Rclweb.Audit.Bounded
import Rclweb.Audit.Exported
import Rclweb.Protocol.Unions
import Rclweb.Engine.SessionRuns
import Rclweb.Engine.Unsubscribe
import Rclweb.Engine.Polls
import Rclweb.Client.GatewayUrl
import Rclweb.Client.GatewayConnect
import Rclweb.Library.Catalogue
import Rclweb.Types.Registry
import Rclweb.Types.Registered
import Rclweb.Engine.OpenIdentity
import Rclweb.Library.ScanLayout
import Rclweb.Host.BatchRoundTrip
