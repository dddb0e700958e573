import TensorPool.Driver.Types
import TensorPool.Driver.Regions
import TensorPool.Driver.Send
import TensorPool.Driver.Attach
import TensorPool.Driver.Lease
import TensorPool.Driver.Run
import TensorPool.Driver.View
import TensorPool.Library.Journal
import TensorPool.Library.Ledger
import TensorPool.Driver.Effects
import TensorPool.Driver.Room
import TensorPool.Driver.Change
import TensorPool.Driver.LeaseTrace
import TensorPool.Driver.AttachTrace
import TensorPool.Driver.Allocation
import TensorPool.Driver.RunTrace
import TensorPool.Driver.Numbering
import TensorPool.Driver.Book
import TensorPool.Driver.Exclusive
import TensorPool.Driver.Loader
import TensorPool.Driver.Ranges
import TensorPool.Driver.Collection
import TensorPool.Driver.Fencing
import TensorPool.Driver.Refusal
import TensorPool.Driver.Answer
import TensorPool.Driver.Backing
import TensorPool.Driver.Identity
import TensorPool.Merge.Types
import TensorPool.Join.Barrier
import TensorPool.Join.History
import TensorPool.Join.Tracking
import TensorPool.Library.Signed
import TensorPool.Join.SequenceReady
import TensorPool.Join.TimestampReady
import TensorPool.Join.LatestValue
import TensorPool.Merge.RoundTrip
import TensorPool.Queue.Refinement
import TensorPool.Library.StampedRing
import TensorPool.Library.Seqlock
import TensorPool.Client.Layout
import TensorPool.Client.Effects
import TensorPool.Client.Shared
import TensorPool.Client.History
import TensorPool.Client.Untorn
import TensorPool.Client.Validate
import TensorPool.Client.Placement
import TensorPool.Manager.Registry
import TensorPool.Manager.Hello
import TensorPool.Manager.Agreement
import TensorPool.Library.PackedWord
import TensorPool.TraceId.Generator
import TensorPool.TraceId.Unique
import TensorPool.Driver.Lifetime
import TensorPool.Library.GuardedRun
import TensorPool.Discovery.Service
import TensorPool.Discovery.Snapshot
import TensorPool.Discovery.Rewrite
import TensorPool.Discovery.Tags
import TensorPool.Discovery.Live
import TensorPool.Discovery.Request
import TensorPool.Library.Flyweight
import TensorPool.Library.Utf8
import TensorPool.Discovery.Response
import TensorPool.Discovery.RoundTrip
import TensorPool.Discovery.Results
import TensorPool.Wire.Messages
import TensorPool.Wire.RoundTrip
import TensorPool.Supervision.PrivateStreams
import TensorPool.Merge.Scan
import TensorPool.Merge.Accept
import TensorPool.Driver.Honour
import TensorPool.Driver.RegionFile
import TensorPool.Client.Addressing
import TensorPool.Shm.Uri
import TensorPool.Shm.Superblock
import TensorPool.Shm.Map
import TensorPool.Client.Attach
import TensorPool.Client.AttachChecks
import TensorPool.Client.Superblocks
import TensorPool.Client.Order
import TensorPool.DriverClient.Decode
import TensorPool.DriverClient.Complete
import TensorPool.Join.Announces
import TensorPool.Client.Session
import TensorPool.Client.ConsumerSession
import TensorPool.Client.Revocation
import TensorPool.Client.Claims
import TensorPool.Client.Reannounce
import TensorPool.Client.Announced
import TensorPool.Client.AttachSafety
import TensorPool.Client.Shutdown
import TensorPool.Client.Isolation
import TensorPool.DriverClient.Poll
import TensorPool.DriverClient.Correlation
import TensorPool.DriverClient.Answers
import TensorPool.Client.Gaps
import TensorPool.Client.Strides
import TensorPool.Client.Recovery
import TensorPool.Client.Offers
import TensorPool.Library.Slots
import TensorPool.Merge.Registry
import TensorPool.Merge.Latest
import TensorPool.Merge.Encode
import TensorPool.Merge.Room
import TensorPool.Join.Repeats
import TensorPool.Join.Stale
import TensorPool.Join.Repeated
import TensorPool.Join.LatestReady
import TensorPool.Client.FanOut
import TensorPool.Client.FanOutExact
import TensorPool.Library.Extent
import TensorPool.Wire.Decode
import TensorPool.DriverClient.Notices
import TensorPool.Wire.Inside
import TensorPool.Wire.Fragments
import TensorPool.Client.Progress
import TensorPool.Manager.Policy
import TensorPool.Library.Tiling
import TensorPool.Client.Metadata
import TensorPool.TraceId.Decompose
import TensorPool.Shm.Path
import TensorPool.Shm.Grammar
import TensorPool.TraceLink.Set
import TensorPool.Client.Dispatch
import TensorPool.Library.DirectMapped
import TensorPool.Client.TraceHistory
import TensorPool.Library.Rotation
import TensorPool.Discovery.Ingest
import TensorPool.Discovery.Deliver
import TensorPool.Discovery.Handle
import TensorPool.Conductor.Registration
import TensorPool.Conductor.Ownership
import TensorPool.Conductor.Delivery
import TensorPool.Conductor.Progress
import TensorPool.Conductor.Pollers
import TensorPool.Conductor.PollerWalk
import TensorPool.Library.Cursor
import TensorPool.Library.Ticket
import TensorPool.DriverClient.Ids
import TensorPool.Driver.Replies
import TensorPool.Library.ExactField
import TensorPool.Protocol.Requests
import TensorPool.Protocol.Answers
import TensorPool.Driver.Grants
import TensorPool.Driver.Succession
import TensorPool.Driver.Renewal
import TensorPool.DriverClient.Lease
import TensorPool.Protocol.System
import TensorPool.Protocol.Agreement
import TensorPool.Protocol.Isolation
import TensorPool.Protocol.Fencing
import TensorPool.Library.Heartbeat
import TensorPool.Protocol.Liveness
import TensorPool.Library.Sightings
import TensorPool.Presence.Qos
import TensorPool.Presence.Roster
import TensorPool.Presence.Liveness
import TensorPool.Library.Provenance
import TensorPool.TraceLink.Lineage
import TensorPool.Client.BlobTransfer
