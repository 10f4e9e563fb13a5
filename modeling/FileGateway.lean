import FileGateway.Bytes.BigEndian.Lemmas
import FileGateway.ExpiringCache.Run
import FileGateway.Main
import FileGateway.Pool.SingleFlight
import FileGateway.Proofs.Frame.Payload
import FileGateway.Proofs.Frame.Response
import FileGateway.Proofs.Frame.Request
import FileGateway.Client.Session
import FileGateway.Proofs.Network.Stream
import FileGateway.Proofs.Client.Session
import FileGateway.Proofs.Network.Calls
import FileGateway.Proofs.ExpiringCache.Entries
import FileGateway.Proofs.ExpiringCache.Consistent
import FileGateway.Proofs.ExpiringCache.Course
import FileGateway.Proofs.ExpiringCache.Retention
import FileGateway.Proofs.ExpiringCache.Compaction
import FileGateway.Proofs.Client.Closing
import FileGateway.Proofs.Block.Arithmetic
import FileGateway.Proofs.Block.Placement
import FileGateway.Proofs.Block.Holders
import FileGateway.Proofs.Monitor.Survey
import FileGateway.Proofs.Monitor.Locations
import FileGateway.Hub.FanOut
import FileGateway.Hub.Run
import FileGateway.Proofs.ExpiringCache.Lookup
import FileGateway.Proofs.Hub.Consistent
import FileGateway.Proofs.Hub.Effect
import FileGateway.Proofs.Hub.FanOut
import FileGateway.Proofs.Client.Admission
import FileGateway.Proofs.Client.Silence
import FileGateway.Proofs.Client.RoundTrip
import FileGateway.Proofs.Frame.Field
import FileGateway.Proofs.Client.Writing
import FileGateway.Proofs.Client.Answer
import FileGateway.Proofs.ExpiringCache.Freshness
import FileGateway.Proofs.Hub.Accounts
import FileGateway.StatCache.Run
import FileGateway.Proofs.Network.Answered
import FileGateway.Proofs.StatCache.Calls
import FileGateway.Proofs.StatCache.Coherence
import FileGateway.Proofs.StatCache.Abandonment
import FileGateway.Proofs.Frame.Integrity
import FileGateway.Hub.FanOut.Run
import FileGateway.Proofs.Hub.Advance
import FileGateway.Proofs.Hub.Healing
import FileGateway.Proofs.Monitor.Healing
import FileGateway.Pool.SingleFlight.Run
import FileGateway.Proofs.Pool.Gates
import FileGateway.Proofs.Pool.SingleFlight
import FileGateway.Proofs.CommandLine.Outcome
import FileGateway.Proofs.Block.Tiling
import FileGateway.Proofs.ExpiringCache.Insertion
import FileGateway.Proofs.Pool.Acquisition
import FileGateway.Proofs.Client.Transfer
import FileGateway.Proofs.Text.Blank
import FileGateway.Proofs.Address.Colon
import FileGateway.Proofs.Monitor.Names
import FileGateway.Network.Sending
import FileGateway.Hub.FanOut.Sending
import FileGateway.Monitor.Lookup
import FileGateway.Proofs.Network.Sending
import FileGateway.Proofs.Hub.Sending
import FileGateway.Proofs.Monitor.Lookup.Effect
import FileGateway.Proofs.Monitor.Lookup.Moves
import FileGateway.Proofs.Monitor.Lookup.Traffic
import FileGateway.Proofs.Monitor.Lookup.Reach
import FileGateway.Proofs.Monitor.Lookup.Visits
import FileGateway.Proofs.Block.Index
import FileGateway.Proofs.FileStat.Layout
import FileGateway.Proofs.Address.Listing
import FileGateway.Proofs.Address.Canonical
