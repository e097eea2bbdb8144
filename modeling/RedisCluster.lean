import RedisCluster.Client
import RedisCluster.ClientError
import RedisCluster.ClientState
import RedisCluster.Command
import RedisCluster.Command.Row
import RedisCluster.Connection
import RedisCluster.Discovery
import RedisCluster.Dispatcher
import RedisCluster.Duration
import RedisCluster.Endpoint
import RedisCluster.Endpoint.Address
import RedisCluster.Endpoint.Ipv6
import RedisCluster.Endpoint.Spelling
import RedisCluster.Endpoint.Uri
import RedisCluster.Frame
import RedisCluster.Frame.Cursor
import RedisCluster.Frame.Decode
import RedisCluster.Frame.Encode
import RedisCluster.Frame.Grammar
import RedisCluster.Interleaving
import RedisCluster.Layout
import RedisCluster.Line
import RedisCluster.Network
import RedisCluster.Pool
import RedisCluster.Program
import RedisCluster.Program.Trace
import RedisCluster.Redirect
import RedisCluster.Rehearsal
import RedisCluster.Reply
import RedisCluster.Request
import RedisCluster.ScriptedCluster
import RedisCluster.Settings
import RedisCluster.Slot
import RedisCluster.Text.Blank
import RedisCluster.Text.Decimal
import RedisCluster.Text.Hex
import RedisCluster.Text.Hidden
import RedisCluster.Text.Outline
import RedisCluster.Text.Quoted
import RedisCluster.Text.Upper
import RedisCluster.Text.Utf8
import RedisCluster.Topology
import RedisCluster.Proofs.Text.Utf8
import RedisCluster.Proofs.Text.Decimal
import RedisCluster.Proofs.Text.Blank
import RedisCluster.Proofs.Text.WellFormed
import RedisCluster.Proofs.Endpoint.Naming
import RedisCluster.Proofs.Endpoint.Redirected
import RedisCluster.Proofs.Frame.Parse
import RedisCluster.Proofs.Frame.Chunks
import RedisCluster.Proofs.Frame.RoundTrip
import RedisCluster.Proofs.Frame.Number
import RedisCluster.Proofs.Frame.Grammar
import RedisCluster.Proofs.Topology.Calls
import RedisCluster.Proofs.Pool.Accounting
import RedisCluster.Proofs.Pool.Bystanders
import RedisCluster.Proofs.Pool.Callers
import RedisCluster.Proofs.Pool.Tenancy
import RedisCluster.Proofs.Pool.Occupancy
import RedisCluster.Proofs.Dispatcher.Errands
import RedisCluster.Proofs.Dispatcher.Attempts
import RedisCluster.Proofs.Dispatcher.Chronicle
import RedisCluster.Proofs.Dispatcher.Itinerary
import RedisCluster.Proofs.Dispatcher.Budget
import RedisCluster.Proofs.Pool.Undisturbed
import RedisCluster.Proofs.Pool.Usage
import RedisCluster.Proofs.Pool.Visits
import RedisCluster.Proofs.Dispatcher.Undisturbed
import RedisCluster.Proofs.Topology.Ready
import RedisCluster.Proofs.Dispatcher.RedirectChain
import RedisCluster.Proofs.Program.Midway
import RedisCluster.Proofs.Topology.Shut
import RedisCluster.Proofs.Dispatcher.Shutdown
import RedisCluster.Proofs.Program.Conduct
import RedisCluster.Proofs.Program.Schedule
import RedisCluster.Proofs.Topology.Steady
import RedisCluster.Proofs.Topology.Growth
import RedisCluster.Proofs.Topology.LastWord
import RedisCluster.Proofs.Topology.Sharing
import RedisCluster.Proofs.Topology.Origins
import RedisCluster.Proofs.Topology.Bounds
import RedisCluster.Proofs.Layout.Entries
import RedisCluster.Proofs.Layout.Replies
import RedisCluster.Proofs.Pool.Permits
import RedisCluster.Proofs.Dispatcher.Failover
import RedisCluster.Proofs.Dispatcher.Takeover
import RedisCluster.Proofs.Program.History
import RedisCluster.Proofs.Program.Turns
import RedisCluster.Proofs.Client.Rules
import RedisCluster.Proofs.Client.Jobs
import RedisCluster.Proofs.Client.Addresses
import RedisCluster.Proofs.Client.Provenance
import RedisCluster.Proofs.Client.Closing
import RedisCluster.Proofs.Client.Business
import RedisCluster.Proofs.Client.Calls
import RedisCluster.Proofs.Client.Knowledge
import RedisCluster.Proofs.Client.Stranded
import RedisCluster.Proofs.Discovery.Guard
import RedisCluster.Proofs.Discovery.Reload
import RedisCluster.Proofs.Discovery.Start
import RedisCluster.Proofs.Dispatcher.Retry
import RedisCluster.Proofs.Dispatcher.Asking
import RedisCluster.Proofs.Discovery.Record
import RedisCluster.Proofs.Dispatcher.Footprint
import RedisCluster.Proofs.Pool.Fitness
import RedisCluster.Proofs.Network.Exchange
import RedisCluster.Proofs.Command.Rows
import RedisCluster.Proofs.Command.Wire
import RedisCluster.Proofs.Client.Manners
import RedisCluster.Proofs.Network.Grips
import RedisCluster.Proofs.Network.Replies
import RedisCluster.Proofs.Dispatcher.KeySlots
import RedisCluster.Proofs.Network.RoundTrips
import RedisCluster.Proofs.Pool.Handling
import RedisCluster.Proofs.Frame.Oversize
import RedisCluster.Proofs.Topology.Roster
import RedisCluster.Proofs.Discovery.Polls
import RedisCluster.Proofs.Discovery.Pass
import RedisCluster.Proofs.Discovery.Bootstrap
import RedisCluster.Proofs.Dispatcher.Sweep
import RedisCluster.Proofs.Program.Locality
import RedisCluster.Proofs.Dispatcher.Orders
import RedisCluster.Proofs.Slot.Checksum
import RedisCluster.Proofs.Slot.HashTag
import RedisCluster.Proofs.Endpoint.Identity
import RedisCluster.Proofs.Endpoint.Agreement
import RedisCluster.Proofs.Endpoint.Ipv6
import RedisCluster.Proofs.Endpoint.Authority
import RedisCluster.Proofs.Endpoint.Spelled
import RedisCluster.Proofs.Connection.Writing
import RedisCluster.Proofs.Connection.Reading
import RedisCluster.Proofs.Settings.Last
import RedisCluster.Proofs.Settings.Bootstrap
import RedisCluster.Proofs.Pool.Config
import RedisCluster.Proofs.Client.Build
import RedisCluster.Proofs.Frame.NormalForm
import RedisCluster.Proofs.Frame.Bounds
import RedisCluster.Proofs.Connection.Endless
import RedisCluster.Proofs.Connection.Transcript
import RedisCluster.Proofs.Connection.Handshake
import RedisCluster.Proofs.Connection.Opening
