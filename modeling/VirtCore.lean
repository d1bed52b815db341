import VirtCore.Locks.Runs
import VirtCore.Answers.Runs
import VirtCore.Success.Runs
import VirtCore.Storage.SystemDisk
import VirtCore.Storage.Undo
import VirtCore.Adapters.Runs
import VirtCore.Ordered.Forest
import VirtCore.Snapshots.View
import VirtCore.Snapshots.Core
import VirtCore.Snapshots.Runs
import VirtCore.Snapshots.LinkedClone
import VirtCore.Pool.ThreadPool
import VirtCore.Pool.Guarantees
import VirtCore.Protocol.Messages
import VirtCore.Protocol.Controller
import VirtCore.Protocol.Replies
import VirtCore.Keyed.Owned
import VirtCore.Service.Handler
import VirtCore.Service.Places
import VirtCore.Service.Invariants
import VirtCore.Service.Runs
import VirtCore.Interact.Pair
import VirtCore.Keyed.Staged
import VirtCore.Machines.Settings
import VirtCore.Machines.View
import VirtCore.Machines.Commits
import VirtCore.Machines.Creation
import VirtCore.Machines.Clone
import VirtCore.Machines.Building
import VirtCore.Machines.Install
import VirtCore.Calls.Configure
import VirtCore.Calls.Core
import VirtCore.Calls.Op
import VirtCore.Machines.Limits
import VirtCore.Appliance.Import
import VirtCore.Storage.FloatDisk
import VirtCore.Storage.Paths
import VirtCore.Machines.Deletion
import VirtCore.Keyed.Assign
import VirtCore.Machines.Assign
import VirtCore.Machines.Reconfigure
import VirtCore.Machines.Recording
import VirtCore.Snapshots.Info
import VirtCore.Queries.Machine
import VirtCore.Queries.Text
import VirtCore.Queries.Names
import VirtCore.Interact.Guard
import VirtCore.Guards.View
import VirtCore.Guards.Core
import VirtCore.Guards.Configure
import VirtCore.Guards.Runs
import VirtCore.Protocol.References
import VirtCore.Adapters.Cards
import VirtCore.Queries.Remote
import VirtCore.Protocol.HealthCheck
import VirtCore.Monitor.Reports
import VirtCore.Monitor.Temperature
import VirtCore.Monitor.Rates
import VirtCore.Murder.Results
import VirtCore.Murder.Stopping
import VirtCore.Murder.Injection
import VirtCore.Framing.Chunks
import VirtCore.Peer.Bitfield
import VirtCore.Peer.Messages
import VirtCore.Peer.Sending
import VirtCore.Peer.Receiving
import VirtCore.Peer.Conversation
import VirtCore.Peer.Encoder
import VirtCore.Python.Strings
import VirtCore.Bencode.Values
import VirtCore.Bencode.RoundTrip
import VirtCore.Tiling.Ranges
import VirtCore.Tiling.Stores
import VirtCore.Torrent.Storage
import VirtCore.Buckets.Counts
import VirtCore.Buckets.Places
import VirtCore.Torrent.Choice
import VirtCore.Torrent.Swarm
