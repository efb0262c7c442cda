import Whip.Lib.Machine
import Whip.Lib.Effect
import Whip.Lib.Bytes
import Whip.Lib.InsertOnce
import Whip.Lib.Pipelined
import Whip.Asset
import Whip.Cache.LRUCache
import Whip.Storage.Disk
import Whip.Storage.DataFile
import Whip.Storage.Database
import Whip.Storage.Records
import Whip.Storage.AppendOnly
import Whip.Storage.Index
import Whip.Storage.Durability
import Whip.Storage.Descriptors
import Whip.Storage.Backend
import Whip.Storage.Requests
import Whip.Storage.Refinement
import Whip.Storage.ExistenceIndex
import Whip.Storage.Purge
import Whip.Storage.Writes
import Whip.Storage.PurgeCycle
import Whip.Storage.Purged
import Whip.Storage.Restart
import Whip.Storage.IndexReaders
import Whip.Storage.IdSet
import Whip.Storage.Paths
import Whip.Lib.ClaimOnce
import Whip.Storage.Concurrent
import Whip.Net.Messages
import Whip.Net.RemoteAssetService
import Whip.Net.CSAuthenticated
import Whip.Net.Streams
import Whip.Net.Link
import Whip.Net.Pipelining
import Whip.Mesh.MeshServer
import Whip.Mesh.IntraMeshMsg
import Whip.Net.Callbacks
import Whip.Net.CSUnauthenticated
import Whip.Net.Handshake
import Whip.Net.Authentication
import Whip.Lib.SHA1
import Whip.Net.CSHA1
import Whip.Net.Hashing
import Whip.Net.Matching
import Whip.Mesh.Registrations
import Whip.Mesh.QueryAnswers
import Whip.Mesh.QuerySession
import Whip.Mesh.SafeKill
import Whip.Mesh.MeshStorageBackend
import Whip.Mesh.Transfers
import Whip.Mesh.Searches
import Whip.Storage.Rounds
import Whip.Storage.Completions
import Whip.Cache.AssetCache
import Whip.Lib.Budget
import Whip.Cache.Policy
import Whip.Cache.Accounting
import Whip.Storage.Relabel
import Whip.Cache.Transparency
import Whip.Server.AssetServer
import Whip.Server.Confinement
import Whip.Server.Settings
import Whip.Server.Accessors
import Whip.Server.Tokens
import Whip.Mesh.Faithful
import Whip.Server.Sessions
import Whip.Server.Service
import Whip.Server.Holdings
import Whip.Server.Responses
import Whip.Server.Visibility
import Whip.Net.Closing
import Whip.Replication.PullReplicationService
import Whip.Replication.Dialing
import Whip.Mesh.IntraMeshService
import Whip.Mesh.Lifecycle
import Whip.Replication.PushReplicationService
import Whip.Replication.Chain
import Whip.Replication.Listing
import Whip.Replication.Round
