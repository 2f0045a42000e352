import CollabEditor.Library.Transition
import CollabEditor.Library.CausalDelivery
import CollabEditor.Library.Assoc
import CollabEditor.Library.PromiseChain
import CollabEditor.Library.Utf8
import CollabEditor.Library.Json
import CollabEditor.Library.JsonRoundtrip
import CollabEditor.Library.JsonNumber
import CollabEditor.Library.Binary64
import CollabEditor.Library.Doubles
import CollabEditor.Library.Base64url
import CollabEditor.Library.PercentEncoding
import CollabEditor.Library.PosixPath
import CollabEditor.Library.Regex
import CollabEditor.Library.Url
import CollabEditor.Yjs.Document
import CollabEditor.Yjs.Awareness
import CollabEditor.Yjs.Slots
import CollabEditor.Persistence.Store
import CollabEditor.Persistence.Postgres.Tables
import CollabEditor.Persistence.Postgres.ConcurrentLoad
import CollabEditor.Persistence.Postgres.Transactions
import CollabEditor.Persistence.Postgres.Progress
import CollabEditor.Persistence.Postgres.Reads
import CollabEditor.Persistence.Documents
import CollabEditor.Persistence.DocumentWriter
import CollabEditor.Persistence.Conservation
import CollabEditor.Persistence.RowCount
import CollabEditor.Persistence.Deadlines
import CollabEditor.Rooms.Room
import CollabEditor.Rooms.Origins
import CollabEditor.Rooms.Broadcast
import CollabEditor.Rooms.Ownership
import CollabEditor.Rooms.Announcements
import CollabEditor.Protocol.Messages
import CollabEditor.Ws.Session
import CollabEditor.Ws.Moves
import CollabEditor.Ws.Handshake
import CollabEditor.Ws.Uploads
import CollabEditor.Ws.Downloads
import CollabEditor.Ws.RateLimit
import CollabEditor.Ws.Budget
import CollabEditor.Ws.WallClock
import CollabEditor.Ws.Connection
import CollabEditor.Ws.Client
import CollabEditor.Ws.Inbound
import CollabEditor.Ws.Resync
import CollabEditor.Ws.Closing
import CollabEditor.Ws.Gateway
import CollabEditor.Ws.Heartbeat
import CollabEditor.Instance.Slot
import CollabEditor.Instance.Events
import CollabEditor.Instance.Lifecycle
import CollabEditor.Instance.Maps
import CollabEditor.Instance.Registry
import CollabEditor.Instance.Reopen
import CollabEditor.Instance.Settlement
import CollabEditor.Instance.Unstored
import CollabEditor.App.Shutdown
import CollabEditor.Cluster.Relay
import CollabEditor.Cluster.Exchange
import CollabEditor.Cluster.Handoff
import CollabEditor.Cluster.Reconvergence
import CollabEditor.Cluster.Deployment
import CollabEditor.Cluster.Convergence
import CollabEditor.Cluster.Delivery
import CollabEditor.Cluster.Durability
import CollabEditor.Cluster.Flushing
import CollabEditor.Cluster.Messages
import CollabEditor.Cluster.RedisBus
import CollabEditor.Cluster.BusFraming
import CollabEditor.Cluster.Broker
import CollabEditor.Cluster.Opening
import CollabEditor.Http.Token
import CollabEditor.Http.Session
import CollabEditor.Http.Verification
import CollabEditor.Http.Static
import CollabEditor.Web.Provider
import CollabEditor.Web.WayForward
import CollabEditor.Web.Timers
import CollabEditor.Web.TimerIds
import CollabEditor.Web.Destroy
import CollabEditor.Web.Backoff
import CollabEditor.Web.SessionSource
import CollabEditor.Web.RefusedTokens
import CollabEditor.Web.RoomLinks
import CollabEditor.Web.RoomIds
import CollabEditor.Web.RoomIdDraws
import CollabEditor.Web.Presence
import CollabEditor.Web.PresenceInvariant
import CollabEditor.Web.PresenceRoom
import CollabEditor.Web.PresenceConvergence
import CollabEditor.Library.History
import CollabEditor.Library.RejectionSampling
import CollabEditor.Web.JoinedRooms
import CollabEditor.Web.App
import CollabEditor.Web.Navigation
import CollabEditor.Web.SignIn
import CollabEditor.Web.HalfOpen
import CollabEditor.Web.Collab
import CollabEditor.Web.RoomPage
import CollabEditor.Web.TokenFreshness
import CollabEditor.Web.Recovery
import CollabEditor.Web.Replica
