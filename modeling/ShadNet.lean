import ShadNet.KeyedTable
import ShadNet.LockProgram
import ShadNet.Duties
import ShadNet.Mutexes
import ShadNet.Ledgers
import ShadNet.Transfers
import ShadNet.Slots
import ShadNet.RelyGuarantee
import ShadNet.TokenBucket
import ShadNet.Decimal
import ShadNet.DueQueue
import ShadNet.SortedTable
import ShadNet.GrowArray
import ShadNet.Signaling.Types
import ShadNet.Signaling.State
import ShadNet.Signaling.Handler
import ShadNet.Signaling.Runtime
import ShadNet.Signaling.Api
import ShadNet.Signaling.Kept
import ShadNet.Signaling.Coherent
import ShadNet.Signaling.Sections
import ShadNet.Signaling.Transports
import ShadNet.Signaling.Connections
import ShadNet.Signaling.Index
import ShadNet.Signaling.Effects
import ShadNet.Signaling.Complete
import ShadNet.LossyNetwork
import ShadNet.Signaling.Handshake
import ShadNet.Signaling.Network
import ShadNet.Signaling.Timeout
import ShadNet.Signaling.Sessions
import ShadNet.Signaling.LateCallbacks
import ShadNet.Signaling.Garbage
import ShadNet.Signaling.RateLimit
import ShadNet.Ipv4
import ShadNet.Matching2.State
import ShadNet.Matching2.Mm
import ShadNet.Matching2.Api
import ShadNet.Matching2.Submission
import ShadNet.Matching2.Frames
import ShadNet.Matching2.Dispatch
import ShadNet.Matching2.Registry
import ShadNet.Matching2.Turns
import ShadNet.Matching2.Isolation
import ShadNet.Matching2.Lifecycle
import ShadNet.Matching2.Dispatcher
import ShadNet.Matching2.Deliveries
import ShadNet.Matching2.PeerResolver
import ShadNet.Matching2.Ownership
import ShadNet.Matching2.LostRequests
import ShadNet.Handler.Types
import ShadNet.Handler.State
import ShadNet.Handler.Replies
import ShadNet.Handler.Sections
import ShadNet.Handler.Submission
import ShadNet.Handler.Score
import ShadNet.Handler.Tus
import ShadNet.Handler.Api
import ShadNet.Handler.Threads
import ShadNet.Handler.Sound
import ShadNet.Handler.Programs
import ShadNet.Handler.Finishing
import ShadNet.Handler.Aborted
import ShadNet.Handler.Packets
import ShadNet.Handler.Routing
import ShadNet.Bytes
import ShadNet.Client.State
import ShadNet.Client.Reader
import ShadNet.Client.Framing
import ShadNet.Client.Greeting
import ShadNet.Client.Login
import ShadNet.Client.Semaphores
import ShadNet.Client.Blobs
import ShadNet.Client.PushEvents
import ShadNet.Client.Wire
import ShadNet.P2PTransport
import ShadNet.Signaling.Drain
import ShadNet.Handler.Worker
import ShadNet.Handler.SignIn
import ShadNet.Handler.LastOperation
import ShadNet.Handler.Disconnected
import ShadNet.Handler.GameDataUploads
import ShadNet.Handler.GameDataDownloads
import ShadNet.Handler.DataUploads
import ShadNet.Handler.DataDownloads
import ShadNet.Handler.TssRanges
import ShadNet.Handler.TssDownloads
import ShadNet.WebApi.State
import ShadNet.WebApi.Calls
import ShadNet.WebApi.Operations
import ShadNet.WebApi.Ledger
import ShadNet.WebApi.Keeping
import ShadNet.WebApi.Exits
import ShadNet.WebApi.Termination
import ShadNet.WebApi.Balance
import ShadNet.WebApi.PushEvents
import ShadNet.WebApi.PushDispatch
import ShadNet.Trophies
import ShadNet.Auth.Requests
import ShadNet.Auth.Results
import ShadNet.Auth.Packets
import ShadNet.Rooms.Members
import ShadNet.Rooms.Data
import ShadNet.Rooms.Answers
import ShadNet.Rooms.ExternalRooms
import ShadNet.Rooms.ExternalReads
import ShadNet.Rooms.JoinPayload
import ShadNet.Rooms.JoinReads
import ShadNet.Tus.Requests
import ShadNet.Tus.Orderly
import ShadNet.WebApi.ResponseHeaders
import ShadNet.WebApi.Reading
import ShadNet.WebApi2.Request
import ShadNet.WebApi2.Sending
import ShadNet.IdSearch
import ShadNet.WebApi2.ContextIds
import ShadNet.Signaling.DispatchThread
import ShadNet.Handler.RankArrays
import ShadNet.WebApi.Sending
import ShadNet.WebApi.Multipart
import ShadNet.WebApi.HttpObjects
import ShadNet.Deadlines
import ShadNet.WebApi.Timers
import ShadNet.WebApi2.Timers
import ShadNet.LiveWalk
import ShadNet.WebApi.LiveDispatch
import ShadNet.WebApi.LiveSurvival
import ShadNet.Decimal
import ShadNet.WebApi.ErrorMapping
import ShadNet.SlotTable
import ShadNet.NpManager.Requests
import ShadNet.NpManager.RequestLaws
import ShadNet.NpManager.TwoRuns
import ShadNet.Changes
import ShadNet.NpManager.StateEvents
import ShadNet.NpManager.StateEventLaws
import ShadNet.Reentrancy
import ShadNet.NpManager.CallbackLocks
import ShadNet.FileFields
import ShadNet.FileFormat.NPBind
import ShadNet.FileFormat.PSF
import ShadNet.Handles
import ShadNet.Client.Connections
import ShadNet.Handler.Invitations
import ShadNet.Dialogs.Invitation
import ShadNet.Signaling.Ids
import ShadNet.NpUtility.WordFilter
import ShadNet.NpUtility.FilterLaws
import ShadNet.Signaling.Bystanders
import ShadNet.Signaling.ContextRefs
import ShadNet.Matching2.Onlookers
import ShadNet.Matching2.LiveContexts
import ShadNet.Matching2.Dwellings
import ShadNet.Matching2.Membership
import ShadNet.Matching2.Stays
import ShadNet.Audits
import ShadNet.WebApi2.Objects
import ShadNet.WebApi2.Calls
import ShadNet.WebApi2.Operations
import ShadNet.WebApi2.References
import ShadNet.WebApi2.Balance
import ShadNet.WebApi2.Returns
