import CompanionBridge.Library.Machine
import CompanionBridge.Library.OrderedQueue
import CompanionBridge.Bridge.Keymap
import CompanionBridge.Bridge.Gestures
import CompanionBridge.Companion.Dispatch
import CompanionBridge.Companion.DispatchInvariant
import CompanionBridge.Companion.DispatchRefinement
import CompanionBridge.Companion.DispatchFlight
import CompanionBridge.Companion.Repeater
import CompanionBridge.Companion.Server
import CompanionBridge.Companion.ServerInvariant
import CompanionBridge.Companion.NoGhostRepeats
import CompanionBridge.Companion.ServerRefinement
import CompanionBridge.State.PairedStore
import CompanionBridge.Samsung.Client
import CompanionBridge.Samsung.AuthorizedDispatch
import CompanionBridge.Protocol.Auth
import CompanionBridge.Protocol.Connection
import CompanionBridge.Protocol.AuthHandlers
import CompanionBridge.Protocol.FrameStep
import CompanionBridge.Protocol.AuthPhases
import CompanionBridge.Protocol.NonceSync
import CompanionBridge.Protocol.PeerInStep
import CompanionBridge.Protocol.NonceLaw
import CompanionBridge.Protocol.Opack
import CompanionBridge.Protocol.OpackForms
import CompanionBridge.Protocol.OpackDecoding
import CompanionBridge.Protocol.OpackAlign
import CompanionBridge.Protocol.OpackRoundTrip
import CompanionBridge.Protocol.OpackWire
import CompanionBridge.Companion.BridgeConnection
import CompanionBridge.Companion.Message
import CompanionBridge.Companion.Relay
import CompanionBridge.Library.Handler
import CompanionBridge.Protocol.Cipher
import CompanionBridge.Protocol.Framing
import CompanionBridge.Protocol.KeyedArchiver
import CompanionBridge.Protocol.OpackReadBack
import CompanionBridge.Protocol.OpackScalars
import CompanionBridge.Protocol.PeerStream
import CompanionBridge.Protocol.Tlv
import CompanionBridge.State.PairingWindow
import CompanionBridge.Companion.BridgeFrames
import CompanionBridge.Companion.MessageHandlers
import CompanionBridge.Companion.HandlerEffects
import CompanionBridge.Companion.FrameEnds
import CompanionBridge.Companion.MalformedBudget
import CompanionBridge.Companion.FailStop
import CompanionBridge.Companion.ButtonResponses
import CompanionBridge.Companion.ButtonMessages
import CompanionBridge.Protocol.OpackSizes
import CompanionBridge.Library.Interruption
import CompanionBridge.State.AtomicIo
import CompanionBridge.State.AtomicIoCrash
import CompanionBridge.State.AtomicIoOpen
import CompanionBridge.Protocol.FrameFeed
import CompanionBridge.Companion.ReleaseFrames
import CompanionBridge.Companion.RepeatSubmissions
import CompanionBridge.Companion.ReleasePoint
import CompanionBridge.Protocol.PairingFrames
import CompanionBridge.Companion.DevicePushes
import CompanionBridge.Companion.TextSessions
import CompanionBridge.Library.History
import CompanionBridge.Samsung.Lifecycle
import CompanionBridge.Samsung.RemoteLifecycle
import CompanionBridge.Samsung.CallLife
import CompanionBridge.Samsung.ConnectThrottle
import CompanionBridge.Samsung.TextBroadcasts
import CompanionBridge.Companion.TextCoalescing
import CompanionBridge.Library.Coalescing
import CompanionBridge.Companion.CompletionOutcomes
import CompanionBridge.Companion.LaneCompletions
import CompanionBridge.Companion.AdmissionServer
import CompanionBridge.Protocol.Guardrails
import CompanionBridge.Companion.AdmissionAccounting
import CompanionBridge.Library.SlidingWindow
import CompanionBridge.Protocol.PairFailures
import CompanionBridge.Protocol.RetryAfter
import CompanionBridge.Protocol.FailureDropping
import CompanionBridge.Protocol.TlvItems
import CompanionBridge.Protocol.TlvRoundTrip
import CompanionBridge.Companion.TouchHolds
import CompanionBridge.Library.Brackets
import CompanionBridge.Companion.HoldTransparency
import CompanionBridge.Companion.RepeaterTables
import CompanionBridge.Companion.RepeatGenerations
import CompanionBridge.Companion.RepeaterRefinement
import CompanionBridge.Library.Doubles
import CompanionBridge.Library.Json
import CompanionBridge.State.ClientKeys
import CompanionBridge.State.WindowRecord
import CompanionBridge.State.WindowReader
import CompanionBridge.Library.PrefixCodes
import CompanionBridge.Protocol.OpackItems
import CompanionBridge.Protocol.OpackPresence
import CompanionBridge.Protocol.OpackTruncation
import CompanionBridge.Protocol.SetupAttempts
import CompanionBridge.Protocol.SetupServer
import CompanionBridge.Protocol.SetupSessions
import CompanionBridge.Protocol.OpackProgress
import CompanionBridge.State.PosixAcl
import CompanionBridge.State.PosixAclDecision
import CompanionBridge.State.PosixAclEncoding
import CompanionBridge.Library.LocalState
import CompanionBridge.State.DarwinAcl
import CompanionBridge.State.DirectoryWalk
import CompanionBridge.State.DirectoryParts
import CompanionBridge.State.DirectoryDescriptors
import CompanionBridge.Library.Following
import CompanionBridge.State.DirectoryChecks
import CompanionBridge.State.DirectoryTree
import CompanionBridge.State.DirectoryAgreement
import CompanionBridge.State.DirectoryReach
import CompanionBridge.Deploy.BundleNames
import CompanionBridge.Deploy.ContainerBundle
import CompanionBridge.Deploy.BundleAgreement
import CompanionBridge.Deploy.BundleWriting
import CompanionBridge.Library.Outcomes
import CompanionBridge.Deploy.ImageMetadata
import CompanionBridge.Deploy.ManagerRules
import CompanionBridge.Deploy.ManagerShell
import CompanionBridge.Deploy.Transactions
import CompanionBridge.Deploy.RollbackCrash
import CompanionBridge.Library.DurableStore
import CompanionBridge.Library.JsonWriting
import CompanionBridge.State.PairingRecords
import CompanionBridge.Library.StoreProtocol
import CompanionBridge.State.EnrollmentRecords
import CompanionBridge.State.PairingCommands
import CompanionBridge.State.PairingReset
import CompanionBridge.State.PairingProtocol
import CompanionBridge.State.PairingFollows
import CompanionBridge.State.PairingReads
import CompanionBridge.State.EnrollmentFollows
import CompanionBridge.State.PairingSteps
import CompanionBridge.State.IdentityLife
import CompanionBridge.State.EnrollmentLife
import CompanionBridge.State.ClientLife
import CompanionBridge.Library.Agreement
import CompanionBridge.State.ClientCache
import CompanionBridge.State.ClientCacheWalk
import CompanionBridge.State.ClientCacheRecords
import CompanionBridge.State.ClientCacheReload
import CompanionBridge.State.ClientCacheRefresh
import CompanionBridge.State.ClientCacheLife
import CompanionBridge.Library.Simulation
import CompanionBridge.Companion.DispatchSteps
import CompanionBridge.State.AtomicIoPaths
import CompanionBridge.State.DurableRefinement
import CompanionBridge.State.AtomicIoReturns
import CompanionBridge.Samsung.ClientAgreement
import CompanionBridge.Samsung.ClientSteps
import CompanionBridge.Library.PythonText
