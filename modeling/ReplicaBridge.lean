import ReplicaBridge.Host.MemoryStore
import ReplicaBridge.Host.TableStore
import ReplicaBridge.Params.Declaration
import ReplicaBridge.Plugin
import ReplicaBridge.Proofs.EntityTrack
import ReplicaBridge.Text.Hex
import ReplicaBridge.Proofs.HostEffects
import ReplicaBridge.Proofs.InputEffects
import ReplicaBridge.Proofs.CoalescingInvisible
import ReplicaBridge.Proofs.EntityHistory
import ReplicaBridge.Proofs.ArrivalOrder
import ReplicaBridge.Proofs.HostCalls
import ReplicaBridge.Proofs.UnsupportedHost
import ReplicaBridge.Proofs.BlockBytes
import ReplicaBridge.Proofs.BlockLayout
import ReplicaBridge.Proofs.ParamStructs
import ReplicaBridge.Proofs.HostContract
import ReplicaBridge.Proofs.Invocation
import ReplicaBridge.Proofs.Deliveries
import ReplicaBridge.Proofs.EnvironmentEffects
import ReplicaBridge.Proofs.EnvironmentHistory
import ReplicaBridge.Proofs.FrameTeardown
import ReplicaBridge.Proofs.Hearing
import ReplicaBridge.Proofs.ToldSignals
import ReplicaBridge.Proofs.ToldHistory
import ReplicaBridge.Proofs.BitLayout
import ReplicaBridge.Proofs.StreamLayout
import ReplicaBridge.Proofs.FrameReading
import ReplicaBridge.Proofs.FrameCodec
import ReplicaBridge.Proofs.GuardedReading
import ReplicaBridge.Proofs.WatchedLoop
import ReplicaBridge.Proofs.PostOrder
import ReplicaBridge.Proofs.SteadyLoop
import ReplicaBridge.Proofs.StreamRoundTrip
import ReplicaBridge.Proofs.SessionOperations
import ReplicaBridge.Proofs.Sheltered
import ReplicaBridge.Proofs.Tallies
import ReplicaBridge.Proofs.Receiving
import ReplicaBridge.Proofs.ReplicaJobs
import ReplicaBridge.Proofs.Rerouting
import ReplicaBridge.Proofs.LocalAuthority
import ReplicaBridge.Proofs.Sending
import ReplicaBridge.Proofs.Lockstep
import ReplicaBridge.Proofs.Callbacks
import ReplicaBridge.Proofs.ListenersApart
import ReplicaBridge.Proofs.Ending
import ReplicaBridge.Proofs.Lifecycle
import ReplicaBridge.Proofs.KeptAvatars
import ReplicaBridge.Proofs.StoreGrowth
import ReplicaBridge.Proofs.CachedLookups
import ReplicaBridge.Proofs.LoaderSession
import ReplicaBridge.Proofs.AdvanceOnce
import ReplicaBridge.Proofs.FatalErrors
import ReplicaBridge.Proofs.BurstWindow
import ReplicaBridge.Proofs.LoaderLayouts
import ReplicaBridge.Proofs.Accounting
import ReplicaBridge.Proofs.QueueBound
import ReplicaBridge.Proofs.StreamErrors
import ReplicaBridge.Proofs.BlockAccess
import ReplicaBridge.Proofs.FullNames
import ReplicaBridge.Proofs.LocalAssignment
