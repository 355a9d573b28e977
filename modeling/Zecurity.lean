import Zecurity.AclPush
import Zecurity.CacheRecency
import Zecurity.CacheVersion
import Zecurity.CapacityLabels
import Zecurity.CertificateHistory
import Zecurity.ChangeHints
import Zecurity.ClientFlows
import Zecurity.CompiledAccess
import Zecurity.ConflictQueue
import Zecurity.ControlScope
import Zecurity.CrlManager
import Zecurity.DeviceGate
import Zecurity.DrainProgress
import Zecurity.EnrolledShields
import Zecurity.EnrollmentTokens
import Zecurity.EvaluationRevisions
import Zecurity.FailClosed
import Zecurity.FirstSend
import Zecurity.GenerationFloor
import Zecurity.Handover
import Zecurity.HotApply
import Zecurity.IdentityCoherence
import Zecurity.LanAddress
import Zecurity.LoginLimiter
import Zecurity.OutboxLeases
import Zecurity.PeerLists
import Zecurity.PostureDb
import Zecurity.PostureRegrant
import Zecurity.Reconcile
import Zecurity.RelayOrder
import Zecurity.RelayRenewal
import Zecurity.RelaySans
import Zecurity.RelaySelector
import Zecurity.RelaySessions
import Zecurity.ResourceAcks
import Zecurity.Revocation
import Zecurity.RoleCache
import Zecurity.ScimAttributes
import Zecurity.ScimGroups
import Zecurity.ShieldLifecycle
import Zecurity.ShieldProtection
import Zecurity.ShieldRevocations
import Zecurity.ShieldTunnel
import Zecurity.ShieldVoice
import Zecurity.SnapshotDelivery
import Zecurity.StrandedShields
import Zecurity.StreamOwnership
import Zecurity.Totp
import Zecurity.TrustAnchors
import Zecurity.TunnelRestarts
import Zecurity.UdpRelay
import Zecurity.UpToDate
