import KrotRelay.Guarantees.Accounting
import KrotRelay.Guarantees.AdminCredentials
import KrotRelay.Guarantees.Announcements
import KrotRelay.Guarantees.ApiKeyCheck
import KrotRelay.Guarantees.Attachment
import KrotRelay.Guarantees.Attribution
import KrotRelay.Guarantees.Authentication
import KrotRelay.Guarantees.Codec
import KrotRelay.Guarantees.CollisionCheck
import KrotRelay.Guarantees.CompleteMetering
import KrotRelay.Guarantees.ConnsCap
import KrotRelay.Guarantees.DataFlow
import KrotRelay.Guarantees.DispatchMoves
import KrotRelay.Guarantees.EnrollmentAgreement
import KrotRelay.Guarantees.EntryMoves
import KrotRelay.Guarantees.FrameIntegrity
import KrotRelay.Guarantees.HandshakeAgreement
import KrotRelay.Guarantees.HandshakeCounters
import KrotRelay.Guarantees.HandshakeDiscipline
import KrotRelay.Guarantees.HelloParsing
import KrotRelay.Guarantees.HotReload
import KrotRelay.Guarantees.InspectorMemory
import KrotRelay.Guarantees.Isolation
import KrotRelay.Guarantees.KeyIndex
import KrotRelay.Guarantees.KeyLines
import KrotRelay.Guarantees.KeyRewrites
import KrotRelay.Guarantees.KeyUpdates
import KrotRelay.Guarantees.LabelOwnership
import KrotRelay.Guarantees.LabelRouting
import KrotRelay.Guarantees.Leaks
import KrotRelay.Guarantees.Lifecycle
import KrotRelay.Guarantees.LineGrammar
import KrotRelay.Guarantees.ListenerTasks
import KrotRelay.Guarantees.LoginFlow
import KrotRelay.Guarantees.LoginSessions
import KrotRelay.Guarantees.Mirror
import KrotRelay.Guarantees.MuxEnds
import KrotRelay.Guarantees.MuxFrames
import KrotRelay.Guarantees.MuxReader
import KrotRelay.Guarantees.MuxSending
import KrotRelay.Guarantees.MuxTermination
import KrotRelay.Guarantees.MuxWriter
import KrotRelay.Guarantees.PeerVerdict
import KrotRelay.Guarantees.Policy
import KrotRelay.Guarantees.QuotaNotices
import KrotRelay.Guarantees.RateCaps
import KrotRelay.Guarantees.RateGrammar
import KrotRelay.Guarantees.RateLimits
import KrotRelay.Guarantees.Registration
import KrotRelay.Guarantees.ReplyDiscipline
import KrotRelay.Guarantees.Representation
import KrotRelay.Guarantees.RequestReplies
import KrotRelay.Guarantees.Resumption
import KrotRelay.Guarantees.Revocation
import KrotRelay.Guarantees.SessionDiscipline
import KrotRelay.Guarantees.SessionEnd
import KrotRelay.Guarantees.StageMoves
import KrotRelay.Guarantees.StreamMoves
import KrotRelay.Guarantees.TcpPorts
import KrotRelay.Guarantees.Tracking
import KrotRelay.Guarantees.Transparency
import KrotRelay.Guarantees.UnknownOptions
import KrotRelay.Lib.Base64
import KrotRelay.Lib.Bytes
import KrotRelay.Lib.CommitLog
import KrotRelay.Lib.Confluence
import KrotRelay.Lib.LittleEndian
import KrotRelay.Lib.Program
import KrotRelay.Lib.Run
import KrotRelay.Lib.Text
import KrotRelay.Lib.Trace
import KrotRelay.Source.Admin
import KrotRelay.Source.ClientHello
import KrotRelay.Source.ClientSession
import KrotRelay.Source.Codec
import KrotRelay.Source.ConcurrentCharge
import KrotRelay.Source.ControlLoop
import KrotRelay.Source.ControlStream
import KrotRelay.Source.DataPath
import KrotRelay.Source.Federation
import KrotRelay.Source.Framing
import KrotRelay.Source.Handshake
import KrotRelay.Source.Inspector
import KrotRelay.Source.KeyFile
import KrotRelay.Source.KeyStore
import KrotRelay.Source.Keys
import KrotRelay.Source.Ledger
import KrotRelay.Source.LocalAuth
import KrotRelay.Source.LoginPage
import KrotRelay.Source.Metering
import KrotRelay.Source.Metrics
import KrotRelay.Source.Mux
import KrotRelay.Source.MuxEffects
import KrotRelay.Source.MuxHeader
import KrotRelay.Source.Notices
import KrotRelay.Source.PeerList
import KrotRelay.Source.Proxy
import KrotRelay.Source.Rates
import KrotRelay.Source.Registry
import KrotRelay.Source.RegistryEffects
import KrotRelay.Source.Relay
import KrotRelay.Source.Reservations
import KrotRelay.Source.Server
import KrotRelay.Source.ServerEffects
import KrotRelay.Source.Session
import KrotRelay.Source.Wire
