import Mathlib.Data.List.Basic

/-!
Identifiers, error codes and Control-stream frames
(krot-proto: ids.rs, error.rs, frames.rs, consts.rs).
A frame is modelled as the value `postcard` decodes; the byte framing is modelled
separately. Ports are `u16`; a tunnel id is a `u64`, kept as a natural number and
bounded where the allocation counter is advanced.
-/
namespace KrotRelay.Source

structure PubKey where
  bytes : Vector UInt8 32
  deriving DecidableEq

structure SessionId where
  bytes : Vector UInt8 16
  deriving DecidableEq

structure Nonce where
  bytes : Vector UInt8 32
  deriving DecidableEq

structure Signature where
  bytes : Vector UInt8 64
  deriving DecidableEq

structure TunnelId where
  val : Nat
  deriving DecidableEq

structure ErrorCode where
  raw : UInt16
  deriving DecidableEq

namespace ErrorCode

def protocolViolation : ErrorCode := ⟨0x0001⟩
def unknownStreamKind : ErrorCode := ⟨0x0003⟩
def unexpectedStream : ErrorCode := ⟨0x0004⟩
def authenticationFailed : ErrorCode := ⟨0x0010⟩
def unknownIdentity : ErrorCode := ⟨0x0011⟩
def keyRevoked : ErrorCode := ⟨0x0012⟩
def tokenExpired : ErrorCode := ⟨0x0013⟩
def enrollDisabled : ErrorCode := ⟨0x0014⟩
def labelUnavailable : ErrorCode := ⟨0x0020⟩
def labelForbidden : ErrorCode := ⟨0x0021⟩
def labelInvalid : ErrorCode := ⟨0x0022⟩
def tunnelLimitExceeded : ErrorCode := ⟨0x0023⟩
def httpNotAvailable : ErrorCode := ⟨0x0024⟩
def portPoolExhausted : ErrorCode := ⟨0x0025⟩
def resumeIdentityMismatch : ErrorCode := ⟨0x0041⟩
def serverShutdown : ErrorCode := ⟨0x00F0⟩
def internalError : ErrorCode := ⟨0x00F1⟩

end ErrorCode

inductive TunnelKind where
  | http
  | tcp (remotePort : Option UInt16)
  deriving DecidableEq

inductive ClientFrame where
  | authRequest (pubkey : PubKey)
  | authResponse (signature : Signature)
  | registerTunnel (label : String) (kind : TunnelKind) (resumeSessionId : Option SessionId)
      (inspect : Bool)
  | unregisterTunnel (tunnelId : TunnelId)
  | ping (nonce : UInt64)
  | bye
  | enroll (adminToken : String) (pubkey : PubKey) (labelHint : Option String)
  | listPeers
  deriving DecidableEq

inductive ServerFrame where
  | authChallenge (nonce : Nonce)
  | authOk (sessionId : SessionId)
  | authReject (code : ErrorCode)
  | tunnelRegistered (tunnelId : TunnelId) (publicUrl : String) (publicPort : Option UInt16)
  | tunnelRejected (code : ErrorCode) (detail : String)
  | pong (nonce : UInt64)
  | rateLimit (tunnelId : Option TunnelId) (retryAfterMs : UInt32)
  | serverBye (code : ErrorCode)
  | enrollOk (authorizedLine : String)
  | enrollRejected (code : ErrorCode)
  | peers (relays : List String)
  deriving DecidableEq

/-- Monotonic clock readings and durations, in nanoseconds. -/
abbrev Instant := Nat
abbrev Duration := Nat

/-- consts.rs: lease grace period used when the configuration sets none. -/
def defaultGracePeriod : Duration := 30 * 1000000000

end KrotRelay.Source
