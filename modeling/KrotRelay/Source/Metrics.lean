import KrotRelay.Source.Handshake

/-!
# Handshake counters (krot-server/src/metrics.rs, server.rs: `handle_connection`)

The counters are `AtomicU64`s and `fetch_add` wraps. `handshake_timed_out` is left out: it
counts the handshakes that do not complete.
-/
namespace KrotRelay.Source

structure HandshakeCounters where
  handshakeAuthOk : UInt64 := 0
  handshakeUnknownIdentity : UInt64 := 0
  handshakeSignatureInvalid : UInt64 := 0
  handshakeProtocolViolation : UInt64 := 0
  enrollmentOk : UInt64 := 0
  enrollmentRejected : UInt64 := 0
  deriving DecidableEq

/-- The counter `handle_connection` bumps for an outcome. -/
def HandshakeCounters.bump (m : HandshakeCounters) : HandshakeOutcome → HandshakeCounters
  | .enrollmentDone success =>
    if success then { m with enrollmentOk := m.enrollmentOk + 1 }
    else { m with enrollmentRejected := m.enrollmentRejected + 1 }
  | .failed code =>
    if code = .unknownIdentity then
      { m with handshakeUnknownIdentity := m.handshakeUnknownIdentity + 1 }
    else if code = .authenticationFailed then
      { m with handshakeSignatureInvalid := m.handshakeSignatureInvalid + 1 }
    else if code = .tokenExpired ∨ code = .enrollDisabled then
      { m with enrollmentRejected := m.enrollmentRejected + 1 }
    else { m with handshakeProtocolViolation := m.handshakeProtocolViolation + 1 }
  | .auth _ => { m with handshakeAuthOk := m.handshakeAuthOk + 1 }

end KrotRelay.Source
