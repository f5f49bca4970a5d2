import KrotRelay.Source.Relay

/-!
# Control-stream handshake (krot-server/src/handshake.rs)

`verify_challenge` (Ed25519) and base64 are third-party; they are parameters.
-/
namespace KrotRelay.Source

structure External where
  verifyChallenge : PubKey → Nonce → Signature → Bool
  base64 : PubKey → String

inductive StreamKind where
  | control
  | dataHttp
  | dataTcp
  deriving DecidableEq

def StreamKind.tryFrom (byte : UInt8) : Option StreamKind :=
  if byte = 0x01 then some .control
  else if byte = 0x02 then some .dataHttp
  else if byte = 0x03 then some .dataTcp
  else none

structure HandshakeOk where
  pubkey : PubKey
  sessionId : SessionId
  entry : AuthorizedEntry
  deriving DecidableEq

inductive HandshakeOutcome where
  | auth (ok : HandshakeOk)
  | enrollmentDone (success : Bool)
  | failed (code : ErrorCode)
  deriving DecidableEq

/-- Tell the client why, then give the code the connection is closed with. -/
def authReject (code : ErrorCode) : Relay HandshakeOutcome := do
  writeFrame (.authReject code)
  pure (.failed .authenticationFailed)

def enrollErrorCode (detail : String) : ErrorCode :=
  if detail = "admin token expired" then .tokenExpired
  else if detail = "no admin token issued" then .enrollDisabled
  else .authenticationFailed

def handleEnroll (ext : External) (token : String) (pubkey : PubKey) (labelHint : Option String) :
    Relay HandshakeOutcome := do
  match ← ask (.consume token) with
  | .error detail =>
    writeFrame (.enrollRejected (enrollErrorCode detail))
    pure (.enrollmentDone false)
  | .ok () =>
    let now ← ask .nowUtc
    let hint := labelHint.getD ""
    let line :=
      "ed25519 " ++ ext.base64 pubkey ++ " subdomain=* # enrolled " ++ now ++ " " ++ hint
    match ← ask (.appendLine line) with
    | .error detail => throw (.keys detail)
    | .ok stored =>
      writeFrame (.enrollOk stored)
      pure (.enrollmentDone true)

def handleAuth (ext : External) (pubkey : PubKey) : Relay HandshakeOutcome := do
  match ← ask (.keysGet pubkey) with
  | none => authReject .unknownIdentity
  | some entry =>
    let nonce ← ask .freshNonce
    writeFrame (.authChallenge nonce)
    match ← readFrame with
    | .authResponse signature =>
      if !ext.verifyChallenge pubkey nonce signature then authReject .authenticationFailed
      else
        let sessionId ← ask .freshSessionId
        writeFrame (.authOk sessionId)
        pure (.auth { pubkey, sessionId, entry })
    | _ => authReject .protocolViolation

/-- The failed write of this one rejection is ignored. -/
def unexpectedFirst : Relay HandshakeOutcome := do
  let _ ← ask (.writeFrame (.authReject .protocolViolation))
  pure (.failed .authenticationFailed)

def perform (ext : External) : Relay HandshakeOutcome := do
  match ← ask .readKind with
  | .error detail => throw (.transport detail)
  | .ok byte =>
    match StreamKind.tryFrom byte with
    | none => pure (.failed .unknownStreamKind)
    | some .control =>
      match ← readFrame with
      | .enroll adminToken pubkey labelHint => handleEnroll ext adminToken pubkey labelHint
      | .authRequest pubkey => handleAuth ext pubkey
      | _ => unexpectedFirst
    | some _ => pure (.failed .unexpectedStream)

end KrotRelay.Source
