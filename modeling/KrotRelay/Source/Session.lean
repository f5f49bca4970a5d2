import KrotRelay.Source.Relay

/-!
# Session dispatch (krot-server/src/session.rs, peer_lookup.rs)

`Session::dispatch` and everything it calls, each function under the source's name.
The loop around it (`Session::run`) is part of the server's step function.
-/
namespace KrotRelay.Source

/-- config.rs; the port pool lives in the registry. -/
inductive Mode where
  | ip (publicHost : String)
  | domain (apex : String)
  deriving DecidableEq

structure Session where
  pubkey : PubKey
  sessionId : SessionId
  connection : Connection
  mode : Mode
  entry : AuthorizedEntry
  rate : RateHandle
  deriving DecidableEq

inductive SessionOutcome where
  | bye
  | dropped
  | terminal
  deriving DecidableEq

inductive DispatchOutcome where
  | continue
  | stop (reason : SessionOutcome)
  deriving DecidableEq

inductive CollisionCheck where
  | clear (matchedPeers : List String)
  | conflict (firstConflict : String)
  deriving DecidableEq

/-- The loop of `check_collision`, with the peers matched so far. -/
def checkCollisionFrom (label : String) (selfPubkey : PubKey) (matchedPeers : List String) :
    List String → Relay CollisionCheck
  | [] => pure (.clear matchedPeers)
  | peer :: rest => do
    match ← ask (.findOwner peer label) with
    | .notFound => checkCollisionFrom label selfPubkey matchedPeers rest
    | .unavailable => checkCollisionFrom label selfPubkey matchedPeers rest
    | .found owner =>
      if owner = selfPubkey then
        checkCollisionFrom label selfPubkey (matchedPeers ++ [peer]) rest
      else pure (.conflict peer)

def checkCollision (peers : List String) (label : String) (selfPubkey : PubKey) :
    Relay CollisionCheck :=
  checkCollisionFrom label selfPubkey [] peers

/-- The check only asks peers, so it stays in a stage that allows it. -/
theorem follows_checkCollisionFrom {G : Type} {D : Lib.Discipline relayInterface G} {stage : G}
    {accept : Except ServerError CollisionCheck → G → Prop} {label : String}
    (asks : ∀ peer, D.allowed stage (.findOwner peer label))
    (stays : ∀ peer reply, D.next stage (.findOwner peer label) reply = stage)
    (done : ∀ verdict, accept (.ok verdict) stage) (selfPubkey : PubKey)
    (matched peers : List String) :
    Lib.Follows D accept stage (checkCollisionFrom label selfPubkey matched peers).run := by
  induction peers generalizing matched with
  | nil => exact done _
  | cons peer _ ih =>
    unfold checkCollisionFrom
    refine follows_ask (asks peer) fun owned _ => ?_
    rw [stays]
    cases owned with
    | found =>
      dsimp only
      split
      · exact ih _
      · exact done _
    | _ => exact ih matched

def reject (code : ErrorCode) (detail : String) : Relay Unit :=
  writeFrame (.tunnelRejected code detail)

/-- The host shown in the URL of a TCP tunnel. -/
def Mode.publicHost : Mode → String
  | .ip publicHost => publicHost
  | .domain apex => apex

def portText (port : UInt16) : String := toString port.toNat

namespace Session

variable (session : Session)

/-- The relay's peers this identity may publish on. -/
def authorizedPeers (snapshot : List String) : List String :=
  snapshot.filter fun apex => session.entry.federation.any fun allowed => allowed == apex

def finishResume (tunnelId : TunnelId) (info : ResumedInfo) (inspect : Bool) : Relay Unit :=
  match info with
  | .http label =>
    match session.mode with
    | .domain apex =>
      writeFrame (.tunnelRegistered tunnelId ("https://" ++ label ++ "." ++ apex) none)
    | .ip _ => do
      reject .internalError "resume across mode change"
      ask (.remove tunnelId)
  | .tcp publicPort listener => do
    let handle ← ask (.spawnTcpTunnel listener session.connection tunnelId session.rate inspect)
    ask (.setTcpAbort tunnelId handle)
    let publicUrl := "tcp://" ++ session.mode.publicHost ++ ":" ++ portText publicPort
    writeFrame (.tunnelRegistered tunnelId publicUrl (some publicPort))

/-- `register_http` once every check has passed. -/
def claimLabel (apex label : String) (inspect : Bool) : Relay Unit := do
  match ← ask (.allocateHttp label) with
  | .error _ => reject .labelUnavailable ("`" ++ label ++ "` is taken")
  | .ok tunnelId =>
    ask (.insert {
      id := tunnelId
      owner := session.pubkey
      sessionId := session.sessionId
      kind := .http label
      state := .live session.connection none
      tcpListener := none
      rate := session.rate
      inspect := inspect })
    writeFrame (.tunnelRegistered tunnelId ("https://" ++ label ++ "." ++ apex) none)

def registerHttp (label : String) (inspect : Bool) : Relay Unit :=
  match session.mode with
  | .ip _ => reject .httpNotAvailable "server is in IpMode"
  | .domain apex =>
    if !isValidLabel label then reject .labelInvalid "does not match DNS label grammar"
    else if !session.entry.allowAnySubdomain &&
        !session.entry.allowedSubdomains.any fun allowed => allowed == label then
      reject .labelForbidden ("`" ++ label ++ "` not permitted for this identity")
    else do
      let candidatePeers := session.authorizedPeers (← ask .peersSnapshot)
      let verdict ← if candidatePeers.isEmpty then pure (CollisionCheck.clear [])
        else checkCollision candidatePeers label session.pubkey
      match verdict with
      | .conflict firstConflict =>
        reject .labelUnavailable ("`" ++ label ++ "` already registered on peer " ++
          firstConflict ++ " by a different identity")
      | .clear _ => session.claimLabel apex label inspect

/-- `register_tcp` from the bound listener on. -/
def openPort (tunnelId : TunnelId) (listener : TcpListener) (inspect : Bool) : Relay Unit := do
  match ← ask (.localAddr listener) with
  | .error detail => throw (.io detail)
  | .ok publicPort =>
    let abort ← ask (.spawnTcpTunnel listener session.connection tunnelId session.rate inspect)
    ask (.insert {
      id := tunnelId
      owner := session.pubkey
      sessionId := session.sessionId
      kind := .tcp publicPort
      state := .live session.connection (some abort)
      tcpListener := some listener
      rate := session.rate
      inspect := inspect })
    let publicUrl := "tcp://" ++ session.mode.publicHost ++ ":" ++ portText publicPort
    writeFrame (.tunnelRegistered tunnelId publicUrl (some publicPort))

/-- `register_tcp` once the `ports=` check has passed. -/
def claimPort (inspect : Bool) : Relay Unit := do
  match ← ask (.allocateTcp session.entry.allowedPorts) with
  | .error _ => reject .portPoolExhausted "no free ports"
  | .ok (tunnelId, port) =>
    match ← ask (.bind port) with
    | .error detail => reject .internalError ("bind failed: " ++ detail)
    | .ok listener => session.openPort tunnelId listener inspect

def registerTcp (remotePort : Option UInt16) (inspect : Bool) : Relay Unit :=
  match remotePort, session.entry.allowedPorts with
  | some port, some allow =>
    if !allow.contains port then
      reject .labelForbidden ("port " ++ portText port ++ " not permitted for this identity")
    else session.claimPort inspect
  | _, _ => session.claimPort inspect

/-- The `conns=` cap and the registration proper. -/
def registerFresh (label : String) (kind : TunnelKind) (inspect : Bool) : Relay Unit := do
  let overLimit ← match session.entry.maxConns with
    | none => pure none
    | some cap =>
      let live ← ask (.countOwnedBy session.pubkey)
      if cap.toNat ≤ live then pure (some (toString live ++ "/" ++ toString cap.toNat))
      else pure none
  match overLimit with
  | some usage => reject .tunnelLimitExceeded (usage ++ " concurrent tunnels")
  | none =>
    match kind with
    | .http => session.registerHttp label inspect
    | .tcp remotePort => session.registerTcp remotePort inspect

def register (label : String) (kind : TunnelKind) (resumeSessionId : Option SessionId)
    (inspect : Bool) : Relay Unit :=
  match resumeSessionId with
  | none => session.registerFresh label kind inspect
  | some previous => do
    match ← ask (.tryResume label previous session.pubkey session.connection) with
    | .reattached tunnelId info resumedInspect =>
      session.finishResume tunnelId info resumedInspect
    | .identityMismatch =>
      reject .resumeIdentityMismatch "resume pubkey does not match original owner"
    | .unknown => session.registerFresh label kind inspect

def dispatch (frame : ClientFrame) : Relay DispatchOutcome :=
  match frame with
  | .ping nonce => do
    writeFrame (.pong nonce)
    pure .continue
  | .registerTunnel label kind resumeSessionId inspect => do
    session.register label kind resumeSessionId inspect
    pure .continue
  | .unregisterTunnel tunnelId => do
    ask (.remove tunnelId)
    pure .continue
  | .listPeers => do
    let relays := session.authorizedPeers (← ask .peersSnapshot)
    writeFrame (.peers relays)
    pure .continue
  | .bye => pure (.stop .bye)
  | _ => do
    writeFrame (.serverBye .protocolViolation)
    pure (.stop .terminal)

end Session
end KrotRelay.Source
