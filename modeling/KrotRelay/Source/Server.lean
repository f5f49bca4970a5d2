import KrotRelay.Lib.Run
import KrotRelay.Source.Handshake
import KrotRelay.Source.Session

/-!
# The relay (krot-server/src/server.rs: `handle_connection`; session.rs: `Session::run`)

Shared state, one task per accepted connection, the reaper, the revocation watchers
and the key reloads, as one step function. An event is one call of one task, one
branch of a session's `select!`, or one step of a background task; what the
environment decides (frames, I/O results, iteration orders, random values) is in the
event. The Control stream is a stream of frames here, so the `ctrl_rx` branch, which
touches no shared state, is absent.

Three fields only observe: `fetched` (what `keys.get` answered each handshake),
`sent` (frames written to each client) and `allocated` (ids handed out so far).
-/
namespace KrotRelay.Source

/-- Where the task that runs `handle_connection` for one connection has got to. -/
inductive Task where
  | absent
  | handshaking (program : Lib.Prog relayInterface (Except ServerError HandshakeOutcome))
  | authenticated (ok : HandshakeOk)
  | running (session : Session)
  | dispatching (session : Session) (frame : ClientFrame)
      (program : Lib.Prog relayInterface (Except ServerError DispatchOutcome))
  | ended (session : Session) (result : Except ServerError SessionOutcome)
  | closed

/-- The session a task is responsible for, from the end of the handshake to its clean-up. -/
def Task.session? : Task → Option Session
  | .running session => some session
  | .dispatching session _ _ => some session
  | .ended session _ => some session
  | _ => none

/-- The arguments of a spawned `run_tcp_tunnel`; its abort handle is its position. -/
structure TcpTunnelTask where
  listener : TcpListener
  connection : Connection
  tunnelId : TunnelId
  rate : RateHandle
  inspect : Bool
  deriving DecidableEq

structure Config where
  mode : Mode
  resumeGrace : Option Duration
  external : External

structure Server where
  config : Config
  registry : TunnelRegistry
  now : Instant
  keys : KeyRegistry
  /-- per `reload` that has replaced the index: what it still has to send -/
  announcing : List (List PubKey)
  peers : List String
  rates : HashMap PubKey RateHandle
  shutdown : Bool
  tcpTasks : List TcpTunnelTask
  tasks : Connection → Task
  watchers : Connection → Option RevocationWatcher
  fetched : Connection → Option (PubKey × AuthorizedEntry)
  sent : Connection → List ServerFrame
  allocated : Nat

/-- What the environment decides about one call. -/
structure Choice where
  order : List TunnelId := []
  owner : PeerLookupOutcome := .notFound
  kind : Except String UInt8 := .ok 0x01
  frame : Except String ClientFrame := .ok .bye
  written : Except String Unit := .ok ()
  bound : Except String TcpListener := .error "address in use"
  localAddr : Except String Unit := .ok ()
  nonce : Nonce := ⟨.replicate 32 0⟩
  sessionId : SessionId := ⟨.replicate 16 0⟩
  nowUtc : String := "unknown"
  consumed : Except String Unit := .ok ()
  /-- the stored line and the entry it parsed to -/
  appended : Except String (String × PubKey × AuthorizedEntry) := .error "cannot parse"

inductive Event where
  | tick (elapsed : Duration)
  | accept (connection : Connection)
  | call (connection : Connection) (choice : Choice)
  | timeout (connection : Connection)
  | subscribe (connection : Connection)
  | frame (connection : Connection) (frame : ClientFrame)
  | readError (connection : Connection)
  | sawShutdown (connection : Connection) (written : Bool)
  | sawRevoked (connection : Connection) (written : Bool)
  | cleanup (connection : Connection)
  | poll (connection : Connection)
  | reapExpired
  | shutdown
  | setPeers (peers : List String)
  | reload (updated : HashMap PubKey AuthorizedEntry) (removedOrder modifiedOrder : List PubKey)
  | announce (reload : Nat)

/-- The connection whose task an event moves. -/
def Event.connection? : Event → Option Connection
  | .accept connection | .call connection _ | .timeout connection | .subscribe connection
  | .frame connection _ | .readError connection | .sawShutdown connection _
  | .sawRevoked connection _ | .cleanup connection => some connection
  | .tick _ | .poll _ | .reapExpired | .shutdown | .setPeers _ | .reload _ _ _ | .announce _ => none

namespace Server

def init (config : Config) (pool : PortPool) (entries : HashMap PubKey AuthorizedEntry)
    (peers : List String) (now : Instant) : Server where
  config := config
  registry := .new pool
  now := now
  keys := { entries := entries, revocation := [] }
  announcing := []
  peers := peers
  rates := ∅
  shutdown := false
  tcpTasks := []
  tasks := fun _ => .absent
  watchers := fun _ => none
  fetched := fun _ => none
  sent := fun _ => []
  allocated := 0

def setTask (server : Server) (connection : Connection) (task : Task) : Server :=
  { server with tasks := Function.update server.tasks connection task }

def recordSent (server : Server) (connection : Connection) (frame : ServerFrame) : Server :=
  { server with
    sent := Function.update server.sent connection (server.sent connection ++ [frame]) }

/-- Answer one call of the task of `connection`. -/
def answer (server : Server) (connection : Connection) (choice : Choice) :
    (call : Call) → Option (call.Reply × Server)
  | .tryResume label sessionId pubkey attached =>
    let (outcome, registry) :=
      server.registry.tryResume choice.order label sessionId pubkey attached
    some (outcome, { server with registry := registry })
  | .countOwnedBy owner => some (server.registry.countOwnedBy owner, server)
  | .allocateHttp label =>
    match server.registry.allocateHttp label with
    | (.ok id, registry) =>
      some (.ok id, { server with registry := registry, allocated := server.allocated + 1 })
    | (.error problem, registry) => some (.error problem, { server with registry := registry })
  | .allocateTcp allowlist =>
    match server.registry.allocateTcp allowlist with
    | (.ok granted, registry) =>
      some (.ok granted, { server with registry := registry, allocated := server.allocated + 1 })
    | (.error problem, registry) => some (.error problem, { server with registry := registry })
  | .insert info => some ((), { server with registry := server.registry.insert info })
  | .remove id => some ((), { server with registry := server.registry.remove id })
  | .setTcpAbort id newAbort =>
    some ((), { server with registry := server.registry.setTcpAbort id newAbort })
  | .keysGet pubkey =>
    let entry := server.keys.get pubkey
    some (entry, { server with
        fetched := Function.update server.fetched connection (entry.map fun found => (pubkey, found)) })
  | .consume _ => some (choice.consumed, server)
  | .appendLine _ =>
    match choice.appended with
    | .error detail => some (.error detail, server)
    | .ok (stored, pubkey, entry) =>
      some (.ok stored, { server with keys := server.keys.appendEntry pubkey entry })
  | .peersSnapshot => some (server.peers, server)
  | .findOwner _ _ => some (choice.owner, server)
  | .readKind => some (choice.kind, server)
  | .readFrame => some (choice.frame, server)
  | .writeFrame frame =>
    match choice.written with
    | .ok () => some (.ok (), server.recordSent connection frame)
    | .error detail => some (.error detail, server)
  | .bind port =>
    -- binding port 0 yields a port of the system's choice, any other port itself
    match choice.bound with
    | .ok listener =>
      if port = 0 ∨ listener.localPort = port then some (.ok listener, server) else none
    | .error detail => some (.error detail, server)
  | .localAddr listener => some (choice.localAddr.map fun () => listener.localPort, server)
  | .spawnTcpTunnel listener attached tunnelId rate inspect =>
    some (⟨server.tcpTasks.length⟩, { server with
        tcpTasks := server.tcpTasks ++ [⟨listener, attached, tunnelId, rate, inspect⟩] })
  | .freshNonce => some (choice.nonce, server)
  | .freshSessionId => some (choice.sessionId, server)
  | .nowUtc => some (choice.nowUtc, server)

/-- `handle_connection` after the handshake: only an authenticated peer goes on. -/
def afterHandshake : Lib.Prog relayInterface (Except ServerError HandshakeOutcome) → Task
  | .ret (.ok (.auth ok)) => .authenticated ok
  | .ret _ => .closed
  | program => .handshaking program

/-- `Session::run` after a dispatch: loop, or return the outcome. -/
def afterDispatch (session : Session) (frame : ClientFrame) :
    Lib.Prog relayInterface (Except ServerError DispatchOutcome) → Task
  | .ret (.ok .continue) => .running session
  | .ret (.ok (.stop reason)) => .ended session (.ok reason)
  | .ret (.error problem) => .ended session (.error problem)
  | program => .dispatching session frame program

def ensureRateState (server : Server) (pubkey : PubKey) : RateHandle × Server :=
  match server.rates.lookup pubkey with
  | some rate => (rate, server)
  | none =>
    let rate : RateHandle := ⟨server.rates.keys.length⟩
    (rate, { server with rates := server.rates.insert pubkey rate })

/-- The Auth branch of `handle_connection`, up to `session.run`. -/
def startSession (server : Server) (connection : Connection) (ok : HandshakeOk) : Server :=
  let server :=
    { server with
      watchers := Function.update server.watchers connection (some (.spawn server.keys ok.pubkey)) }
  let (rate, server) := server.ensureRateState ok.pubkey
  server.setTask connection (.running {
    pubkey := ok.pubkey
    sessionId := ok.sessionId
    connection := connection
    mode := server.config.mode
    entry := ok.entry
    rate := rate })

def isRevoked (server : Server) (connection : Connection) : Bool :=
  match server.watchers connection with
  | some watcher => watcher.revoked
  | none => false

/-- The disposition of the session's tunnels in `handle_connection`. -/
def disposeTunnels (server : Server) (pubkey : PubKey) :
    Except ServerError SessionOutcome → TunnelRegistry
  | .ok .dropped =>
    let grace := server.config.resumeGrace.getD defaultGracePeriod
    server.registry.markDangling pubkey grace server.now
  | .ok .bye => server.registry.removeAllOwnedBy pubkey
  | .ok .terminal => server.registry.removeAllOwnedBy pubkey
  | .error _ => server.registry.removeAllOwnedBy pubkey

/-- `ServerBye`, if it can still be written, and the end of the session. -/
def terminate (server : Server) (session : Session) (connection : Connection) (code : ErrorCode)
    (written : Bool) : Server :=
  let server := if written then server.recordSent connection (.serverBye code) else server
  server.setTask connection (.ended session (.ok .terminal))

def step (server : Server) : Event → Option Server
  | .tick elapsed => some { server with now := server.now + elapsed }
  | .accept connection =>
    match server.tasks connection with
    | .absent =>
      some (server.setTask connection (afterHandshake (perform server.config.external).run))
    | _ => none
  | .call connection choice =>
    match server.tasks connection with
    | .handshaking (.call request next) =>
      (server.answer connection choice request).map fun (reply, server) =>
        server.setTask connection (afterHandshake (next reply))
    | .dispatching session frame (.call request next) =>
      (server.answer connection choice request).map fun (reply, server) =>
        server.setTask connection (afterDispatch session frame (next reply))
    | _ => none
  | .timeout connection =>
    match server.tasks connection with
    | .handshaking _ => some (server.setTask connection .closed)
    | _ => none
  | .subscribe connection =>
    match server.tasks connection with
    | .authenticated ok => some (server.startSession connection ok)
    | _ => none
  | .frame connection frame =>
    match server.tasks connection with
    | .running session =>
      -- `biased`: the read is polled after both watches were found unset
      if server.shutdown || server.isRevoked connection then none
      else
        some (server.setTask connection (afterDispatch session frame (session.dispatch frame).run))
    | _ => none
  | .readError connection =>
    match server.tasks connection with
    | .running session =>
      if server.shutdown || server.isRevoked connection then none
      else some (server.setTask connection (.ended session (.ok .dropped)))
    | _ => none
  | .sawShutdown connection written =>
    match server.tasks connection with
    | .running session =>
      if server.shutdown then some (server.terminate session connection .serverShutdown written)
      else none
    | _ => none
  | .sawRevoked connection written =>
    match server.tasks connection with
    | .running session =>
      if !server.shutdown && server.isRevoked connection then
        some (server.terminate session connection .keyRevoked written)
      else none
    | _ => none
  | .cleanup connection =>
    match server.tasks connection with
    | .ended session result =>
      some ({ server with registry := server.disposeTunnels session.pubkey result }.setTask
        connection .closed)
    | _ => none
  | .poll connection =>
    match server.watchers connection with
    | none => none
    | some watcher =>
      (watcher.poll server.keys).map fun polled =>
        { server with watchers := Function.update server.watchers connection (some polled) }
  | .reapExpired => some { server with registry := (server.registry.reapExpired server.now).2 }
  | .shutdown => some { server with shutdown := true }
  | .setPeers peers => some { server with peers := peers }
  | .reload updated removedOrder modifiedOrder =>
    let (changed, keys) := server.keys.reload updated removedOrder modifiedOrder
    some { server with keys := keys, announcing := server.announcing ++ [changed] }
  | .announce reload =>
    match server.announcing[reload]? with
    | some (pubkey :: rest) =>
      some { server with
        keys := server.keys.send pubkey
        announcing := server.announcing.set reload rest }
    | _ => none

end Server
end KrotRelay.Source
