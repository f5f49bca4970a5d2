import KrotRelay.Guarantees.Attachment

/-!
# The port of a TCP tunnel

Behind the `conns=` check `register_tcp` checks a requested port against the `ports=` list of
the identity and then allocates without it: the tunnel gets the first port of the pool that is
free and listed.
-/
namespace KrotRelay.Guarantees
open Source Lib TunnelRegistry

/-- The calls of a task, one after the other, each answered as `choices` has it. -/
def serve {α : Type} (choices : Call → Choice) (connection : Connection) (server : Server) :
    Prog relayInterface α → Option (α × Server)
  | .ret value => some (value, server)
  | .call request next =>
    (server.answer connection (choices request) request).bind fun answered =>
      serve choices connection answered.2 (next answered.1)

/-- A port nobody uses can be bound, and frames can be written. -/
structure Binds (choices : Call → Choice) : Prop where
  bound : ∀ port, ∃ listener, (choices (.bind port)).bound = .ok listener ∧
    listener.localPort ≠ 0 ∧ (port = 0 ∨ listener.localPort = port)
  addressed : ∀ listener, (choices (.localAddr listener)).localAddr = .ok ()
  written : ∀ frame, (choices (.writeFrame frame)).written = .ok ()

/-- The client is told of a tunnel that listens on this port. -/
def ListensOn (before after : Server) (connection : Connection) (port : UInt16) : Prop :=
  ∃ id url info listener,
    after.sent connection = before.sent connection ++ [.tunnelRegistered id url (some port)] ∧
    after.registry.tunnels.lookup id = some info ∧ info.tcpListener = some listener ∧
    listener.localPort = port

/-- In the pool, not reserved, and listed if there is a list. -/
def Eligible (registry : TunnelRegistry) (allowed : Option (List UInt16)) (port : UInt16) : Prop :=
  port ∈ registry.portPool.ports ∧ port ∉ registry.usedPorts ∧
    ∀ list, allowed = some list → port ∈ list

/-- What a client may expect of a request, with or without a port. -/
structure PortPromise (before after : Server) (connection : Connection)
    (allowed : Option (List UInt16)) (remotePort : Option UInt16) : Prop where
  requested : ∀ port, remotePort = some port →
    ((∃ given, ListensOn before after connection given) ↔ Eligible before.registry allowed port) ∧
      ∀ given, ListensOn before after connection given → given = port
  free : remotePort = none → ((∃ given, ListensOn before after connection given) ↔
      ∃ port, Eligible before.registry allowed port) ∧
      ∀ given, ListensOn before after connection given → Eligible before.registry allowed given
  reserved : ∀ given, ListensOn before after connection given →
    after.registry.usedPorts = insert given before.registry.usedPorts ∧
      after.registry.usedLabels = before.registry.usedLabels

/-- The pool's ports are tried in their order. -/
def FirstEligible (registry : TunnelRegistry) (allowed : Option (List UInt16)) (port : UInt16) :
    Prop :=
  Eligible registry allowed port ∧ ∃ front back, registry.portPool.ports = front ++ port :: back ∧
    ∀ earlier ∈ front, ¬ Eligible registry allowed earlier

theorem pickFreePort_eligible (registry : TunnelRegistry) (allowed : Option (List UInt16)) :
    (pickFreePort registry.portPool registry.usedPorts allowed = none ↔
      ∀ port, ¬ Eligible registry allowed port) ∧
    ∀ port, pickFreePort registry.portPool registry.usedPorts allowed = some port ↔
      FirstEligible registry allowed port := by
  obtain ⟨fits, search, picks⟩ : ∃ fits : UInt16 → Bool,
      pickFreePort registry.portPool registry.usedPorts allowed =
        registry.portPool.ports.find? fits ∧
      ∀ port ∈ registry.portPool.ports, fits port = true ↔ Eligible registry allowed port := by
    refine ⟨_, rfl, fun port inPool => ?_⟩
    cases allowed <;> simp [Eligible, inPool]
  have skips : ∀ port ∈ registry.portPool.ports,
      (!fits port) = true ↔ ¬ Eligible registry allowed port := by
    intro port inPool
    rw [← picks port inPool, Bool.not_eq_true', Bool.not_eq_true]
  rw [search]
  refine ⟨?_, fun port => ?_⟩
  · rw [List.find?_eq_none]
    exact ⟨fun none_ port eligible => none_ port eligible.1 ((picks port eligible.1).mpr eligible),
      fun none_ port inPool picked => none_ port ((picks port inPool).mp picked)⟩
  · rw [List.find?_eq_some_iff_append]
    constructor
    · rintro ⟨picked, front, back, pool, skipped⟩
      exact ⟨(picks port (by simp [pool])).mp picked, front, back, pool,
        fun earlier mem => (skips earlier (by simp [pool, mem])).mp (skipped earlier mem)⟩
    · rintro ⟨eligible, front, back, pool, skipped⟩
      exact ⟨(picks port eligible.1).mpr eligible, front, back, pool,
        fun earlier mem => (skips earlier (by simp [pool, mem])).mpr (skipped earlier mem)⟩

theorem serve_ask_bind {α : Type} (choices : Call → Choice) (conn : Connection)
    (server : Server) (call : Call) (after : call.Reply → Relay α) :
    serve choices conn server (ask call >>= after).run =
      (server.answer conn (choices call) call).bind fun answered =>
        serve choices conn answered.2 (after answered.1).run := rfl

theorem serve_bind {α β : Type} (choices : Call → Choice) (conn : Connection) (server : Server)
    (prog : Prog relayInterface α) (next : α → Prog relayInterface β) :
    serve choices conn server (prog.bind next) =
      (serve choices conn server prog).bind fun done => serve choices conn done.2 (next done.1) := by
  induction prog generalizing server with
  | ret => rfl
  | call request rest ih =>
    simp only [Prog.bind, serve, Option.bind_assoc]
    exact congrArg _ (funext fun answered => ih answered.1 answered.2)

section Requests
variable {choices : Call → Choice} (session : Session) (inspect : Bool) (server : Server)

theorem serve_writeFrame (binds : Binds choices) (conn : Connection) (frame : ServerFrame) :
    serve choices conn server (writeFrame frame).run =
      some (.ok (), server.recordSent conn frame) := by
  rw [writeFrame, serve_ask_bind]
  simp only [Server.answer, binds.written]
  rfl

/-- A registration that has its listener. -/
def opened (id : TunnelId) (listener : TcpListener) : Server :=
  let info : TunnelInfo :=
    { id
      owner := session.pubkey
      sessionId := session.sessionId
      kind := .tcp listener.localPort
      state := .live session.connection (some (AbortHandle.mk server.tcpTasks.length))
      tcpListener := some listener
      rate := session.rate
      inspect }
  { server with
    registry := server.registry.insert info
    tcpTasks := server.tcpTasks ++
      [TcpTunnelTask.mk listener session.connection id session.rate inspect] }.recordSent session.connection
    (.tunnelRegistered id
      ("tcp://" ++ session.mode.publicHost ++ ":" ++ portText listener.localPort)
      (some listener.localPort))

theorem serve_openPort (binds : Binds choices) (id : TunnelId) (listener : TcpListener) :
    serve choices session.connection server (session.openPort id listener inspect).run =
      some (.ok (), opened session inspect server id listener) := by
  rw [Session.openPort, serve_ask_bind]
  simp only [Server.answer, binds.addressed]
  exact serve_writeFrame _ binds _ _

/-- Nothing is registered, and the client is told so. -/
def RefusesPort (after : Server) : Prop :=
  ∀ given, ¬ ListensOn server after session.connection given

/-- The tunnel has a listener for this port of the pool. -/
structure OpensPort (port : UInt16) (after : Server) : Prop where
  granted : ∃ given, given ≠ 0 ∧ (port = 0 ∨ given = port) ∧
    ∀ other, ListensOn server after session.connection other ↔ other = given
  ports : after.registry.usedPorts = insert port server.registry.usedPorts
  labels : after.registry.usedLabels = server.registry.usedLabels

theorem refuses_reject (code : ErrorCode) (detail : String) :
    RefusesPort session server (server.recordSent session.connection (.tunnelRejected code detail)) := by
  rintro given ⟨id, url, info, listener, sent, _⟩
  simp [Server.recordSent] at sent

theorem serve_claimPort (binds : Binds choices) :
    ∃ after, serve choices session.connection server (session.claimPort inspect).run =
        some (.ok (), after) ∧
      match pickFreePort server.registry.portPool server.registry.usedPorts
        session.entry.allowedPorts with
      | none => RefusesPort session server after
      | some port => OpensPort session server port after := by
  rw [Session.claimPort, serve_ask_bind]
  simp only [Server.answer, TunnelRegistry.allocateTcp]
  cases pickFreePort server.registry.portPool server.registry.usedPorts
    session.entry.allowedPorts with
  | none => exact ⟨_, serve_writeFrame _ binds _ _, refuses_reject session server _ _⟩
  | some port =>
    obtain ⟨listener, bound, nonzero, fits⟩ := binds.bound port
    simp only [TunnelRegistry.freshId, Option.bind_some]
    rw [serve_ask_bind]
    simp only [Server.answer, bound, if_pos fits, Option.bind_some]
    refine ⟨_, serve_openPort session inspect _ binds _ listener, ⟨listener.localPort, nonzero, fits,
      fun other => ⟨?_, ?_⟩⟩, rfl, rfl⟩
    · rintro ⟨id, url, info, _, sent, _⟩
      simp [opened, Server.recordSent] at sent
      exact sent.2.2.symm
    · rintro rfl
      refine ⟨_, _, _, listener, Function.update_self _ _ _, AList.lookup_insert _, rfl, rfl⟩

/-- The identity has a list and the requested port is not on it. -/
def Unlisted (allowed : Option (List UInt16)) (remotePort : Option UInt16) : Prop :=
  ∃ port list, remotePort = some port ∧ allowed = some list ∧ port ∉ list

theorem serve_registerTcp (binds : Binds choices) (remotePort : Option UInt16) :
    ∃ after, serve choices session.connection server (session.registerTcp remotePort inspect).run =
        some (.ok (), after) ∧
      (Unlisted session.entry.allowedPorts remotePort → RefusesPort session server after) ∧
      (¬ Unlisted session.entry.allowedPorts remotePort →
        match pickFreePort server.registry.portPool server.registry.usedPorts
          session.entry.allowedPorts with
        | none => RefusesPort session server after
        | some port => OpensPort session server port after) := by
  have claimed := serve_claimPort session inspect server binds
  unfold Session.registerTcp
  split
  · rename_i port list allowed
    split
    · rename_i unlisted
      have absent : port ∉ list := by simpa using unlisted
      exact ⟨_, serve_writeFrame _ binds _ _, fun _ => refuses_reject session server _ _,
        fun listed => absurd ⟨port, list, rfl, allowed, absent⟩ listed⟩
    · rename_i listed
      obtain ⟨after, served, outcome⟩ := claimed
      refine ⟨after, served, ?_, fun _ => outcome⟩
      rintro ⟨_, _, ⟨⟩, same, absent⟩
      cases allowed.symm.trans same
      exact absurd absent (by simpa using listed)
  · rename_i open_
    obtain ⟨after, served, outcome⟩ := claimed
    refine ⟨after, served, ?_, fun _ => outcome⟩
    rintro ⟨port, list, asked, allowed, _⟩
    exact absurd allowed (open_ port list asked)

/-- The identity has as many tunnels as its entry allows. -/
def AtCap : Prop :=
  ∃ cap, session.entry.maxConns = some cap ∧ cap.toNat ≤ server.registry.countOwnedBy session.pubkey

theorem serve_registerTunnel (binds : Binds choices) (label : String) (remotePort : Option UInt16) :
    ∃ after, serve choices session.connection server
        (session.dispatch (.registerTunnel label (.tcp remotePort) none inspect)).run =
        some (.ok .continue, after) ∧
      (AtCap session server → RefusesPort session server after) ∧
      (¬ AtCap session server → Unlisted session.entry.allowedPorts remotePort →
        RefusesPort session server after) ∧
      (¬ AtCap session server → ¬ Unlisted session.entry.allowedPorts remotePort →
        match pickFreePort server.registry.portPool server.registry.usedPorts
          session.entry.allowedPorts with
        | none => RefusesPort session server after
        | some port => OpensPort session server port after) := by
  obtain ⟨after, served, refused, claimed⟩ :=
    serve_registerTcp session inspect server binds remotePort
  have dispatched : ∀ {done : Server}, serve choices session.connection server
      (session.registerFresh label (.tcp remotePort) inspect).run = some (.ok (), done) →
      serve choices session.connection server
        (session.dispatch (.registerTunnel label (.tcp remotePort) none inspect)).run =
        some (.ok .continue, done) := by
    intro done registered
    refine (serve_bind _ _ _ (session.registerFresh label (.tcp remotePort) inspect).run _).trans ?_
    rw [registered]
    rfl
  cases capped : session.entry.maxConns with
  | none =>
    have free : ¬ AtCap session server := by
      rintro ⟨cap, same, _⟩
      cases capped.symm.trans same
    refine ⟨after, dispatched ?_, fun cap => absurd cap free, fun _ => refused, fun _ => claimed⟩
    rw [Session.registerFresh, capped]
    exact served
  | some cap =>
    have counted : serve choices session.connection server
          (session.registerFresh label (.tcp remotePort) inspect).run =
        serve choices session.connection server
          (if cap.toNat ≤ server.registry.countOwnedBy session.pubkey then
            reject .tunnelLimitExceeded (toString (server.registry.countOwnedBy session.pubkey) ++
              "/" ++ toString cap.toNat ++ " concurrent tunnels")
          else session.registerTcp remotePort inspect : Relay Unit).run := by
      rw [Session.registerFresh, capped]
      rfl
    by_cases full : cap.toNat ≤ server.registry.countOwnedBy session.pubkey
    · have atCap : AtCap session server := ⟨cap, capped, full⟩
      rw [if_pos full] at counted
      exact ⟨_, dispatched (counted.trans (serve_writeFrame _ binds _ _)),
        fun _ => refuses_reject session server _ _, fun below => absurd atCap below,
        fun below => absurd atCap below⟩
    · have free : ¬ AtCap session server := by
        rintro ⟨_, same, reached⟩
        cases capped.symm.trans same
        exact full reached
      rw [if_neg full] at counted
      exact ⟨after, dispatched (counted.trans served), fun cap => absurd cap free, fun _ => refused,
        fun _ => claimed⟩

/-- What a refusal keeps of the promise: no port was due. -/
theorem promise_of_refused {session : Session} {server after : Server}
    (refused : RefusesPort session server after) (allowed : Option (List UInt16))
    (remotePort : Option UInt16) : PortPromise server after session.connection allowed remotePort ↔
      ∀ port, Eligible server.registry allowed port → ∃ asked, remotePort = some asked ∧ asked ≠ port := by
  have nowhere : ¬ ∃ given, ListensOn server after session.connection given :=
    fun ⟨given, granted⟩ => refused given granted
  constructor
  · intro promise port eligible
    cases remotePort with
    | none => exact absurd ((promise.free rfl).1.mpr ⟨port, eligible⟩) nowhere
    | some asked =>
      refine ⟨asked, rfl, ?_⟩
      rintro rfl
      exact nowhere ((promise.requested asked rfl).1.mpr eligible)
  · intro due
    refine ⟨fun port asked => ⟨iff_of_false nowhere fun eligible => ?_, ?_⟩,
      fun free => ⟨iff_of_false nowhere ?_, ?_⟩, fun given granted => absurd granted (refused given)⟩
    · obtain ⟨_, same, other⟩ := due port eligible
      exact other (Option.some.inj (same.symm.trans asked))
    · exact fun given granted => absurd granted (refused given)
    · rintro ⟨port, eligible⟩
      obtain ⟨_, asked, _⟩ := due port eligible
      cases free.symm.trans asked
    · exact fun given granted => absurd granted (refused given)

/-- A granted port is the promised one if it can be listened on and is the one asked for. -/
theorem promise_of_granted {session : Session} {server after : Server} {port : UInt16}
    (opens : OpensPort session server port after) {allowed : Option (List UInt16)}
    (eligible : Eligible server.registry allowed port) (remotePort : Option UInt16) :
    PortPromise server after session.connection allowed remotePort ↔
      port ≠ 0 ∧ ∀ asked, remotePort = some asked → port = asked := by
  obtain ⟨⟨given, nonzero, fits, granted⟩, ports, labels⟩ := opens
  have here := (granted given).mpr rfl
  constructor
  · intro promise
    have possible : port ≠ 0 := by
      rintro rfl
      have zero : (0 : UInt16) ∈ insert given server.registry.usedPorts := by
        rw [← (promise.reserved given here).1, ports]
        exact Finset.mem_insert_self _ _
      rcases Finset.mem_insert.mp zero with same | used
      · exact nonzero same.symm
      · exact eligible.2.1 used
    obtain rfl := fits.resolve_left possible
    exact ⟨possible, fun asked requested => (promise.requested asked requested).2 _ here⟩
  · rintro ⟨possible, asked⟩
    obtain rfl := fits.resolve_left possible
    refine ⟨fun requested same => ?_, fun _ => ⟨iff_of_true ⟨_, here⟩ ⟨_, eligible⟩, ?_⟩, ?_⟩
    · obtain rfl := asked requested same
      exact ⟨iff_of_true ⟨_, here⟩ eligible, fun other given => (granted other).mp given⟩
    · intro other given
      rwa [(granted other).mp given]
    · intro other given
      rw [(granted other).mp given]
      exact ⟨ports, labels⟩

/-- A request gets what it may expect exactly when no port is due to an identity at its cap,
or below the cap it is turned away for its list, or the first port that is free and listed can
be listened on and is the one asked for, if one was. -/
theorem tcp_port_promise_iff (binds : Binds choices) (label : String) (remotePort : Option UInt16) :
    ∃ after, serve choices session.connection server
        (session.dispatch (.registerTunnel label (.tcp remotePort) none inspect)).run =
        some (.ok .continue, after) ∧
      (PortPromise server after session.connection session.entry.allowedPorts remotePort ↔
        AtCap session server ∧ (∀ port, Eligible server.registry session.entry.allowedPorts port →
            ∃ asked, remotePort = some asked ∧ asked ≠ port) ∨
          ¬ AtCap session server ∧ (Unlisted session.entry.allowedPorts remotePort ∨
            ∀ port, FirstEligible server.registry session.entry.allowedPorts port →
              port ≠ 0 ∧ ∀ asked, remotePort = some asked → port = asked)) := by
  obtain ⟨after, served, capped, refused, claimed⟩ :=
    serve_registerTunnel session inspect server binds label remotePort
  refine ⟨after, served, ?_⟩
  obtain ⟨none_iff, first_iff⟩ := pickFreePort_eligible server.registry session.entry.allowedPorts
  by_cases atCap : AtCap session server
  · simp only [atCap, true_and, not_true_eq_false, false_and, or_false]
    exact promise_of_refused (capped atCap) _ _
  · simp only [atCap, false_and, not_false_eq_true, true_and, false_or, ← first_iff]
    by_cases unlisted : Unlisted session.entry.allowedPorts remotePort
    · rw [promise_of_refused (refused atCap unlisted)]
      obtain ⟨asked, list, same, allowed, absent⟩ := id unlisted
      refine iff_of_true (fun port eligible => ⟨asked, same, ?_⟩) (.inl unlisted)
      rintro rfl
      exact absent (eligible.2.2 list allowed)
    · have outcome := claimed atCap unlisted
      cases picked : pickFreePort server.registry.portPool server.registry.usedPorts
          session.entry.allowedPorts with
      | none =>
        rw [picked] at outcome
        rw [promise_of_refused outcome]
        exact iff_of_true (fun port eligible => absurd eligible (none_iff.mp picked port))
          (.inr (by nofun))
      | some port =>
        rw [picked] at outcome
        rw [promise_of_granted outcome ((first_iff port).mp picked).1, or_iff_right unlisted]
        exact ⟨by rintro fine _ ⟨⟩; exact fine, fun fine => fine port rfl⟩

end Requests
/-- Every port can be bound; port 0 gives port 1. -/
def anyPort : Call → Choice
  | .bind port => { bound := .ok ⟨0, if port = 0 then 1 else port⟩ }
  | _ => {}

theorem binds_anyPort : Binds anyPort where
  bound port := ⟨_, rfl, by by_cases zero : port = 0 <;> simp [zero]⟩
  addressed _ := rfl
  written _ := rfl

/-- dave, whose entry has no `ports=` list, at a relay with ports 7000 and 7001. -/
def daveSession : Session :=
  ⟨dave, ⟨.replicate 16 1⟩, ⟨0⟩, .domain "relay.example", anyHttp, ⟨0⟩⟩

theorem tcp_port_promise_unrequested : ∃ after, serve anyPort ⟨0⟩ smallRelay
      (daveSession.dispatch (.registerTunnel "" (.tcp none) none false)).run =
        some (.ok .continue, after) ∧ PortPromise smallRelay after ⟨0⟩ none none := by
  obtain ⟨after, served, promise⟩ :=
    tcp_port_promise_iff daveSession false smallRelay binds_anyPort "" none
  refine ⟨after, served, promise.mpr (.inr ⟨?_, .inr fun port first => ⟨?_, nofun⟩⟩)⟩
  · rintro ⟨_, ⟨⟩, _⟩
  · rintro rfl
    exact absurd first.1.1 (by decide)

/-- Port 7001 is asked for, free and allowed; the tunnel listens on 7000. -/
theorem requested_port_ignored : Eligible smallRelay.registry none 7001 ∧
    ∃ after, serve anyPort ⟨0⟩ smallRelay (daveSession.registerTcp (some 7001) false).run =
        some (.ok (), after) ∧ ListensOn smallRelay after ⟨0⟩ 7000 ∧
      ¬ PortPromise smallRelay after ⟨0⟩ none (some 7001) := by
  refine ⟨⟨by decide, by decide, nofun⟩, ?_⟩
  obtain ⟨after, served, _, claimed⟩ :=
    serve_registerTcp daveSession false smallRelay binds_anyPort (some 7001)
  obtain ⟨given, _, fits, granted⟩ := (claimed (by rintro ⟨_, _, _, ⟨⟩, _⟩)).granted
  obtain rfl : given = 7000 := fits.resolve_left (by decide)
  have here := (granted 7000).mpr rfl
  refine ⟨after, served, here, fun promise => ?_⟩
  exact absurd ((promise.requested 7001 rfl).2 7000 here) (by decide)

end KrotRelay.Guarantees
