import KrotRelay.Source.Reservations
import KrotRelay.Source.Server

/-!
What one event can do to the relay. Results about runs take the step function apart through
`step_cases`, or `step_move` where only tasks and registry matter, and the answer to a call
through `answer_cases`.
-/
namespace KrotRelay.Source
open Function (update update_self update_of_ne)
namespace Server

variable {server next middle : Server} {event : Event} {call : Call} {choice : Choice}
  {connection : Connection}

/-- Everything an event can do, with the task it found. -/
inductive Stepped (server : Server) : Event → Server → Prop where
  | ticked (elapsed) : Stepped server (.tick elapsed) { server with now := server.now + elapsed }
  | accepted (connection : Connection) (task : server.tasks connection = .absent) :
      Stepped server (.accept connection)
        (server.setTask connection (afterHandshake (perform server.config.external).run))
  | greeted (connection choice request rest reply middle)
      (task : server.tasks connection = .handshaking (.call request rest))
      (answered : server.answer connection choice request = some (reply, middle)) :
      Stepped server (.call connection choice)
        (middle.setTask connection (afterHandshake (rest reply)))
  | dispatched (connection choice session frame request rest reply middle)
      (task : server.tasks connection = .dispatching session frame (.call request rest))
      (answered : server.answer connection choice request = some (reply, middle)) :
      Stepped server (.call connection choice)
        (middle.setTask connection (afterDispatch session frame (rest reply)))
  | timedOut (connection program) (task : server.tasks connection = .handshaking program) :
      Stepped server (.timeout connection) (server.setTask connection .closed)
  | started (connection ok) (task : server.tasks connection = .authenticated ok) :
      Stepped server (.subscribe connection) (server.startSession connection ok)
  | begun (connection frame session) (task : server.tasks connection = .running session)
      (unwatched : (server.shutdown || server.isRevoked connection) = false) :
      Stepped server (.frame connection frame)
        (server.setTask connection (afterDispatch session frame (session.dispatch frame).run))
  | dropped (connection session) (task : server.tasks connection = .running session)
      (unwatched : (server.shutdown || server.isRevoked connection) = false) :
      Stepped server (.readError connection)
        (server.setTask connection (.ended session (.ok .dropped)))
  | sawShutdown (connection written session)
      (task : server.tasks connection = .running session) (watched : server.shutdown = true) :
      Stepped server (.sawShutdown connection written)
        (server.terminate session connection .serverShutdown written)
  | sawRevoked (connection written session) (task : server.tasks connection = .running session)
      (watched : (!server.shutdown && server.isRevoked connection) = true) :
      Stepped server (.sawRevoked connection written)
        (server.terminate session connection .keyRevoked written)
  | cleaned (connection session result) (task : server.tasks connection = .ended session result) :
      Stepped server (.cleanup connection)
        ({ server with registry := server.disposeTunnels session.pubkey result }.setTask
          connection .closed)
  | polled (connection watcher polled) (watches : server.watchers connection = some watcher)
      (moved : watcher.poll server.keys = some polled) :
      Stepped server (.poll connection)
        { server with watchers := update server.watchers connection (some polled) }
  | reaped : Stepped server .reapExpired
        { server with registry := (server.registry.reapExpired server.now).2 }
  | shutDown : Stepped server .shutdown { server with shutdown := true }
  | peersSet (peers) : Stepped server (.setPeers peers) { server with peers := peers }
  | reloaded (updated removedOrder modifiedOrder) :
      Stepped server (.reload updated removedOrder modifiedOrder) { server with
          keys := (server.keys.reload updated removedOrder modifiedOrder).2
          announcing :=
            server.announcing ++ [(server.keys.reload updated removedOrder modifiedOrder).1] }
  | announced (reload pubkey rest) (pending : server.announcing[reload]? = some (pubkey :: rest)) :
      Stepped server (.announce reload) { server with
          keys := server.keys.send pubkey
          announcing := server.announcing.set reload rest }

theorem step_cases (stepped : server.step event = some next) : Stepped server event next := by
  cases event with
  | tick | reapExpired | shutdown | setPeers | reload =>
    cases stepped
    constructor
  | accept | timeout | subscribe | cleanup | announce =>
    simp only [step] at stepped
    split at stepped <;> cases stepped
    constructor
    assumption
  | call conn choice =>
    simp only [step] at stepped
    split at stepped
    · obtain ⟨⟨reply, middle⟩, answered, rfl⟩ := Option.map_eq_some_iff.mp stepped
      exact .greeted conn choice _ _ reply middle ‹_› answered
    · obtain ⟨⟨reply, middle⟩, answered, rfl⟩ := Option.map_eq_some_iff.mp stepped
      exact .dispatched conn choice _ _ _ _ reply middle ‹_› answered
    · cases stepped
  | frame | readError =>
    simp only [step] at stepped
    split at stepped
    · split at stepped <;> cases stepped
      constructor
      · assumption
      · exact Bool.eq_false_iff.mpr ‹_›
    · cases stepped
  | sawShutdown | sawRevoked =>
    simp only [step] at stepped
    split at stepped
    · split at stepped <;> cases stepped
      constructor <;> assumption
    · cases stepped
  | poll =>
    simp only [step] at stepped
    split at stepped
    · cases stepped
    · obtain ⟨polled, moved, rfl⟩ := Option.map_eq_some_iff.mp stepped
      exact .polled _ _ polled ‹_› moved

/-- The transitions of one task that involve no call. -/
inductive Turn (config : Config) (connection : Connection) : Task → Task → Prop where
  | stay (task) : Turn config connection task task
  | accepted : Turn config connection .absent (afterHandshake (perform config.external).run)
  | timedOut (program) : Turn config connection (.handshaking program) .closed
  | started (ok rate) : Turn config connection (.authenticated ok)
        (.running ⟨ok.pubkey, ok.sessionId, connection, config.mode, ok.entry, rate⟩)
  | stopped (session outcome) :
      Turn config connection (.running session) (.ended session (.ok outcome))

/-- Events that answer no call, dispatch nothing and do not touch registry or clock. -/
def isQuiet : Event → Bool
  | .tick _ | .call _ _ | .frame _ _ | .cleanup _ | .reapExpired => false
  | .accept _ | .timeout _ | .subscribe _ | .readError _ | .sawShutdown _ _ | .sawRevoked _ _
  | .poll _ | .shutdown | .setPeers _ | .reload _ _ _ | .announce _ => true

inductive Move (server : Server) : Event → Server → Prop where
  /-- nothing happens to the registry; at most one task takes a turn -/
  | quiet (event : Event) (next : Server) (connection : Connection) (task : Task)
      (silent : isQuiet event = true)
      (turn : Turn server.config connection (server.tasks connection) task)
      (tasks : next.tasks = update server.tasks connection task)
      (registry : next.registry = server.registry) (config : next.config = server.config)
      (now : next.now = server.now) (allocated : next.allocated = server.allocated) :
      Move server event next
  | ticked (elapsed) : Move server (.tick elapsed) { server with now := server.now + elapsed }
  | reaped :
      Move server .reapExpired { server with registry := (server.registry.reapExpired server.now).2 }
  /-- a handshake makes its next call -/
  | greeted (connection choice request rest reply middle)
      (task : server.tasks connection = .handshaking (.call request rest))
      (answered : server.answer connection choice request = some (reply, middle)) :
      Move server (.call connection choice)
        (middle.setTask connection (afterHandshake (rest reply)))
  | begun (connection session frame) (task : server.tasks connection = .running session) :
      Move server (.frame connection frame)
        (server.setTask connection (afterDispatch session frame (session.dispatch frame).run))
  /-- a dispatch makes its next call -/
  | answered (connection choice session frame request rest reply middle)
      (task : server.tasks connection = .dispatching session frame (.call request rest))
      (answered : server.answer connection choice request = some (reply, middle)) :
      Move server (.call connection choice)
        (middle.setTask connection (afterDispatch session frame (rest reply)))
  | cleaned (connection session result) (task : server.tasks connection = .ended session result) :
      Move server (.cleanup connection)
        ({ server with registry := server.disposeTunnels session.pubkey result }.setTask
          connection .closed)

theorem startSession_tasks (server : Server) (conn : Connection) (ok : HandshakeOk) :
    ∃ rate, (server.startSession conn ok).tasks = update server.tasks conn
      (.running ⟨ok.pubkey, ok.sessionId, conn, server.config.mode, ok.entry, rate⟩) ∧
    (server.startSession conn ok).registry = server.registry ∧
    (server.startSession conn ok).config = server.config ∧
    (server.startSession conn ok).now = server.now ∧
    (server.startSession conn ok).allocated = server.allocated := by
  simp only [startSession, ensureRateState]
  cases server.rates.lookup ok.pubkey with
  | some rate => exact ⟨rate, rfl, rfl, rfl, rfl, rfl⟩
  | none => exact ⟨_, rfl, rfl, rfl, rfl, rfl⟩

/-- Subscription comes first: the new watcher sees what is sent from now on. -/
theorem startSession_index (server : Server) (conn : Connection) (ok : HandshakeOk) :
    (server.startSession conn ok).keys = server.keys ∧
    (server.startSession conn ok).announcing = server.announcing ∧
    (server.startSession conn ok).fetched = server.fetched ∧
    (server.startSession conn ok).watchers = update server.watchers conn
      (some (.spawn server.keys ok.pubkey)) := by
  simp only [startSession, ensureRateState]
  cases server.rates.lookup ok.pubkey with
  | some | none => exact ⟨rfl, rfl, rfl, rfl⟩

/-- An event after which every task is where it was. -/
theorem move_background
    (silent : isQuiet event = true) (tasks : next.tasks = server.tasks) (registry : next.registry = server.registry)
    (config : next.config = server.config) (now : next.now = server.now)
    (allocated : next.allocated = server.allocated) : Move server event next := by
  refine .quiet event next ⟨0⟩ (server.tasks ⟨0⟩) silent (.stay _) ?_ registry config now allocated
  rw [tasks, Function.update_eq_self]

theorem move_terminate (code : ErrorCode) (written : Bool)
    (silent : isQuiet event = true) (task : server.tasks conn = .running session) :
    Move server event (server.terminate session conn code written) := by
  refine .quiet event _ conn (.ended session (.ok .terminal)) silent ?_ ?_ ?_ ?_ ?_ ?_
  · rw [task]
    exact .stopped session .terminal
  all_goals cases written <;> rfl

theorem step_move (server next : Server) (event : Event) (step : server.step event = some next) :
    Move server event next := by
  cases step_cases step with
  | ticked elapsed => exact .ticked elapsed
  | accepted conn task =>
    exact .quiet _ _ conn _ rfl (task ▸ .accepted) rfl rfl rfl rfl rfl
  | greeted conn choice request rest reply middle task answered =>
    exact .greeted conn choice request rest reply middle task answered
  | dispatched conn choice session frame request rest reply middle task answered =>
    exact .answered conn choice session frame request rest reply middle task answered
  | timedOut conn prog task =>
    exact .quiet _ _ conn _ rfl (task ▸ .timedOut prog) rfl rfl rfl rfl rfl
  | started conn ok task =>
    obtain ⟨rate, tasks, registry, config, now, allocated⟩ := server.startSession_tasks conn ok
    exact .quiet _ _ conn _ rfl (task ▸ .started ok rate) tasks registry config now allocated
  | begun conn frame session task => exact .begun conn session frame task
  | dropped conn session task =>
    exact .quiet _ _ conn _ rfl (task ▸ .stopped session .dropped) rfl rfl rfl rfl rfl
  | sawShutdown conn written session task | sawRevoked conn written session task =>
    exact move_terminate _ written rfl task
  | cleaned conn session result task => exact .cleaned conn session result task
  | reaped => exact .reaped
  | polled | shutDown | peersSet | reloaded | announced =>
    exact move_background rfl rfl rfl rfl rfl rfl

/-- Only a call spawns a listener task. -/
theorem step_tcpTasks (silent : isQuiet event = true) (step : server.step event = some next) :
    next.tcpTasks = server.tcpTasks := by
  cases step_cases step with
  | ticked | greeted | dispatched | begun | cleaned | reaped => cases silent
  | started =>
    simp only [startSession, ensureRateState]
    split <;> rfl
  | sawShutdown _ written | sawRevoked _ written => cases written <;> rfl
  | _ => rfl

section Tasks

@[simp] theorem setTask_tasks (server : Server) (conn : Connection) (task : Task) :
    (server.setTask conn task).tasks = update server.tasks conn task := rfl

@[simp] theorem setTask_registry (server : Server) (conn : Connection) (task : Task) :
    (server.setTask conn task).registry = server.registry := rfl

@[simp] theorem setTask_allocated (server : Server) (conn : Connection) (task : Task) :
    (server.setTask conn task).allocated = server.allocated := rfl

@[simp] theorem setTask_tcpTasks (server : Server) (conn : Connection) (task : Task) :
    (server.setTask conn task).tcpTasks = server.tcpTasks := rfl

@[simp] theorem recordSent_sent (server : Server) (conn : Connection) (frame : ServerFrame) :
    (server.recordSent conn frame).sent conn = server.sent conn ++ [frame] :=
  update_self ..

theorem afterHandshake_session? (prog) : (afterHandshake prog).session? = none := by
  unfold afterHandshake
  split <;> rfl

theorem afterHandshake_ne_absent (prog) : afterHandshake prog ≠ .absent := by
  unfold afterHandshake
  split <;> nofun

theorem afterHandshake_handshaking {prog program'}
    (still : afterHandshake prog = .handshaking program') : prog = program' := by
  unfold afterHandshake at still
  split at still <;> cases still
  rfl

theorem afterHandshake_authenticated {prog ok}
    (done : afterHandshake prog = .authenticated ok) : prog = .ret (.ok (.auth ok)) := by
  unfold afterHandshake at done
  split at done <;> cases done
  rfl

@[simp] theorem afterDispatch_session? (session : Session) (frame : ClientFrame) (prog) :
    (afterDispatch session frame prog).session? = some session := by
  unfold afterDispatch
  split <;> rfl

theorem afterDispatch_dispatching {session session' : Session} {frame frame' : ClientFrame}
    {prog program'}
    (still : afterDispatch session frame prog = .dispatching session' frame' program') :
    session = session' ∧ frame = frame' ∧ prog = program' := by
  unfold afterDispatch at still
  split at still <;> cases still
  exact ⟨rfl, rfl, rfl⟩

end Tasks

/-- The calls that read the relay or ask the environment, and change nothing. -/
def isQuestion : Call → Bool
  | .countOwnedBy _ | .consume _ | .peersSnapshot | .findOwner _ _ | .readKind | .readFrame
  | .freshNonce | .freshSessionId | .nowUtc => true
  | _ => false

/-- Everything the answer to a call can be, with what it does to the relay. -/
inductive Answered (server : Server) (connection : Connection) (choice : Choice) :
    (call : Call) → call.Reply → Server → Prop where
  | question (call reply) (asks : isQuestion call = true) :
      Answered server connection choice call reply server
  | resumed (label sessionId pubkey attached) :
      Answered server connection choice (.tryResume label sessionId pubkey attached)
        (server.registry.tryResume choice.order label sessionId pubkey attached).1
        { server with
          registry := (server.registry.tryResume choice.order label sessionId pubkey attached).2 }
  | grantedHttp (label id registry)
      (result : server.registry.allocateHttp label = (.ok id, registry)) :
      Answered server connection choice (.allocateHttp label) (.ok id)
        { server with registry := registry, allocated := server.allocated + 1 }
  | refusedHttp (label problem)
      (result : server.registry.allocateHttp label = (.error problem, server.registry)) :
      Answered server connection choice (.allocateHttp label) (.error problem) server
  | grantedTcp (allowlist id port registry)
      (result : server.registry.allocateTcp allowlist = (.ok (id, port), registry)) :
      Answered server connection choice (.allocateTcp allowlist) (.ok (id, port))
        { server with registry := registry, allocated := server.allocated + 1 }
  | refusedTcp (allowlist problem)
      (result : server.registry.allocateTcp allowlist = (.error problem, server.registry)) :
      Answered server connection choice (.allocateTcp allowlist) (.error problem) server
  | inserted (info) : Answered server connection choice (.insert info) ()
        { server with registry := server.registry.insert info }
  | removed (id) : Answered server connection choice (.remove id) ()
        { server with registry := server.registry.remove id }
  | handled (id newAbort) : Answered server connection choice (.setTcpAbort id newAbort) ()
        { server with registry := server.registry.setTcpAbort id newAbort }
  | fetched (pubkey) : Answered server connection choice (.keysGet pubkey) (server.keys.get pubkey)
        { server with
          fetched := update server.fetched connection
            ((server.keys.get pubkey).map fun found => (pubkey, found)) }
  | appended (line stored pubkey entry) (parsed : choice.appended = .ok (stored, pubkey, entry)) :
      Answered server connection choice (.appendLine line) (.ok stored)
        { server with keys := server.keys.appendEntry pubkey entry }
  | unparsed (line detail) (failed : choice.appended = .error detail) :
      Answered server connection choice (.appendLine line) (.error detail) server
  | written (frame) : Answered server connection choice (.writeFrame frame) (.ok ())
        (server.recordSent connection frame)
  | unwritten (frame detail) :
      Answered server connection choice (.writeFrame frame) (.error detail) server
  | bound (port listener) (opened : choice.bound = .ok listener)
      (fits : port = 0 ∨ listener.localPort = port) :
      Answered server connection choice (.bind port) (.ok listener) server
  | unbound (port detail) (failed : choice.bound = .error detail) :
      Answered server connection choice (.bind port) (.error detail) server
  | located (listener) (told : choice.localAddr = .ok ()) :
      Answered server connection choice (.localAddr listener) (.ok listener.localPort) server
  | unlocated (listener detail) (failed : choice.localAddr = .error detail) :
      Answered server connection choice (.localAddr listener) (.error detail) server
  | spawned (listener attached tunnelId rate inspect) :
      Answered server connection choice (.spawnTcpTunnel listener attached tunnelId rate inspect)
        ⟨server.tcpTasks.length⟩
        { server with
          tcpTasks := server.tcpTasks ++ [⟨listener, attached, tunnelId, rate, inspect⟩] }

theorem answer_cases {reply : call.Reply}
    (answered : server.answer conn choice call = some (reply, middle)) :
    Answered server conn choice call reply middle := by
  cases call
  case tryResume label sessionId pubkey attached =>
    cases answered
    exact .resumed label sessionId pubkey attached
  case allocateHttp label =>
    simp only [answer] at answered
    split at answered <;> rename_i result <;> cases answered
    · exact .grantedHttp label _ _ result
    · cases TunnelRegistry.allocateHttp_error _ _ _ _ result
      exact .refusedHttp label _ result
  case allocateTcp allowlist =>
    simp only [answer] at answered
    split at answered <;> rename_i result <;> cases answered
    · exact .grantedTcp allowlist _ _ _ result
    · cases TunnelRegistry.allocateTcp_error _ _ _ _ result
      exact .refusedTcp allowlist _ result
  case insert info =>
    cases answered
    exact .inserted info
  case remove id =>
    cases answered
    exact .removed id
  case setTcpAbort id newAbort =>
    cases answered
    exact .handled id newAbort
  case keysGet pubkey =>
    cases answered
    exact .fetched pubkey
  case appendLine line =>
    simp only [answer] at answered
    split at answered <;> rename_i result <;> cases answered
    · exact .unparsed line _ result
    · exact .appended line _ _ _ result
  case writeFrame frame =>
    simp only [answer] at answered
    split at answered <;> cases answered
    · exact .written frame
    · exact .unwritten frame _
  case bind port =>
    simp only [answer] at answered
    split at answered <;> rename_i result
    · split at answered <;> rename_i fits <;> cases answered
      exact .bound port _ result fits
    · cases answered
      exact .unbound port _ result
  case localAddr listener =>
    simp only [answer] at answered
    cases told : choice.localAddr with
    | ok =>
      rw [told] at answered
      cases answered
      exact .located listener told
    | error detail =>
      rw [told] at answered
      cases answered
      exact .unlocated listener detail told
  case spawnTcpTunnel listener attached tunnelId rate inspect =>
    cases answered
    exact .spawned listener attached tunnelId rate inspect
  all_goals
    cases answered
    exact .question _ _ rfl

/-- Answering a call touches neither the tasks nor the configuration nor the clock. -/
theorem answer_frame {reply : call.Reply}
    (answered : server.answer conn choice call = some (reply, middle)) :
    middle.tasks = server.tasks ∧ middle.config = server.config ∧ middle.now = server.now := by
  cases answer_cases answered <;> exact ⟨rfl, rfl, rfl⟩

/-- The clock never goes back. -/
theorem step_now_le (step : server.step event = some next) : server.now ≤ next.now := by
  cases step_move server next event step with
  | quiet _ _ _ _ _ _ _ _ _ now => exact Nat.le_of_eq now.symm
  | ticked => exact Nat.le_add_right _ _
  | reaped | begun | cleaned => exact Nat.le_refl _
  | greeted _ _ _ _ _ _ _ answered => exact Nat.le_of_eq (answer_frame answered).2.2.symm
  | answered _ _ _ _ _ _ _ _ _ answered => exact Nat.le_of_eq (answer_frame answered).2.2.symm

/-- An event leaves the tasks of all other connections alone. -/
theorem step_tasks_other (step : server.step event = some next) (other : Connection)
    (elsewhere : event.connection? ≠ some other) : next.tasks other = server.tasks other := by
  have moved : ∀ (middle : Server) (conn : Connection) (task : Task),
      middle.tasks = server.tasks → some conn ≠ some other →
      (middle.setTask conn task).tasks other = server.tasks other := by
    intro middle conn task same different
    rw [setTask_tasks, same, update_of_ne]
    exact fun equal => different (congrArg some equal.symm)
  cases step_cases step with
  | accepted | timedOut | cleaned | begun | dropped => exact moved _ _ _ rfl elsewhere
  | greeted _ _ _ _ _ _ _ answered => exact moved _ _ _ (answer_frame answered).1 elsewhere
  | dispatched _ _ _ _ _ _ _ _ _ answered => exact moved _ _ _ (answer_frame answered).1 elsewhere
  | started conn ok =>
    obtain ⟨rate, tasks, _⟩ := server.startSession_tasks conn ok
    rw [tasks, update_of_ne]
    exact fun equal => elsewhere (congrArg some equal.symm)
  | sawShutdown _ written | sawRevoked _ written =>
    cases written <;> exact moved _ _ _ rfl elsewhere
  | _ => rfl

theorem run_tasks_other (first last : Server) (events : List Event)
    (ran : Lib.run step first events = some last) (other : Connection)
    (elsewhere : ∀ event ∈ events, event.connection? ≠ some other) :
    last.tasks other = first.tasks other := by
  induction events generalizing first with
  | nil =>
    simp only [Lib.run_nil, Option.some.injEq] at ran
    rw [ran]
  | cons event _ ih =>
    obtain ⟨next, stepped, ran⟩ := (Lib.run_cons _ _ _ _ _).mp ran
    rw [ih next ran fun later mem => elsewhere later (List.mem_cons_of_mem _ mem)]
    exact step_tasks_other stepped other (elsewhere event List.mem_cons_self)

/-- Only the start of a session looks at the table of rate states. -/
theorem step_rates (other : ∀ conn, event ≠ .subscribe conn)
    (step : server.step event = some next) : next.rates = server.rates := by
  cases step_cases step with
  | started conn => exact absurd rfl (other conn)
  | greeted _ _ _ _ _ _ _ answered => cases answer_cases answered <;> rfl
  | dispatched _ _ _ _ _ _ _ _ _ answered => cases answer_cases answered <;> rfl
  | sawShutdown _ written | sawRevoked _ written => cases written <;> rfl
  | _ => rfl

/-- Sessions begin with `subscribe` and with nothing else. -/
theorem step_session (other : ∀ conn, event ≠ .subscribe conn)
    (step : server.step event = some next) (conn : Connection) (session : Session)
    (running : (next.tasks conn).session? = some session) :
    (server.tasks conn).session? = some session := by
  have updated : ∀ (moved : Connection) (task : Task),
      (task.session? = some session → (server.tasks moved).session? = some session) →
      (update server.tasks moved task conn).session? = some session →
      (server.tasks conn).session? = some session := by
    intro moved task same running
    by_cases own : conn = moved
    · subst own
      rw [update_self] at running
      exact same running
    · rwa [update_of_ne own] at running
  cases step_cases step with
  | started conn => exact absurd rfl (other conn)
  | accepted moved =>
    refine updated moved _ (fun present => ?_) running
    rw [afterHandshake_session?] at present
    cases present
  | timedOut moved | cleaned moved => exact updated moved _ (fun present => by cases present) running
  | greeted moved _ _ _ _ _ _ answered =>
    rw [setTask_tasks, (answer_frame answered).1] at running
    refine updated moved _ (fun present => ?_) running
    rw [afterHandshake_session?] at present
    cases present
  | dispatched moved _ _ _ _ _ _ _ task answered =>
    rw [setTask_tasks, (answer_frame answered).1] at running
    refine updated moved _ (fun present => ?_) running
    rw [afterDispatch_session?] at present
    rw [task]
    exact present
  | begun moved _ _ task =>
    refine updated moved _ (fun present => ?_) running
    rw [afterDispatch_session?] at present
    rw [task]
    exact present
  | dropped moved _ task => exact updated moved _ (fun present => by rw [task]; exact present) running
  | sawShutdown moved written _ task | sawRevoked moved written _ task =>
    refine updated moved (.ended _ (.ok .terminal)) (fun present => by rw [task]; exact present) ?_
    cases written <;> exact running
  | _ => exact running

end Server
end KrotRelay.Source
