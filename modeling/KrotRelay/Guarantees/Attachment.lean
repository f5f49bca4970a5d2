import KrotRelay.Guarantees.HandshakeDiscipline
import KrotRelay.Guarantees.SessionDiscipline
import KrotRelay.Source.RegistryEffects
import KrotRelay.Source.ServerEffects

/-!
Live means attached: in every interleaving the connection of a Live tunnel belongs to
a session of the tunnel's owner that has not been cleaned up. The invariant needs no
bound on the id counter: it speaks of table entries, never of which id they have.
-/
namespace KrotRelay.Guarantees
open Source Lib TunnelRegistry Server Option
open Function (update update_self update_of_ne)

variable {conn : Connection} {middle server next : Server} {call : Call} {choice : Choice}
  {tasks : Connection → Task} {session : Session} {task : Task}

/-- The tasks are where their code can be, and the table agrees with them. -/
structure Attached (server : Server) : Prop where
  placed : ∀ connection session, (server.tasks connection).session? = some session →
    session.connection = connection ∧ session.mode = server.config.mode
  greeting : ∀ connection program, server.tasks connection = .handshaking program →
    ∃ stage, Follows handshakeDiscipline Vouched stage program
  dispatch : ∀ connection session frame program,
    server.tasks connection = .dispatching session frame program →
    ∃ stage, Follows (sessionDiscipline session frame) Settled stage program
  ipMode : inIpMode server.config.mode = true → ∀ id info,
    server.registry.tunnels.lookup id = some info → info.kind.isTcp = true
  live : ∀ id info connection abort, server.registry.tunnels.lookup id = some info →
    info.state = .live connection abort →
    ∃ session, (server.tasks connection).session? = some session ∧ session.pubkey = info.owner

variable (config : Config) (pool : PortPool) (entries : HashMap PubKey AuthorizedEntry)
  (peers : List String) (now : Instant)

theorem attached_init : Attached (Server.init config pool entries peers now) where
  placed := by
    intro conn session running
    cases running
  greeting := by
    intro conn prog task
    cases task
  dispatch := by
    intro conn session frame prog task
    cases task
  ipMode := by
    intro _ id info found
    cases found
  live := by
    intro id info conn abort found
    cases found

/-- What the table may contain for a session after one of its calls: an old entry, an
entry of its own on its own connection, or an old Live entry with another abort handle. -/
theorem answer_entry {frame : ClientFrame} {stage : Stage} {reply : call.Reply}
    (answered : server.answer conn choice call = some (reply, middle))
    (allowed : allowedCall session frame stage call) (id : TunnelId) (info : TunnelInfo)
    (found : middle.registry.tunnels.lookup id = some info) :
    server.registry.tunnels.lookup id = some info ∨
    (info.owner = session.pubkey ∧ (∃ abort, info.state = .live session.connection abort) ∧
      ((inIpMode session.mode = true → info.kind.isTcp = true) ∨
        ∃ old, server.registry.tunnels.lookup id = some old ∧ info.kind = old.kind)) ∨
    ∃ old attached abort newAbort, server.registry.tunnels.lookup id = some old ∧
      old.state = .live attached abort ∧
      info = { old with state := .live attached (some newAbort) } := by
  cases answer_cases answered with
  | resumed label sessionId pubkey =>
    obtain ⟨_, rfl, rfl⟩ := allowed
    rcases server.registry.tryResume_cases choice.order label sessionId session.pubkey
        session.connection with
      same | same | ⟨target, old, expiresAt, present, _, _, owner, effect⟩
    · rw [same] at found
      exact .inl found
    · rw [same] at found
      exact .inl found
    · rw [effect] at found
      dsimp only at found
      rw [lookup_tableInsert] at found
      by_cases same : id = target
      · subst same
        rw [if_pos rfl] at found
        cases found
        exact .inr (.inl ⟨owner, ⟨none, rfl⟩, .inr ⟨old, present, rfl⟩⟩)
      · rw [if_neg same] at found
        exact .inl found
  | grantedHttp _ _ _ result =>
    dsimp only at found
    rw [(allocateHttp_ok _ _ _ _ result).tunnels] at found
    exact .inl found
  | grantedTcp _ _ _ _ result =>
    dsimp only at found
    rw [(allocateTcp_ok _ _ _ _ _ result).tunnels] at found
    exact .inl found
  | inserted =>
    obtain ⟨owner, ⟨abort, state⟩, ip, _⟩ := allowed
    dsimp only at found
    rw [lookup_insert] at found
    split at found
    · cases found
      exact .inr (.inl ⟨owner, ⟨abort, state⟩, .inl ip⟩)
    · exact .inl found
  | removed =>
    dsimp only [TunnelRegistry.remove] at found
    rw [lookup_removeLocked] at found
    split at found
    · cases found
    · exact .inl found
  | handled _ newAbort =>
    dsimp only at found
    rw [lookup_setTcpAbort] at found
    obtain ⟨old, present, changed⟩ := map_eq_some_iff.mp found
    cases state : old.state with
    | live attached abort =>
      simp only [state] at changed
      split at changed
      · exact .inr (.inr ⟨old, attached, abort, newAbort, present, state, changed.symm⟩)
      · exact .inl (changed ▸ present)
    | dangling =>
      simp only [state] at changed
      exact .inl (changed ▸ present)
  | _ => exact .inl found

/-- The relay keeps the promises the discipline of a session relies on. -/
theorem answer_possible (holds : Attached server) {reply : call.Reply}
    (mode : session.mode = server.config.mode)
    (answered : server.answer conn choice call = some (reply, middle)) :
    possibleReply session call reply := by
  cases answer_cases answered with
  | resumed label sessionId pubkey attached =>
    intro ip
    rcases server.registry.tryResume_cases choice.order label sessionId pubkey attached with
      same | same | ⟨target, old, expiresAt, present, _, _, _, effect⟩
    · rw [same]
      rfl
    · rw [same]
      rfl
    · rw [effect]
      have tcp := holds.ipMode (mode ▸ ip) target old present
      unfold TunnelRegistry.reportResumed
      cases kind : old.kind with
      | http => simp [kind, RegisteredKind.isTcp] at tcp
      | tcp => cases old.tcpListener <;> rfl
  | question => cases call <;> trivial
  | bound _ _ _ fits => exact fits
  | located => rfl
  | _ => trivial

theorem answer_handshake {stage : HandshakeStage} {reply : call.Reply}
    (allowed : handshakeAllows stage call)
    (answered : server.answer conn choice call = some (reply, middle)) :
    middle.registry = server.registry ∧ middle.allocated = server.allocated ∧
      middle.tcpTasks = server.tcpTasks := by
  cases answer_cases answered with
  | resumed | grantedHttp | grantedTcp | inserted | removed | handled | spawned =>
    exact allowed.elim
  | _ => exact ⟨rfl, rfl, rfl⟩

theorem answer_allocated_le {reply : call.Reply}
    (answered : server.answer conn choice call = some (reply, middle)) :
    server.allocated ≤ middle.allocated := by
  cases answer_cases answered with
  | grantedHttp | grantedTcp => exact Nat.le_succ _
  | _ => exact Nat.le_refl _

theorem step_allocated_le {event : Event} (step : server.step event = some next) :
    server.allocated ≤ next.allocated := by
  cases Server.step_move server next event step with
  | quiet _ _ _ _ _ _ _ _ _ _ allocated => exact Nat.le_of_eq allocated.symm
  | ticked | reaped | begun | cleaned => exact Nat.le_refl _
  | greeted _ _ _ _ _ _ _ answered =>
    rw [setTask_allocated]
    exact answer_allocated_le answered
  | answered _ _ _ _ _ _ _ _ _ answered =>
    rw [setTask_allocated]
    exact answer_allocated_le answered

theorem server_allocated_le {first last : Server} (events : List Event)
    (ran : run Server.step first events = some last) : first.allocated ≤ last.allocated := by
  refine run_invariant (fun state => first.allocated ≤ state.allocated) ?_ (Nat.le_refl _) ran
  intro state event next bound step
  exact Nat.le_trans bound (step_allocated_le step)

/-- Nothing is Live for a key after one of its sessions was cleaned up. -/
theorem disposeTunnels_entry {server : Server} {pubkey : PubKey} {result : Except ServerError SessionOutcome}
    {id : TunnelId} {info : TunnelInfo}
    (found : (server.disposeTunnels pubkey result).tunnels.lookup id = some info) :
    (∃ old, server.registry.tunnels.lookup id = some old ∧ info.kind = old.kind) ∧
    ∀ attached abort, info.state = .live attached abort →
      info.owner ≠ pubkey ∧ server.registry.tunnels.lookup id = some info := by
  have swept : (server.registry.removeAllOwnedBy pubkey).tunnels.lookup id = some info →
      server.registry.tunnels.lookup id = some info ∧ info.owner ≠ pubkey := by
    intro found
    rw [lookup_removeAllOwnedBy, filter_eq_some_iff] at found
    simpa using found
  rcases result with _ | (_ | _ | _)
  · obtain ⟨present, foreign⟩ := swept found
    exact ⟨⟨info, present, rfl⟩, fun _ _ _ => ⟨foreign, present⟩⟩
  · obtain ⟨present, foreign⟩ := swept found
    exact ⟨⟨info, present, rfl⟩, fun _ _ _ => ⟨foreign, present⟩⟩
  · dsimp only [Server.disposeTunnels] at found
    rw [lookup_markDangling] at found
    obtain ⟨old, present, changed⟩ := map_eq_some_iff.mp found
    by_cases owned : old.owner = pubkey
    · rw [if_pos owned] at changed
      unfold TunnelRegistry.dangled at changed
      split at changed
      · subst changed
        rename_i dangling
        refine ⟨⟨_, present, rfl⟩, fun attached abort state => ?_⟩
        simp [state, TunnelState.isDangling] at dangling
      · subst changed
        exact ⟨⟨_, present, rfl⟩, fun attached abort state => by cases state⟩
    · rw [if_neg owned] at changed
      subst changed
      exact ⟨⟨_, present, rfl⟩, fun _ _ _ => ⟨owned, present⟩⟩
  · obtain ⟨present, foreign⟩ := swept found
    exact ⟨⟨info, present, rfl⟩, fun _ _ _ => ⟨foreign, present⟩⟩

/-- No RegisterTunnel is being dispatched. -/
def NoRegistration (server : Server) : Prop :=
  ∀ connection session frame program,
    server.tasks connection = .dispatching session frame program → isRegistration frame = false

theorem turn_dispatching {config : Config} {old new : Task}
    (turned : Server.Turn config conn old new) (session : Session) (frame : ClientFrame) (program) :
    new = .dispatching session frame program ↔ old = .dispatching session frame program := by
  cases turned with
  | stay => exact Iff.rfl
  | accepted =>
    refine ⟨fun dispatching => ?_, nofun⟩
    have outside := afterHandshake_session? (perform config.external).run
    rw [dispatching] at outside
    cases outside
  | timedOut | started | stopped => exact ⟨nofun, nofun⟩

theorem greeted_dispatching {prog} (task : tasks conn = .handshaking prog) (later)
    (session : Session) (frame : ClientFrame) (body) :
    Server.afterHandshake later = .dispatching session frame body ↔
      tasks conn = .dispatching session frame body := by
  rw [task]
  refine ⟨fun dispatching => ?_, nofun⟩
  have outside := afterHandshake_session? later
  rw [dispatching] at outside
  cases outside

/-- The dispatches under way are as before when the one task that moved is not in one,
before or after. -/
theorem dispatching_update
    (same : ∀ session frame program, task = .dispatching session frame program ↔
      tasks conn = .dispatching session frame program) (other : Connection)
    (session : Session) (frame : ClientFrame) (program) :
    update tasks conn task other = .dispatching session frame program ↔
      tasks other = .dispatching session frame program := by
  by_cases own : other = conn
  · subst own
    rw [update_self]
    exact same session frame program
  · rw [update_of_ne own]

namespace Attached

variable {server : Server} (holds : Attached server)
include holds

/-- A step that leaves every session in place and whose new table entries are good. -/
theorem carry (tasks : next.tasks = update server.tasks conn task)
    (config : next.config = server.config) (placed : ∀ session, task.session? = some session →
      session.connection = conn ∧ session.mode = server.config.mode)
    (greeting : ∀ prog, task = .handshaking prog →
      ∃ stage, Follows handshakeDiscipline Vouched stage prog)
    (dispatch : ∀ session frame prog, task = .dispatching session frame prog →
      ∃ stage, Follows (sessionDiscipline session frame) Settled stage prog)
    (ipMode : inIpMode server.config.mode = true → ∀ id info,
      next.registry.tunnels.lookup id = some info → info.kind.isTcp = true)
    (live : ∀ id info attached abort, next.registry.tunnels.lookup id = some info →
      info.state = .live attached abort →
      ∃ session, (next.tasks attached).session? = some session ∧ session.pubkey = info.owner) :
    Attached next := by
  refine ⟨?_, ?_, ?_, by rw [config]; exact ipMode, live⟩
  · intro asked session
    rw [tasks, config]
    by_cases same : asked = conn
    · subst same
      rw [update_self]
      exact placed session
    · rw [update_of_ne same]
      exact holds.placed asked session
  · intro asked prog
    rw [tasks]
    by_cases same : asked = conn
    · subst same
      rw [update_self]
      exact greeting prog
    · rw [update_of_ne same]
      exact holds.greeting asked prog
  · intro asked session frame prog
    rw [tasks]
    by_cases same : asked = conn
    · subst same
      rw [update_self]
      exact dispatch session frame prog
    · rw [update_of_ne same]
      exact holds.dispatch asked session frame prog

/-- Sessions that keep their task keep their Live tunnels attached. -/
theorem live_of_sessions (registry : next.registry = server.registry)
    (sessions : ∀ asked session, (server.tasks asked).session? = some session →
      (next.tasks asked).session? = some session) :
    ∀ id info attached abort, next.registry.tunnels.lookup id = some info →
      info.state = .live attached abort →
      ∃ session, (next.tasks attached).session? = some session ∧ session.pubkey = info.owner := by
  intro id info attached abort found state
  rw [registry] at found
  obtain ⟨session, running, owner⟩ := holds.live id info attached abort found state
  exact ⟨session, sessions attached session running, owner⟩

omit holds in
theorem sessions_update
    (same : ∀ session, (tasks conn).session? = some session → task.session? = some session)
    (asked : Connection) (session : Session) (running : (tasks asked).session? = some session) :
    (update tasks conn task asked).session? = some session := by
  by_cases equal : asked = conn
  · subst equal
    rw [update_self]
    exact same session running
  · rw [update_of_ne equal]
    exact running

theorem turn (turned : Server.Turn server.config conn (server.tasks conn) task)
    (tasks : next.tasks = update server.tasks conn task)
    (registry : next.registry = server.registry) (config : next.config = server.config) :
    Attached next := by
  have sessions : ∀ session, (server.tasks conn).session? = some session →
      task.session? = some session := by
    intro session running
    generalize server.tasks conn = old at turned running
    cases turned with
    | stay | stopped => exact running
    | accepted | timedOut | started => cases running
  refine holds.carry tasks config ?_ ?_ ?_ ?_
    (holds.live_of_sessions registry (tasks ▸ sessions_update sessions))
  · intro session running
    generalize old : server.tasks conn = before at turned
    cases turned with
    | stay => exact holds.placed conn session (old ▸ running)
    | accepted =>
      rw [afterHandshake_session?] at running
      cases running
    | timedOut => cases running
    | started =>
      cases running
      exact ⟨rfl, rfl⟩
    | stopped =>
      exact holds.placed conn session (by rw [old]; exact running)
  · intro prog handshaking
    generalize old : server.tasks conn = before at turned
    cases turned with
    | stay => exact holds.greeting conn prog (old.trans handshaking)
    | accepted =>
      cases afterHandshake_handshaking handshaking
      exact ⟨.fresh, perform_follows _⟩
    | timedOut | started | stopped => cases handshaking
  · intro session frame prog dispatching
    generalize old : server.tasks conn = before at turned
    cases turned with
    | stay => exact holds.dispatch conn session frame prog (old.trans dispatching)
    | accepted =>
      have outside := afterHandshake_session? (perform server.config.external).run
      rw [dispatching] at outside
      cases outside
    | timedOut | started | stopped => cases dispatching
  · intro ip id info found
    rw [registry] at found
    exact holds.ipMode ip id info found

theorem greeted (task : server.tasks conn = .handshaking (.call request rest))
    (answered : server.answer conn choice request = some (reply, middle)) :
    Attached (middle.setTask conn (Server.afterHandshake (rest reply))) := by
  obtain ⟨tasks, config, _⟩ := answer_frame answered
  obtain ⟨stage, allowed, follows⟩ := holds.greeting conn _ task
  obtain ⟨registry, _⟩ := answer_handshake allowed answered
  have outside : ∀ session, (server.tasks conn).session? = some session →
      (Server.afterHandshake (rest reply)).session? = some session := by
    intro session running
    rw [task] at running
    cases running
  refine holds.carry (by rw [← tasks]; rfl) config ?_ ?_ ?_ ?_ (holds.live_of_sessions registry ?_)
  · intro session running
    rw [afterHandshake_session?] at running
    cases running
  · intro prog handshaking
    cases afterHandshake_handshaking handshaking
    exact ⟨_, follows reply trivial⟩
  · intro session frame prog dispatching
    have none := afterHandshake_session? (rest reply)
    rw [dispatching] at none
    cases none
  · intro ip id info found
    exact holds.ipMode ip id info (registry ▸ found)
  · rw [setTask_tasks, tasks]
    exact sessions_update outside

theorem begun (frame : ClientFrame) (task : server.tasks conn = .running session) : Attached
      (server.setTask conn (Server.afterDispatch session frame (session.dispatch frame).run)) := by
  have kept : ∀ other, (server.tasks conn).session? = some other →
      (Server.afterDispatch session frame (session.dispatch frame).run).session? = some other := by
    intro other running
    rw [task] at running
    rwa [afterDispatch_session?]
  refine holds.carry rfl rfl ?_ ?_ ?_ holds.ipMode
    (holds.live_of_sessions rfl (sessions_update kept))
  · intro other running
    rw [afterDispatch_session?] at running
    exact holds.placed conn other (by rw [task]; exact running)
  · intro prog handshaking
    have some := afterDispatch_session? session frame (session.dispatch frame).run
    rw [handshaking] at some
    cases some
  · intro other named prog dispatching
    obtain ⟨rfl, rfl, rfl⟩ := afterDispatch_dispatching dispatching
    exact ⟨.idle, dispatch_follows session frame⟩

theorem answered
    (task : server.tasks conn = .dispatching session frame (.call request rest))
    (answered : server.answer conn choice request = some (reply, middle)) :
    Attached (middle.setTask conn (Server.afterDispatch session frame (rest reply))) := by
  obtain ⟨tasks, config, _⟩ := answer_frame answered
  obtain ⟨stage, allowed, follows⟩ := holds.dispatch conn session frame _ task
  have running : (server.tasks conn).session? = some session := by rw [task]; rfl
  obtain ⟨here, mode⟩ := holds.placed conn session running
  have entries := answer_entry answered allowed
  have kept : ∀ asked other, (server.tasks asked).session? = some other →
      ((middle.setTask conn (Server.afterDispatch session frame (rest reply))).tasks
        asked).session? = some other := by
    rw [setTask_tasks, tasks]
    refine sessions_update fun other present => ?_
    rw [afterDispatch_session?, ← present, running]
  refine holds.carry (by rw [← tasks]; rfl) config ?_ ?_ ?_ ?_ ?_
  · intro other present
    rw [afterDispatch_session?] at present
    cases present
    exact ⟨here, mode⟩
  · intro prog handshaking
    have some := afterDispatch_session? session frame (rest reply)
    rw [handshaking] at some
    cases some
  · intro other named prog dispatching
    obtain ⟨rfl, rfl, rfl⟩ := afterDispatch_dispatching dispatching
    exact ⟨_, follows reply (answer_possible holds mode answered)⟩
  · intro ip id info found
    rcases entries id info found with
      old | ⟨_, _, fresh | ⟨old, present, kind⟩⟩ | ⟨old, _, _, _, present, _, rfl⟩
    · exact holds.ipMode ip id info old
    · exact fresh (mode ▸ ip)
    · exact kind ▸ holds.ipMode ip id old present
    · exact holds.ipMode ip id old present
  · intro id info attached abort found state
    rcases entries id info found with
      old | ⟨owner, ⟨_, own⟩, _⟩ | ⟨old, _, _, _, present, wasLive, rfl⟩
    · obtain ⟨other, present, owner⟩ := holds.live id info attached abort old state
      exact ⟨other, kept attached other present, owner⟩
    · rw [own] at state
      cases state
      refine ⟨session, ?_, owner.symm⟩
      rw [here]
      exact kept conn session running
    · cases state
      obtain ⟨other, there, owner⟩ := holds.live id old attached _ present wasLive
      exact ⟨other, kept attached other there, owner⟩

theorem cleaned (task : server.tasks conn = .ended session result) :
    Attached ({ server with registry := server.disposeTunnels session.pubkey result }.setTask
      conn .closed) := by
  have ending : (server.tasks conn).session? = some session := by rw [task]; rfl
  refine holds.carry rfl rfl ?_ ?_ ?_ ?_ ?_
  · intro other running
    cases running
  · intro prog handshaking
    cases handshaking
  · intro other named prog dispatching
    cases dispatching
  · intro ip id info found
    obtain ⟨⟨old, present, kind⟩, _⟩ := disposeTunnels_entry found
    exact kind ▸ holds.ipMode ip id old present
  · intro id info attached abort found state
    obtain ⟨_, alive⟩ := disposeTunnels_entry found
    obtain ⟨foreign, present⟩ := alive attached abort state
    obtain ⟨other, running, owner⟩ := holds.live id info attached abort present state
    refine ⟨other, ?_, owner⟩
    rw [setTask_tasks, update_of_ne]
    · exact running
    · -- the cleaned session's own Live tunnels belong to its key, and none is left
      rintro rfl
      rw [ending] at running
      cases running
      exact foreign owner.symm

theorem step (next : Server) (event : Event) (stepped : server.step event = some next) :
    Attached next := by
  cases Server.step_move server next event stepped with
  | quiet _ _ conn task _ turned tasks registry config =>
    exact holds.turn turned tasks registry config
  | ticked => exact ⟨holds.placed, holds.greeting, holds.dispatch, holds.ipMode, holds.live⟩
  | reaped =>
    have older : ∀ id info,
        (server.registry.reapExpired server.now).2.tunnels.lookup id = some info →
        server.registry.tunnels.lookup id = some info := by
      intro id info found
      rw [lookup_reapExpired, filter_eq_some_iff] at found
      exact found.1
    refine ⟨holds.placed, holds.greeting, holds.dispatch, ?_, ?_⟩
    · exact fun ip id info found => holds.ipMode ip id info (older id info found)
    · exact fun id info attached abort found =>
        holds.live id info attached abort (older id info found)
  | greeted conn choice request rest reply _ task answered =>
    exact holds.greeted task answered
  | begun conn session frame task => exact holds.begun frame task
  | answered conn choice session frame request rest reply _ task answered =>
    exact holds.answered task answered
  | cleaned conn session result task =>
    exact holds.cleaned task

end Attached

theorem attached_reachable (server : Server)
    (reached : Reachable Server.step (Server.init config pool entries peers now) server) :
    Attached server :=
  reached.invariant Attached (attached_init config pool entries peers now)
    fun _ event next holds step => holds.step next event step

/-- Every Live tunnel is on the connection of a session of its owner that has not been
cleaned up; so is every connection `resolve_label` routes a request to (the accept task of a TCP
tunnel does not ask it). -/
theorem live_tunnel_attached (server : Server)
    (reached : Reachable Server.step (Server.init config pool entries peers now) server) :
    (∀ id info connection abort, server.registry.tunnels.lookup id = some info →
      info.state = .live connection abort →
      ∃ session, (server.tasks connection).session? = some session ∧
        session.connection = connection ∧ session.pubkey = info.owner) ∧
    (∀ label resolved, server.registry.resolveLabel label = some resolved →
      ∃ info session, server.registry.tunnels.lookup resolved.id = some info ∧
        (server.tasks resolved.connection).session? = some session ∧
        session.connection = resolved.connection ∧ session.pubkey = info.owner) := by
  have holds := attached_reachable config pool entries peers now server reached
  have attached : ∀ id info connection abort, server.registry.tunnels.lookup id = some info →
      info.state = .live connection abort →
      ∃ session, (server.tasks connection).session? = some session ∧
        session.connection = connection ∧ session.pubkey = info.owner := by
    intro id info connection abort found state
    obtain ⟨session, running, owner⟩ := holds.live id info connection abort found state
    exact ⟨session, running, (holds.placed connection session running).1, owner⟩
  refine ⟨attached, ?_⟩
  intro label resolved answer
  simp only [TunnelRegistry.resolveLabel, bind_eq_bind, bind_eq_some_iff] at answer
  obtain ⟨id, _, info, found, answer⟩ := answer
  cases state : info.state with
  | live connection abort =>
    simp only [state, Option.some.injEq] at answer
    subst answer
    obtain ⟨session, running, here, owner⟩ := attached id info connection abort found state
    exact ⟨info, session, found, running, here, owner⟩
  | dangling => simp [state] at answer

section Scenario

/-- A handshake that succeeds, up to the running session. -/
def signIn (connection : Connection) (pubkey : PubKey) (sessionId : SessionId) : List Event :=
  [.accept connection, .call connection {}, .call connection { frame := .ok (.authRequest pubkey) },
    .call connection {}, .call connection {}, .call connection {},
    .call connection { frame := .ok (.authResponse ⟨.replicate 64 0⟩) },
    .call connection { sessionId := sessionId }, .call connection {}, .subscribe connection]

/-- A fresh HTTP registration with no federated peers, every call answered. -/
def publishHttp (connection : Connection) (label : String) : List Event :=
  .frame connection (.registerTunnel label .http none false) ::
    List.replicate 4 (.call connection {})

def anyHttp : AuthorizedEntry where
  allowAnySubdomain := true
  allowedSubdomains := []
  maxConns := none
  allowedPorts := none
  bw := none
  quota := none
  federation := []
  comment := none

def domainConfig : Config where
  mode := .domain "relay.example"
  resumeGrace := none
  external := { verifyChallenge := fun _ _ _ => true, base64 := fun _ => "" }

def dave : PubKey := ⟨.replicate 32 4⟩

def erin : PubKey := ⟨.replicate 32 5⟩

def twoKeys : HashMap PubKey AuthorizedEntry :=
  (AList.insert dave anyHttp ∅).insert erin anyHttp

def smallRelay : Server := Server.init domainConfig ⟨7000, 7001⟩ twoKeys [] 0

def inDispatch : Task → Bool
  | .dispatching _ _ _ => true
  | _ => false

/-- Only the connections an event names can be in a dispatch after the run. -/
theorem noRegistration_of_alone {events : List Event} (connections : List Connection)
    (ran : run Server.step smallRelay events = some server)
    (alone : ∀ event ∈ events, event.connection?.all (connections.contains ·) = true)
    (rest : ∀ conn ∈ connections, inDispatch (server.tasks conn) = false) :
    NoRegistration server := by
  intro conn session frame prog task
  by_cases listed : conn ∈ connections
  · have resting := rest conn listed
    rw [task] at resting
    cases resting
  · rw [run_tasks_other _ _ _ ran conn] at task
    · cases task
    · intro event mem same
      have named := alone event mem
      rw [same, all_some] at named
      exact listed (List.contains_iff_mem.mp named)

end Scenario

private def daveOnline : List Event :=
  signIn ⟨0⟩ dave ⟨.replicate 16 1⟩ ++ publishHttp ⟨0⟩ "dave"

theorem live_tunnel_attached_dave :
    (∃ resolved, (final Server.step smallRelay daveOnline).registry.resolveLabel "dave" =
      some resolved) ∧
    (∀ label resolved,
      (final Server.step smallRelay daveOnline).registry.resolveLabel label = some resolved →
      ∃ info session,
        (final Server.step smallRelay daveOnline).registry.tunnels.lookup resolved.id = some info ∧
        ((final Server.step smallRelay daveOnline).tasks resolved.connection).session? =
          some session ∧
        session.connection = resolved.connection ∧ session.pubkey = info.owner) :=
  ⟨⟨⟨⟨1⟩, ⟨0⟩, ⟨0⟩, false⟩, by rfl⟩, (live_tunnel_attached domainConfig ⟨7000, 7001⟩ twoKeys [] 0 _
      ⟨daveOnline, run_final (by rfl)⟩).2⟩

end KrotRelay.Guarantees
