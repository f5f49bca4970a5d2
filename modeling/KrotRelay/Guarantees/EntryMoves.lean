import KrotRelay.Guarantees.Mirror

/-!
What one event of the relay can do to one tunnel of the table, and on whose behalf.
The refinement of the ledger gives the shape of the change; the typestate of the
acting session gives its right to make it.
-/
namespace KrotRelay.Guarantees
open Source Lib TunnelRegistry Server

/-- The entry of tunnel `id`, which was `info`, after one event. -/
inductive EntryMove (server : Server) (id : TunnelId) (info : TunnelInfo) :
    Event → Option TunnelInfo → Prop where
  | kept (event) : EntryMove server id info event (some info)
  /-- `UnregisterTunnel` carries out its removal: of any id, for any session -/
  | unregistered (connection choice session program)
      (task : server.tasks connection = .dispatching session (.unregisterTunnel id) program) :
      EntryMove server id info (.call connection choice) none
  | resumed (connection choice session frame program)
      (task : server.tasks connection = .dispatching session frame program)
      (own : info.owner = session.pubkey) (dangling : info.state.isDangling = true) :
      EntryMove server id info (.call connection choice)
        (some { info with state := .live session.connection none })
  | handled (connection choice session frame program)
      (task : server.tasks connection = .dispatching session frame program)
      (own : info.owner = session.pubkey) (attached abort newAbort) (wasLive : info.state = .live attached abort) :
      EntryMove server id info (.call connection choice)
        (some { info with state := .live attached (some newAbort) })
  | disposed (connection session result) (task : server.tasks connection = .ended session result)
      (own : info.owner = session.pubkey) (entry) :
      EntryMove server id info (.cleanup connection) entry
  | expired (expiresAt) (dangling : info.state = .dangling expiresAt)
      (due : expiresAt ≤ server.now) : EntryMove server id info .reapExpired none

section Moves
variable {server : Server} {ledger after : Ledger} {stages : Connection → Stage}
  (mirror : Mirror server ledger stages) {id : TunnelId} {info : TunnelInfo}
  (found : server.registry.tunnels.lookup id = some info)
include mirror found

/-- The entry after one call of a dispatch. -/
theorem call_entry_move {conn : Connection} {choice : Choice} {session : Session}
    {frame : ClientFrame} {request : Call}
    {rest : request.Reply → Prog relayInterface (Except ServerError DispatchOutcome)}
    {reply : request.Reply} {entry : Option TunnelInfo}
    (task : server.tasks conn = .dispatching session frame (.call request rest))
    (ran : run Ledger.step ledger (ledgerCall choice (stages conn) request reply) =
      some after) (result : after.registry.tunnels.lookup id = entry) :
    EntryMove server id info (.call conn choice) entry := by
  have allowed := (mirror.dispatch conn session frame _ task).1
  rw [← mirror.same.registry] at found
  have single : ∀ event, ledgerCall choice (stages conn) request reply = [event] →
      Ledger.Change ledger.now id event (some info) entry := by
    intro event only
    rw [only, run_single] at ran
    rw [← found, ← result]
    exact Ledger.step_change ran id
  have nothing : ledgerCall choice (stages conn) request reply = [] → entry = some info := by
    intro none
    rw [none] at ran
    cases ran
    exact result.symm.trans found
  have given : ∀ alloc, ledgerCall choice (stages conn) request reply = [.abandon alloc] →
      entry = some info := by
    intro alloc only
    have change := single _ only
    cases change
    rfl
  cases request
  case tryResume label sessionId pubkey attached =>
    obtain ⟨_, owner, here⟩ := allowed
    have change := single _ rfl
    cases change with
    | keep => exact .kept _
    | resumed _ _ _ _ _ dangling =>
      rw [here]
      exact .resumed conn choice session frame _ task owner (by rw [dangling]; rfl)
  case allocateHttp label =>
    have change := single _ rfl
    cases change
    exact .kept _
  case allocateTcp allowlist =>
    have change := single _ rfl
    cases change
    exact .kept _
  case insert fresh =>
    obtain ⟨_, _, _, alloc, stage, fits⟩ := allowed
    have member := (mirror.flights.listed alloc).mpr ⟨conn, by rw [stage]; rfl⟩
    have change := single (.insert alloc fresh) (by rw [stage]; rfl)
    cases change with
    | keep => exact .kept _
    | inserted _ _ _ own =>
      -- an allocation in flight has no table entry yet
      have absent := mirror.holds.outside alloc (.inl member)
      rw [← (mirror.holds.fits_facts alloc fresh member fits).1, own, found] at absent
      cases absent
  case remove removed =>
    obtain ⟨_, named⟩ := allowed
    have change := single _ rfl
    cases change with
    | keep => exact .kept _
    | removed =>
      subst named
      exact .unregistered conn choice session _ task
  case setTcpAbort target newAbort =>
    have change := single _ rfl
    cases change with
    | keep => exact .kept _
    | handled _ attached abort _ wasLive =>
      -- the session resumed this id, so it is the session's own or gone
      rcases mirror.resumed conn session frame _ id task allowed with
        ⟨present, looked, owner⟩ | gone
      · rw [found] at looked
        cases looked
        exact .handled conn choice session frame _ task owner attached abort newAbort wasLive
      · rw [phase_gone_lookup gone] at found
        cases found
  case bind port =>
    obtain ⟨allocated, stage⟩ := allowed
    cases reply with
    | ok => rw [nothing rfl]; exact .kept _
    | error => rw [given ⟨allocated, .tcp port⟩ (by rw [stage]; rfl)]; exact .kept _
  case localAddr listener =>
    obtain ⟨alloc, stage⟩ := allowed
    cases reply with
    | ok => rw [nothing rfl]; exact .kept _
    | error => rw [given alloc (by rw [stage]; rfl)]; exact .kept _
  all_goals
    rw [nothing rfl]
    exact .kept _

theorem entry_move {next : Server} {event : Event} (step : server.step event = some next)
    (attached : Attached server) (room : next.allocated < 2 ^ 64 - 1) :
    EntryMove server id info event (next.registry.tunnels.lookup id) := by
  obtain ⟨after, ran, mirrors⟩ := mirror.step attached next event step room
  have registry := mirrors.same.registry
  cases Server.step_move server next event step with
  | quiet _ _ _ _ _ _ _ same =>
    rw [same, found]
    exact .kept event
  | ticked =>
    rw [found]
    exact .kept _
  | greeted conn _ _ _ _ _ task answered =>
    obtain ⟨stage, allowed, _⟩ := attached.greeting conn _ task
    rw [setTask_registry, (answer_handshake allowed answered).1, found]
    exact .kept _
  | begun =>
    rw [setTask_registry, found]
    exact .kept _
  | reaped =>
    rw [lookup_reapExpired, found]
    cases state : info.state with
    | live =>
      simpa [Option.filter, TunnelRegistry.expired, state] using .kept _
    | dangling expiresAt =>
      by_cases due : expiresAt ≤ server.now
      · simpa [Option.filter, TunnelRegistry.expired, state, due] using .expired expiresAt state due
      · simpa [Option.filter, TunnelRegistry.expired, state, due] using .kept _
  | answered _ _ _ _ _ _ _ _ task answered =>
    simp only [mirrored, task, answered] at ran
    exact call_entry_move mirror found task ran (by rw [registry])
  | cleaned conn session result task =>
    by_cases own : info.owner = session.pubkey
    · exact .disposed conn session result task own _
    · have untouched : (server.disposeTunnels session.pubkey result).tunnels.lookup id =
          some info := by
        rcases result with _ | (_ | _ | _) <;> simp [Server.disposeTunnels, lookup_removeAllOwnedBy,
            lookup_markDangling, found, own, Option.filter]
      rw [setTask_registry]
      dsimp only
      rw [untouched]
      exact .kept _

end Moves

end KrotRelay.Guarantees
