import KrotRelay.Guarantees.EntryMoves

/-!
# The end of a session

`handle_connection` disposes of tunnels by key, while a Live tunnel belongs to a
connection. One step of the relay disturbs a tunnel without a reason of its own exactly
if it is the clean-up of a session whose key still has something else to lose.
-/
namespace KrotRelay.Guarantees
open Source Lib TunnelRegistry

/-- Still in the table and, if it was Live, still Live on the same connection. -/
def Undisturbed (next : Server) (id : TunnelId) (info : TunnelInfo) : Prop :=
  ∃ new, next.registry.tunnels.lookup id = some new ∧
    ∀ connection abort, info.state = .live connection abort →
      ∃ handle, new.state = .live connection handle

/-- The reasons for which a tunnel may become Dangling or go. -/
inductive Permitted (server : Server) (id : TunnelId) (info : TunnelInfo) : Event → Prop where
  | ownSessionEnded (event connection abort session result)
      (state : info.state = .live connection abort)
      (task : server.tasks connection = .ended session result) : Permitted server id info event
  | unregistered (connection choice session program)
      (task : server.tasks connection = .dispatching session (.unregisterTunnel id) program) :
      Permitted server id info (.call connection choice)
  | leaseExpired (expiresAt) (dangling : info.state = .dangling expiresAt)
      (due : expiresAt ≤ server.now) : Permitted server id info .reapExpired
  | keyRevoked (connection session result) (task : server.tasks connection = .ended session result)
      (own : info.owner = session.pubkey) (revoked : server.isRevoked connection = true) :
      Permitted server id info (.cleanup connection)

/-- When a session of an unrevoked key is cleaned up, no other session of the key that
still runs has a Live tunnel, and no tunnel of the key waits for a resumption unless the
session was dropped, too. -/
def EndsAlone (server : Server) (event : Event) : Prop :=
  ∀ connection session result, event = .cleanup connection →
    server.tasks connection = .ended session result → server.isRevoked connection = false →
    ∀ id info, server.registry.tunnels.lookup id = some info → info.owner = session.pubkey →
      match info.state with
      | .live other _ => ∃ ended outcome, server.tasks other = .ended ended outcome
      | .dangling _ => result = .ok .dropped

/-- What is left of a tunnel after the clean-up of a session of its owner. -/
theorem disposeTunnels_own {server : Server} {id : TunnelId} {info : TunnelInfo}
    (found : server.registry.tunnels.lookup id = some info)
    (result : Except ServerError SessionOutcome) :
    (server.disposeTunnels info.owner result).tunnels.lookup id = if result = .ok .dropped then
        some (TunnelRegistry.dangled
          (server.now + server.config.resumeGrace.getD defaultGracePeriod) info)
      else none := by
  rcases result with _ | (_ | _ | _) <;>
    simp [Server.disposeTunnels, lookup_removeAllOwnedBy, lookup_markDangling, found, Option.filter]

theorem session_end_local_iff (config : Config) (pool : PortPool)
    (entries : HashMap PubKey AuthorizedEntry) (peers : List String) (now : Instant)
    (nonzero : 0 ∉ pool.ports) (server : Server)
    (reached : Reachable Server.step (Server.init config pool entries peers now) server)
    (event : Event) (next : Server) (stepped : server.step event = some next)
    (room : next.allocated < 2 ^ 64 - 1) :
    (∀ id info, server.registry.tunnels.lookup id = some info →
      Undisturbed next id info ∨ Permitted server id info event) ↔ EndsAlone server event := by
  have attached := attached_reachable config pool entries peers now server reached
  have bound := step_allocated_le stepped
  obtain ⟨ledger, stages, mirror, _⟩ := mirror_reachable config pool entries peers now nonzero
    server reached (by omega)
  constructor
  · rintro harmless connection session result rfl task unrevoked id info found own
    simp only [Server.step, task, Option.some.injEq] at stepped
    subst stepped
    have left := disposeTunnels_own found result
    rcases harmless id info found with ⟨new, present, live⟩ | permitted
    · rw [Server.setTask_registry] at present
      dsimp only at present
      rw [← own, left] at present
      by_cases dropped : result = .ok .dropped
      · rw [if_pos dropped] at present
        cases present
        cases state : info.state with
        | live other abort =>
          obtain ⟨handle, impossible⟩ := live other abort state
          simp [TunnelRegistry.dangled, state, TunnelState.isDangling] at impossible
        | dangling => exact dropped
      · rw [if_neg dropped] at present
        cases present
    · cases permitted with
      | ownSessionEnded _ _ _ ended outcome state task =>
        rw [state]
        exact ⟨ended, outcome, task⟩
      | keyRevoked _ _ _ _ _ revoked =>
        rw [unrevoked] at revoked
        cases revoked
  · intro alone id info found
    have moved := entry_move mirror found stepped attached room
    generalize looked : next.registry.tunnels.lookup id = entry at moved
    cases moved with
    | kept => exact .inl ⟨info, looked, fun _ abort state => ⟨abort, state⟩⟩
    | unregistered connection choice session program task =>
      exact .inr (.unregistered connection choice session program task)
    | resumed _ _ _ _ _ _ _ dangling =>
      refine .inl ⟨_, looked, fun _ abort state => ?_⟩
      rw [state] at dangling
      cases dangling
    | handled _ _ _ _ _ _ _ _ abort newAbort wasLive =>
      refine .inl ⟨_, looked, fun _ abort state => ?_⟩
      rw [wasLive] at state
      cases state
      exact ⟨some newAbort, rfl⟩
    | expired expiresAt dangling due => exact .inr (.leaseExpired expiresAt dangling due)
    | disposed connection session result task own =>
      cases revoked : server.isRevoked connection with
      | true => exact .inr (.keyRevoked connection session result task own revoked)
      | false =>
        have condition := alone connection session result rfl task revoked id info found own
        cases state : info.state with
        | live other abort =>
          rw [state] at condition
          obtain ⟨ended, outcome, task⟩ := condition
          exact .inr (.ownSessionEnded _ other abort ended outcome state task)
        | dangling =>
          rw [state] at condition
          have left := disposeTunnels_own found result
          rw [if_pos condition, own] at left
          simp only [Server.step, task, Option.some.injEq] at stepped
          subst stepped
          exact .inl ⟨_, left, fun _ _ live => by rw [state] at live; cases live⟩

section Example

/-- Two processes of one user; only the first publishes a tunnel. -/
private def twoProcesses : List Event :=
  signIn ⟨0⟩ dave ⟨.replicate 16 1⟩ ++ publishHttp ⟨0⟩ "shop" ++ signIn ⟨1⟩ dave ⟨.replicate 16 2⟩

private def firstLeaves : List Event := twoProcesses ++ [.frame ⟨0⟩ .bye]

theorem session_end_local_iff_first :
    (final Server.step smallRelay firstLeaves).registry.resolveLabel "shop" ≠ none ∧
    ((∀ id info, (final Server.step smallRelay firstLeaves).registry.tunnels.lookup id = some info →
        Undisturbed (final Server.step smallRelay (firstLeaves ++ [.cleanup ⟨0⟩])) id info ∨
        Permitted (final Server.step smallRelay firstLeaves) id info (.cleanup ⟨0⟩)) ↔
      EndsAlone (final Server.step smallRelay firstLeaves) (.cleanup ⟨0⟩)) :=
  ⟨nofun, session_end_local_iff domainConfig ⟨7000, 7001⟩ twoKeys [] 0 (by decide) _
    ⟨firstLeaves, run_final rfl⟩ (.cleanup ⟨0⟩) _ rfl (by decide)⟩

/-- The second process leaves, one way or the other, and the first one's tunnel is gone
or dangling while its session runs on. -/
theorem sibling_end_disturbs_tunnel : let server := final Server.step smallRelay twoProcesses
    let afterBye := final Server.step server [.frame ⟨1⟩ .bye, .cleanup ⟨1⟩]
    let afterDrop := final Server.step server [.readError ⟨1⟩, .cleanup ⟨1⟩]
    (server.registry.tunnels.lookup ⟨1⟩).map TunnelInfo.state = some (.live ⟨0⟩ none) ∧
    (run Server.step server [.frame ⟨1⟩ .bye, .cleanup ⟨1⟩]).isSome = true ∧
    (run Server.step server [.readError ⟨1⟩, .cleanup ⟨1⟩]).isSome = true ∧
    (∃ session, afterBye.tasks ⟨0⟩ = .running session) ∧
    afterBye.registry.tunnels.lookup ⟨1⟩ = none ∧
    (∃ session, afterDrop.tasks ⟨0⟩ = .running session) ∧
    (afterDrop.registry.tunnels.lookup ⟨1⟩).map TunnelInfo.state =
      some (.dangling defaultGracePeriod) :=
  ⟨rfl, rfl, rfl, ⟨_, rfl⟩, rfl, ⟨_, rfl⟩, rfl⟩

end Example

end KrotRelay.Guarantees
