import KrotRelay.Guarantees.RateCaps
import KrotRelay.Source.Notices

/-!
Notices of a breached quota. All sessions of a key share one slot for the sender: the last
session to start takes it, and any session that ends empties it. The notice reaches a running
session as long as the session in the slot outlives the others of its key.
-/
namespace KrotRelay.Guarantees
open Source Lib List Server Option

variable {ctrl : Connection → List ServerFrame} {event : Event} {next : Server}
  {connection other : Connection} {session : Session}

/-- A charge over the quota of a key that has a running session is announced on the channel of
one that is still running. -/
def NoticesReach (notified : NotifiedServer) : Prop :=
  ∀ pubkey handle cell, notified.server.rates.lookup pubkey = some handle →
    notified.metered.cells[handle.cell]? = some cell →
    (∃ connection session, (notified.server.tasks connection).running? = some session ∧
      session.pubkey = pubkey) →
    ∀ noticed tunnelId n retry,
      (cell.charge notified.server.now noticed tunnelId n).1 = .quotaExceeded retry →
      ∃ target session next, (notified.server.tasks target).running? = some session ∧
        session.pubkey = pubkey ∧
        notified.step (.metered (.charge handle noticed tunnelId n)) = some next ∧
        next.ctrl target = notified.ctrl target ++ [.rateLimit (some tunnelId) retry]

section Condition

/-- Another session of the key is running. -/
def othersRunning (notified : NotifiedServer) (connection : Connection) (pubkey : PubKey) : Bool :=
  notified.started.any fun other =>
    other != connection &&
      (notified.server.tasks other).running?.any fun session => session.pubkey == pubkey

/-- The event makes the session's `run` return. -/
def endsSession (server : Server) (event : Event) (connection : Connection) : Bool :=
  (server.step event).any fun next => (next.tasks connection).running?.isNone

/-- The session whose sender is in the slot of its key. -/
def inSlot (notified : NotifiedServer) (connection : Connection) (session : Session) : Bool :=
  notified.metered.cells[session.rate.cell]?.any fun cell => cell.ctrlTx == some connection

/-- While another session of the key is running, no session of the key is cleaned up, and the
one in the slot does not end. -/
def slotKept (notified : NotifiedServer) : NotifiedServer.Event → Bool
  | .metered (.relay event) =>
    match event.connection? with
    | none => true
    | some connection =>
      match notified.server.tasks connection with
      | .ended session _ => !othersRunning notified connection session.pubkey
      | .running session | .dispatching session _ _ =>
        !endsSession notified.server event connection || !inSlot notified connection session ||
          !othersRunning notified connection session.pubkey
      | _ => true
  | _ => true

end Condition

/-- The slot of a key with a running session holds a running session of that key. -/
structure Slotted (metered : MeteredServer) (started : List Connection) : Prop where
  handles : Handles metered
  listed : ∀ connection session, (metered.server.tasks connection).running? = some session →
    connection ∈ started
  held : ∀ connection session, (metered.server.tasks connection).running? = some session →
    ∃ cell target other, metered.cells[session.rate.cell]? = some cell ∧
      cell.ctrlTx = some target ∧ (metered.server.tasks target).running? = some other ∧
      other.pubkey = session.pubkey

namespace Slotted
variable {metered : MeteredServer} {started : List Connection} (holds : Slotted metered started)
include holds

theorem reach : NoticesReach ⟨metered, ctrl, started⟩ := by
  intro pubkey handle cell stored found ⟨conn, session, running, key⟩ noticed tunnelId n
    retry exceeded
  have present := holds.handles.sessions conn session (Task.session?_of_running? running)
  cases stored.symm.trans (key ▸ present)
  obtain ⟨slot, target, other, there, attached, alive, same⟩ :=
    holds.held conn session running
  cases found.symm.trans there
  have posted : NotifiedServer.notice ⟨metered, ctrl, started⟩
      (.charge session.rate noticed tunnelId n) =
      some (target, .rateLimit (some tunnelId) retry) := by
    simp only [NotifiedServer.notice, found, bind_some]
    rw [cell.charge_notice _ _ _ _ _ exceeded, attached, map_some]
  refine ⟨target, other, _, alive, same.trans key, rfl, ?_⟩
  rw [posted]
  simp only [NotifiedServer.send, NotifiedServer.post, alive, Function.update_self]

theorem charge (handle : RateHandle) (noticed : Instant) (tunnelId : TunnelId) (n : UInt64) :
    Slotted (metered.updateCell handle fun cell =>
      (cell.charge metered.server.now noticed tunnelId n).2.2) started where
  handles := holds.handles.updateCell handle _
  listed := holds.listed
  held := by
    intro conn session running
    obtain ⟨cell, target, other, found, attached, alive⟩ := holds.held conn session running
    by_cases same : handle.cell = session.rate.cell
    · rw [← same] at found ⊢
      exact ⟨_, target, other, MeteredServer.updateCell_own found, by simpa using attached, alive⟩
    · exact ⟨cell, target, other, (MeteredServer.updateCell_other same).trans found, attached,
        alive⟩

/-- The new session takes the slot of its key and leaves the others alone. -/
theorem subscribe {ok : HandshakeOk} (task : metered.server.tasks connection = .authenticated ok) :
    Slotted ((metered.begun connection ok).updateCell
      (metered.server.ensureRateState ok.pubkey).1 (·.attachCtrl connection))
      (started ++ [connection]) := by
  have handles := holds.handles.begun connection ok
  have given := (begun_lookup metered connection ok).1
  have tasks := (begun_cases metered connection ok).1
  generalize (metered.server.ensureRateState ok.pubkey).1 = handle at tasks given ⊢
  -- the new session is the one in the slot
  have own : ∃ cell, ((metered.begun connection ok).updateCell handle
        (·.attachCtrl connection)).cells[handle.cell]? = some cell ∧
      cell.ctrlTx = some connection := by
    have found := getElem?_eq_getElem (handles.bounded ok.pubkey handle given)
    exact ⟨_, MeteredServer.updateCell_own found, rfl⟩
  have fresh : ((metered.begun connection ok).server.tasks connection).running? =
      some ⟨ok.pubkey, ok.sessionId, connection, metered.server.config.mode, ok.entry, handle⟩ := by
    rw [tasks, Function.update_self]
    rfl
  have others {queried : Connection} (differs : queried ≠ connection) :
      (metered.begun connection ok).server.tasks queried = metered.server.tasks queried := by
    rw [tasks, Function.update_of_ne differs]
  refine ⟨handles.updateCell handle _, ?_, ?_⟩
  · intro queried session running
    by_cases here : queried = connection
    · exact mem_append_right _ (mem_singleton.mpr here)
    · rw [MeteredServer.updateCell_server, others here] at running
      exact mem_append_left _ (holds.listed queried session running)
  · intro queried session running
    rw [MeteredServer.updateCell_server] at running ⊢
    have present := handles.sessions queried session (Task.session?_of_running? running)
    by_cases same : handle.cell = session.rate.cell
    · -- a session of the key, the new one included
      obtain ⟨cell, found, attached⟩ := own
      rw [same] at found
      exact ⟨cell, connection, _, found, attached, fresh, handles.apart _ _ _ _ given present same⟩
    · have here : queried ≠ connection := by
        rintro rfl
        cases fresh.symm.trans running
        exact same rfl
      rw [others here] at running
      obtain ⟨cell, target, other, found, attached, alive, key⟩ :=
        holds.held queried session running
      have elsewhere : target ≠ connection := by
        rintro rfl
        rw [task] at alive
        cases alive
      refine ⟨cell, target, other, ?_, attached, by rwa [others elsewhere], key⟩
      rw [MeteredServer.updateCell_other same]
      exact MeteredServer.ensureRateState_cell found _ _

theorem others_running (ctrl : Connection → List ServerFrame) (differs : other ≠ conn)
    (running : (metered.server.tasks other).running? = some session) :
    othersRunning ⟨metered, ctrl, started⟩ conn session.pubkey = true := by
  refine List.any_eq_true.mpr ⟨other, holds.listed other session running, ?_⟩
  simp [differs, running]

/-- A session in the slot that ends is the last running one of its key. -/
theorem slot_ends {target : Connection} {first : Session} {cell : RateLimitState}
    (step : metered.server.step event = some next) (moves : event.connection? = some target)
    (kept : slotKept ⟨metered, ctrl, started⟩ (.metered (.relay event)) = true)
    (alive : (metered.server.tasks target).running? = some first)
    (found : metered.cells[first.rate.cell]? = some cell) (attached : cell.ctrlTx = some target)
    (ends : (next.tasks target).running? = none) (differs : other ≠ target)
    (running : (metered.server.tasks other).running? = some session) :
    first.pubkey ≠ session.pubkey := by
  intro same
  have busy := holds.others_running ctrl differs running
  have ended : endsSession metered.server event target = true := by
    simp [endsSession, step, ends]
  have slot : inSlot ⟨metered, ctrl, started⟩ target first = true := by
    simp [inSlot, found, attached]
  rw [← same] at busy
  simp only [slotKept, moves] at kept
  cases task : metered.server.tasks target <;> rw [task] at alive <;> cases alive <;>
    simp [NotifiedServer.server, task, ended, slot, busy] at kept

theorem moved (other : ∀ conn, event ≠ .subscribe conn)
    (step : metered.server.step event = some next)
    (kept : slotKept ⟨metered, ctrl, started⟩ (.metered (.relay event)) = true) :
    Slotted { metered with server := next } started where
  handles := holds.handles.moved other step
  listed := fun conn session running =>
    holds.listed conn session (step_running other step conn session running)
  held := by
    intro conn session running
    have before := step_running other step conn session running
    obtain ⟨cell, target, first, found, attached, alive, key⟩ :=
      holds.held conn session before
    refine ⟨cell, target, first, found, attached, ?_, key⟩
    dsimp only
    by_cases moves : event.connection? = some target
    · cases after : (next.tasks target).running? with
      | some same => rw [step_running other step target same after] at alive; exact alive
      | none =>
        have differs : conn ≠ target := by
          rintro rfl
          rw [after] at running
          cases running
        have handle := holds.handles.sessions target first (Task.session?_of_running? alive)
        rw [key, holds.handles.sessions conn session (Task.session?_of_running? before)] at handle
        rw [Option.some.inj handle] at found
        exact absurd key (holds.slot_ends step moves kept alive found attached after differs before)
    · rw [step_tasks_other step target moves]
      exact alive

/-- Emptying a slot that no running session uses. -/
theorem detach {handle : RateHandle}
    (unused : ∀ conn session, (metered.server.tasks conn).running? = some session →
      handle.cell ≠ session.rate.cell) :
    Slotted (metered.updateCell handle (·.detachCtrl)) started where
  handles := holds.handles.updateCell handle _
  listed := holds.listed
  held := by
    intro conn session running
    obtain ⟨cell, target, other, found, rest⟩ := holds.held conn session running
    refine ⟨cell, target, other, ?_, rest⟩
    rw [MeteredServer.updateCell_other (unused conn session running)]
    exact found

theorem step {event : NotifiedServer.Event} {next : NotifiedServer}
    (kept : slotKept ⟨metered, ctrl, started⟩ event = true)
    (stepped : NotifiedServer.step ⟨metered, ctrl, started⟩ event = some next) :
    Slotted next.metered next.started := by
  cases event with
  | forward _ written =>
    simp only [NotifiedServer.step] at stepped
    split at stepped
    · split at stepped <;> cases stepped
      cases written <;> exact ⟨⟨holds.handles.sized, holds.handles.bounded, holds.handles.apart,
          holds.handles.sessions⟩, holds.listed, holds.held⟩
    · cases stepped
  | metered event =>
    obtain ⟨after, moved, rfl⟩ := map_eq_some_iff.mp stepped
    cases event with
    | charge handle noticed tunnelId n =>
      cases moved
      exact holds.charge handle noticed tunnelId n
    | relay event =>
      obtain ⟨server, relayed, rfl⟩ := map_eq_some_iff.mp moved
      cases event with
      | subscribe connection =>
        simp only [Server.step] at relayed
        split at relayed <;> cases relayed
        rename_i ok task
        simp only [MeteredServer.around, task]
        exact holds.subscribe task
      | cleanup connection =>
        have after := holds.moved (by rintro _ ⟨⟩) relayed kept
        simp only [MeteredServer.around]
        cases task : metered.server.tasks connection with
        | ended session =>
          refine after.detach fun other running alive => ?_
          intro same
          have differs : other ≠ connection := by
            rintro rfl
            rcases step_ended relayed task with there | there <;>
              rw [show ({ metered with server := server } : MeteredServer).server.tasks other = _
                from there] at alive <;> cases alive
          have before := step_running (by rintro _ ⟨⟩) relayed other running alive
          have busy := holds.others_running ctrl differs before
          have key : session.pubkey = running.pubkey :=
            holds.handles.apart _ _ _ _
              (holds.handles.sessions connection session (by rw [task]; rfl))
              (holds.handles.sessions other running (Task.session?_of_running? before)) same
          rw [← key] at busy
          simp [slotKept, Event.connection?, NotifiedServer.server, task, busy] at kept
        | _ => exact after
      | _ => exact holds.moved (by rintro _ ⟨⟩) relayed kept

end Slotted

variable (config : Config) (pool : PortPool) (entries : HashMap PubKey AuthorizedEntry)
  (peers : List String) (now : Instant)

theorem slotted_init (bwPartitions : Nat) :
    Slotted (.init (Server.init config pool entries peers now) bwPartitions) [] := by
  refine ⟨⟨rfl, ?_, ?_, ?_⟩, ?_, ?_⟩
  · intro pubkey handle found
    cases found
  · intro first second left right found
    cases found
  · intro conn session present
    cases present
  · intro conn session running
    cases running
  · intro conn session running
    cases running

/-- In every run in which the session in a key's slot outlasts the key's other sessions, and
none of them is cleaned up while one is running, a breach is announced to a running session. -/
theorem quota_notices_reach
    (bwPartitions : Nat) (events : List NotifiedServer.Event) (notified : NotifiedServer)
    (kept : Meets NotifiedServer.step (fun state event => slotKept state event = true)
      (.init (.init (Server.init config pool entries peers now) bwPartitions)) events)
    (finished : run NotifiedServer.step
      (.init (.init (Server.init config pool entries peers now) bwPartitions)) events =
        some notified) : NoticesReach notified :=
  (run_meets (fun state => Slotted state.metered state.started)
    (fun _ _ _ holds kept stepped => holds.step kept stepped)
    (slotted_init config pool entries peers now bwPartitions) kept finished).reach

section Reconnect

/-- dave has a daily quota of 1000 bytes. -/
def quotaKeys : HashMap PubKey AuthorizedEntry :=
  AList.insert dave { anyHttp with quota := some ⟨1000, .day⟩ } ∅

def notifiedRelay : NotifiedServer := .init (.init (.init domainConfig ⟨7000, 7001⟩ quotaKeys [] 0) 1)

/-- dave's connection drops and is cleaned up; dave comes back. -/
def cleanReconnect : List NotifiedServer.Event :=
  let events : List Event := signIn ⟨0⟩ dave ⟨.replicate 16 1⟩ ++ [.readError ⟨0⟩, .cleanup ⟨0⟩] ++
    signIn ⟨1⟩ dave ⟨.replicate 16 2⟩
  events.map fun event => .metered (.relay event)

/-- dave comes back before the relay has noticed that the old connection is dead. -/
def earlyReconnect : List NotifiedServer.Event :=
  let events : List Event := signIn ⟨0⟩ dave ⟨.replicate 16 1⟩ ++
    signIn ⟨1⟩ dave ⟨.replicate 16 2⟩ ++ [.readError ⟨0⟩, .cleanup ⟨0⟩]
  events.map fun event => .metered (.relay event)

theorem quota_notices_reach_dave :
    (∃ session, (final NotifiedServer.step notifiedRelay cleanReconnect).server.tasks ⟨1⟩ =
      .running session ∧ session.pubkey = dave) ∧
    NoticesReach (final NotifiedServer.step notifiedRelay cleanReconnect) :=
  ⟨⟨_, rfl, rfl⟩, quota_notices_reach domainConfig ⟨7000, 7001⟩ quotaKeys [] 0 1 cleanReconnect _
    (by decide +kernel) (run_final (by decide +kernel))⟩

/-- The old session's clean-up empties the slot of the new one, and the notice is lost. -/
theorem late_cleanup_silences_session : run NotifiedServer.step notifiedRelay earlyReconnect =
      some (final NotifiedServer.step notifiedRelay earlyReconnect) ∧
    ¬ NoticesReach (final NotifiedServer.step notifiedRelay earlyReconnect) := by
  refine ⟨run_final (by decide +kernel), fun reach => ?_⟩
  obtain ⟨target, session, next, alive, _, stepped, posted⟩ :=
    reach dave ⟨0⟩ _ rfl rfl ⟨⟨1⟩, _, rfl, rfl⟩ 0 ⟨1⟩ 2000 86400000 rfl
  cases stepped
  have silent : (final NotifiedServer.step notifiedRelay earlyReconnect).notice
      (.charge ⟨0⟩ 0 ⟨1⟩ 2000) = none := by rfl
  rw [silent] at posted
  simp [NotifiedServer.send] at posted

end Reconnect

end KrotRelay.Guarantees
