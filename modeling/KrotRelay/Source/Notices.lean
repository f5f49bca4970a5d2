import KrotRelay.Source.Metering

/-!
# Quota notices (krot-server/src/rate.rs: `charge`; session.rs: the `ctrl_rx` branch)

The rate state of a key holds the sender of one session's channel. A charge over the quota
posts its notice there; a send to a channel whose receiver is gone does nothing, and the
receiver goes when `Session::run` returns. The session's loop forwards what arrives, after
the branches that `biased` puts first. `started` only observes: the connections whose
session was started.
-/
namespace KrotRelay.Source
open Function (update update_self update_of_ne)

/-- The session whose `run` has not returned. -/
def Task.running? : Task → Option Session
  | .running session => some session
  | .dispatching session _ _ => some session
  | _ => none

theorem Task.session?_of_running? {task : Task} {session : Session}
    (running : task.running? = some session) : task.session? = some session := by
  cases task <;> cases running <;> rfl

namespace Server

/-- A session that has returned stays where it is until it is cleaned up. -/
theorem step_ended {server next : Server} {event : Event} {conn : Connection}
    {session : Session} {result : Except ServerError SessionOutcome}
    (step : server.step event = some next) (ended : server.tasks conn = .ended session result) :
    next.tasks conn = .ended session result ∨ next.tasks conn = .closed := by
  have elsewhere {moved : Connection} (busy : server.tasks moved ≠ .ended session result) :
      conn ≠ moved := by
    rintro rfl
    exact busy ended
  cases step_move server next event step with
  | quiet _ _ moved _ _ turn tasks =>
    rw [tasks]
    by_cases own : conn = moved
    · subst own
      rw [update_self]
      rw [ended] at turn
      cases turn
      exact .inl rfl
    · rw [update_of_ne own]
      exact .inl ended
  | ticked | reaped => exact .inl ended
  | greeted _ _ _ _ _ _ task answered =>
    rw [setTask_tasks, (answer_frame answered).1, update_of_ne (elsewhere (by rw [task]; rintro ⟨⟩))]
    exact .inl ended
  | begun _ _ _ task =>
    rw [setTask_tasks, update_of_ne (elsewhere (by rw [task]; rintro ⟨⟩))]
    exact .inl ended
  | answered _ _ _ _ _ _ _ _ task answered =>
    rw [setTask_tasks, (answer_frame answered).1, update_of_ne (elsewhere (by rw [task]; rintro ⟨⟩))]
    exact .inl ended
  | cleaned moved =>
    rw [setTask_tasks]
    by_cases own : conn = moved
    · subst own
      exact .inr (update_self ..)
    · rw [update_of_ne own]
      exact .inl ended

/-- Only the start of a session makes one run. -/
theorem step_running {server next : Server} {event : Event}
    (other : ∀ conn, event ≠ .subscribe conn)
    (step : server.step event = some next) (conn : Connection) (session : Session)
    (running : (next.tasks conn).running? = some session) :
    (server.tasks conn).running? = some session := by
  have present := step_session other step conn session (Task.session?_of_running? running)
  cases task : server.tasks conn with
  | running | dispatching =>
    rw [task] at present
    exact present
  | ended =>
    rcases step_ended step task with same | closed
    · rw [same] at running
      cases running
    · rw [closed] at running
      cases running
  | absent | handshaking | authenticated | closed =>
    rw [task] at present
    cases present

end Server

structure NotifiedServer where
  metered : MeteredServer
  /-- the frames in each session's channel -/
  ctrl : Connection → List ServerFrame
  started : List Connection

namespace NotifiedServer

inductive Event where
  | metered (event : MeteredServer.Event)
  /-- the `ctrl_rx` branch; a write that fails loses the frame -/
  | forward (connection : Connection) (written : Bool)

def init (metered : MeteredServer) : NotifiedServer where
  metered := metered
  ctrl := fun _ => []
  started := []

abbrev server (notified : NotifiedServer) : Server := notified.metered.server

/-- What a charge sends, and to which session. -/
def notice (notified : NotifiedServer) : MeteredServer.Event → Option (Connection × ServerFrame)
  | .charge handle noticed tunnelId n =>
    notified.metered.cells[handle.cell]?.bind fun cell =>
      (cell.charge notified.server.now noticed tunnelId n).2.1
  | .relay _ => none

def post (notified : NotifiedServer) (target : Connection) (frame : ServerFrame) : NotifiedServer :=
  match (notified.server.tasks target).running? with
  | some _ =>
    { notified with
      ctrl := update notified.ctrl target (notified.ctrl target ++ [frame]) }
  | none => notified

def send (notified : NotifiedServer) : Option (Connection × ServerFrame) → NotifiedServer
  | some (target, frame) => notified.post target frame
  | none => notified

def observe (notified : NotifiedServer) : MeteredServer.Event → List Connection
  | .relay (.subscribe connection) => notified.started ++ [connection]
  | _ => notified.started

def step (notified : NotifiedServer) : Event → Option NotifiedServer
  | .metered event =>
    (notified.metered.step event).map fun next =>
      { notified.send (notified.notice event) with
        metered := next
        started := notified.observe event }
  | .forward connection written =>
    match notified.server.tasks connection, notified.ctrl connection with
    | .running _, frame :: rest =>
      if notified.server.shutdown || notified.server.isRevoked connection then none
      else
        let server :=
          if written then notified.server.recordSent connection frame else notified.server
        some { notified with
          metered := { notified.metered with server := server }
          ctrl := update notified.ctrl connection rest }
    | _, _ => none

end NotifiedServer
end KrotRelay.Source
