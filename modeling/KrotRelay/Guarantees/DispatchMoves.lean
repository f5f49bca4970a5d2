import KrotRelay.Guarantees.Tracking

/-!
What one event does to the relay and to the stages of an arbitrary typestate, together: a
dispatch makes one allowed call, a session is cleaned up, the reaper runs, or nothing happens
to the registry and the listener tasks.
-/
namespace KrotRelay.Guarantees
open Source Lib Server

structure Untouched (server next : Server) : Prop where
  registry : next.registry = server.registry
  tcpTasks : next.tcpTasks = server.tcpTasks
  allocated : next.allocated = server.allocated

inductive DispatchMove {G : Type} (T : Typestate G) (server : Server) (stages : Connection → G) :
    Event → Server → (Connection → G) → Prop where
  | rested (event : Event) (next : Server) (later : Connection → G) (same : Untouched server next)
      (stays : ∀ connection, later connection = stages connection ∨
        T.settled (stages connection) ∧ later connection = T.start)
      (dispatches : ∀ connection session frame program,
        next.tasks connection = .dispatching session frame program →
        later connection = T.start ∧ (∃ before, server.tasks connection = .running before) ∨
          later connection = stages connection ∧
            server.tasks connection = .dispatching session frame program) :
      DispatchMove T server stages event next later
  | reaped : DispatchMove T server stages .reapExpired
        { server with registry := (server.registry.reapExpired server.now).2 } stages
  | advanced (connection : Connection) (choice : Choice) (session : Session)
      (frame : ClientFrame) (request : Call)
      (rest : request.Reply → Prog relayInterface (Except ServerError DispatchOutcome))
      (reply : request.Reply) (middle : Server)
      (task : server.tasks connection = .dispatching session frame (.call request rest))
      (allowed : T.allowed session frame (stages connection) request)
      (answered : server.answer connection choice request = some (reply, middle)) :
      DispatchMove T server stages (.call connection choice)
        (middle.setTask connection (Server.afterDispatch session frame (rest reply)))
        (Function.update stages connection (T.next session (stages connection) request reply))
  | cleaned (connection session result) (ended : server.tasks connection = .ended session result) :
      DispatchMove T server stages (.cleanup connection)
        ({ server with registry := server.disposeTunnels session.pubkey result }.setTask
          connection .closed) stages

theorem dispatch_event_move {G : Type} {T : Typestate G} {server next : Server}
    {stages : Connection → G} {event : Event} (tracked : Tracked T server stages)
    (step : server.step event = some next) :
    DispatchMove T server stages event next (T.after server stages event) := by
  cases Server.step_move server next event step with
  | quiet _ _ _ _ silent turned tasks registry _ _ allocated =>
    rw [T.after_quiet server stages event silent]
    refine .rested _ _ _ ⟨registry, step_tcpTasks silent step, allocated⟩
      (fun _ => .inl rfl) fun other session frame prog dispatching => .inr ⟨rfl, ?_⟩
    rw [tasks] at dispatching
    exact (dispatching_update (turn_dispatching turned) other session frame prog).mp dispatching
  | ticked =>
    exact .rested _ _ _ ⟨rfl, rfl, rfl⟩ (fun _ => .inl rfl)
      fun _ _ _ _ dispatching => .inr ⟨rfl, dispatching⟩
  | reaped => exact .reaped
  | greeted conn _ _ rest reply _ task answered =>
    obtain ⟨stage, allowed, _⟩ := tracked.attached.greeting conn _ task
    obtain ⟨registry, allocated, tcpTasks⟩ := answer_handshake allowed answered
    simp only [Typestate.after, task]
    refine .rested _ _ _ ⟨registry, tcpTasks, allocated⟩ (fun _ => .inl rfl)
      fun other session frame prog dispatching => .inr ⟨rfl, ?_⟩
    rw [setTask_tasks, (answer_frame answered).1] at dispatching
    exact (dispatching_update (greeted_dispatching task (rest reply)) other session frame
      prog).mp dispatching
  | begun conn session _ task =>
    refine .rested _ _ _ ⟨rfl, rfl, rfl⟩ (fun other => ?_) fun other _ _ _ dispatching => ?_
    · by_cases own : other = conn
      · subst own
        refine .inr ⟨tracked.resting other fun _ _ _ dispatching => ?_, Function.update_self ..⟩
        rw [task] at dispatching
        cases dispatching
      · exact .inl (Function.update_of_ne own ..)
    · by_cases own : other = conn
      · subst own
        exact .inl ⟨Function.update_self .., session, task⟩
      · rw [setTask_tasks, Function.update_of_ne own] at dispatching
        exact .inr ⟨Function.update_of_ne own .., dispatching⟩
  | answered conn choice session frame request rest reply middle task answered =>
    obtain ⟨allowed, _⟩ := tracked.follows conn session frame _ task
    simp only [Typestate.after, task, answered]
    exact .advanced conn choice session frame request rest reply middle task allowed answered
  | cleaned conn session result task => exact .cleaned conn session result task

end KrotRelay.Guarantees
