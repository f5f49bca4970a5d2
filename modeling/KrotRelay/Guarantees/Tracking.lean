import KrotRelay.Guarantees.Attachment

/-!
Typestates that are followed along a run. A typestate of the dispatch code is computed
beside the relay: one stage for each connection, moved by the replies its dispatch gets
and never read by the relay. Whatever the typestate promises about the next call holds in
every interleaving.
-/
namespace KrotRelay.Guarantees
open Source Lib Server
open Function (update update_self update_of_ne)

variable {next : Server} {G : Type}

/-- What a dispatch may ask in which stage, where each reply leads, and the stages it
may return in. -/
structure Typestate (G : Type) where
  start : G
  allowed : Session → ClientFrame → G → Call → Prop
  next : Session → G → (call : Call) → call.Reply → G
  settled : G → Prop

namespace Typestate

variable {G : Type} (T : Typestate G)

def discipline (session : Session) (frame : ClientFrame) : Discipline relayInterface G where
  allowed := T.allowed session frame
  possible := possibleReply session
  next := T.next session

/-- The stages after one event. -/
def after (server : Server) (stages : Connection → G) : Event → Connection → G
  | .frame connection _ => update stages connection T.start
  | .call connection choice =>
    match server.tasks connection with
    | .dispatching session _ (.call request _) =>
      match server.answer connection choice request with
      | some (reply, _) =>
        update stages connection (T.next session (stages connection) request reply)
      | none => stages
    | _ => stages
  | _ => stages

/-- The relay together with the stages of its connections. -/
def step (state : Server × (Connection → G)) (event : Event) : Option (Server × (Connection → G)) :=
  (state.1.step event).map fun next => (next, T.after state.1 state.2 event)

theorem after_quiet (server : Server) (stages : Connection → G) (event : Event)
    (silent : Server.isQuiet event = true) : T.after server stages event = stages := by
  cases event <;> first | rfl | cases silent

/-- A run of the relay is a run with stages. -/
theorem run_stages (first last : Server) (stages : Connection → G) (events : List Event)
    (ran : run Server.step first events = some last) :
    ∃ later, run T.step (first, stages) events = some (last, later) := by
  induction events generalizing first stages with
  | nil =>
    cases ran
    exact ⟨stages, rfl⟩
  | cons event _ ih =>
    obtain ⟨next, stepped, ran⟩ := (run_cons _ _ _ _ _).mp ran
    obtain ⟨later, ran⟩ := ih next (T.after first stages event) ran
    refine ⟨later, (run_cons _ _ _ _ _).mpr ⟨_, ?_, ran⟩⟩
    simp only [step, stepped, Option.map_some]

theorem meets_stages (cond : Server → Event → Prop) (server : Server) (stages : Connection → G)
    (events : List Event) (met : Meets Server.step cond server events) :
    Meets T.step (fun state event => cond state.1 event) (server, stages) events := by
  induction events generalizing server stages with
  | nil => trivial
  | cons _ _ ih =>
    refine ⟨met.1, ?_⟩
    rintro ⟨next, later⟩ step
    obtain ⟨reached, moves, same⟩ := Option.map_eq_some_iff.mp step
    cases same
    exact ih next _ (met.2 next moves)

end Typestate

/-- The stages are those of the dispatches that are under way. -/
structure Tracked {G : Type} (T : Typestate G) (server : Server) (stages : Connection → G) :
    Prop where
  attached : Attached server
  follows : ∀ connection session frame program,
    server.tasks connection = .dispatching session frame program →
    Follows (T.discipline session frame) (fun _ stage => T.settled stage) (stages connection)
      program
  resting : ∀ connection,
    (∀ session frame program, server.tasks connection ≠ .dispatching session frame program) →
    T.settled (stages connection)

namespace Tracked

variable {G : Type} {T : Typestate G}

theorem begin (rests : T.settled T.start) {server : Server} (attached : Attached server)
    (none : ∀ conn session frame prog, server.tasks conn ≠ .dispatching session frame prog) :
    Tracked T server fun _ => T.start where
  attached := attached
  follows := fun conn session frame prog task =>
    absurd task (none conn session frame prog)
  resting := fun _ _ => rests

variable {server : Server} {stages : Connection → G} (tracked : Tracked T server stages)
include tracked

/-- No task enters or leaves a dispatch. -/
theorem carry (attached : Attached next) (tasks : ∀ conn session frame prog,
      next.tasks conn = .dispatching session frame prog ↔
      server.tasks conn = .dispatching session frame prog) : Tracked T next stages where
  attached := attached
  follows := fun conn session frame prog task =>
    tracked.follows conn session frame prog ((tasks _ _ _ _).mp task)
  resting := fun conn idle => tracked.resting conn fun session frame prog task =>
    idle session frame prog ((tasks _ _ _ _).mpr task)

/-- The task of one connection enters a dispatch, or goes on in one. -/
theorem advance (attached : Attached next) (prog) (tasks : next.tasks =
      update server.tasks conn (Server.afterDispatch session frame prog))
    (follows : Follows (T.discipline session frame) (fun _ stage => T.settled stage) moved
      prog) : Tracked T next (update stages conn moved) where
  attached := attached
  follows := by
    intro other running named body task
    rw [tasks] at task
    by_cases own : other = conn
    · subst own
      rw [update_self] at task ⊢
      obtain ⟨rfl, rfl, rfl⟩ := afterDispatch_dispatching task
      exact follows
    · rw [update_of_ne own] at task ⊢
      exact tracked.follows other running named body task
  resting := by
    intro other idle
    rw [tasks] at idle
    by_cases own : other = conn
    · subst own
      rw [update_self] at idle ⊢
      cases prog with
      | ret => exact follows
      | call request rest => exact absurd rfl (idle session frame (.call request rest))
    · rw [update_of_ne own] at idle ⊢
      exact tracked.resting other idle

/-- One event keeps the stages in step with the dispatches. -/
theorem step (starts : ∀ session frame, Follows (T.discipline session frame)
      (fun _ stage => T.settled stage) T.start (session.dispatch frame).run) {event : Event}
    (stepped : server.step event = some next) : Tracked T next (T.after server stages event) := by
  have attached := tracked.attached.step next event stepped
  cases Server.step_move server next event stepped with
  | quiet _ _ _ _ silent turned tasks =>
    rw [T.after_quiet server stages event silent]
    refine tracked.carry attached fun other session frame prog => ?_
    rw [tasks]
    exact dispatching_update (turn_dispatching turned) other session frame prog
  | ticked | reaped => exact tracked.carry attached fun _ _ _ _ => Iff.rfl
  | greeted _ _ _ rest reply _ task answered =>
    simp only [Typestate.after, task]
    refine tracked.carry attached fun other session frame prog => ?_
    rw [setTask_tasks, (answer_frame answered).1]
    exact dispatching_update (greeted_dispatching task (rest reply)) other session frame prog
  | begun conn session frame =>
    exact tracked.advance attached _ rfl (starts session frame)
  | answered conn _ session frame _ rest reply _ task answered =>
    simp only [Typestate.after, task, answered]
    have running : (server.tasks conn).session? = some session := by rw [task]; rfl
    have mode := (tracked.attached.placed conn session running).2
    obtain ⟨_, follows⟩ := tracked.follows conn session frame _ task
    exact tracked.advance attached (rest reply) (by rw [← (answer_frame answered).1]; rfl)
      (follows reply (answer_possible tracked.attached mode answered))
  | cleaned _ _ _ task =>
    refine tracked.carry attached fun other running frame prog => ?_
    rw [setTask_tasks]
    refine dispatching_update (fun _ _ _ => ?_) other running frame prog
    rw [task]
    exact ⟨nofun, nofun⟩

end Tracked

theorem tracked_init (T : Typestate G) (rests : T.settled T.start) (config : Config)
    (pool : PortPool) (entries : HashMap PubKey AuthorizedEntry) (peers : List String)
    (now : Instant) : Tracked T (Server.init config pool entries peers now) fun _ => T.start := by
  refine .begin rests (attached_init config pool entries peers now) ?_
  intro conn session frame prog task
  cases task

/-- The invariant rule for the relay with stages: what every step that meets `cond` keeps,
given that the stages are those of the dispatches. -/
theorem tracked_run (T : Typestate G)
    (starts : ∀ session frame, Follows (T.discipline session frame)
      (fun _ stage => T.settled stage) T.start (session.dispatch frame).run)
    {cond : Server × (Connection → G) → Event → Prop} (inv : Server → (Connection → G) → Prop)
    (kept : ∀ server stages event next, Tracked T server stages → inv server stages →
      cond (server, stages) event → server.step event = some next →
      inv next (T.after server stages event)) {server last : Server} {stages later : Connection → G}
    {events : List Event} (tracked : Tracked T server stages) (start : inv server stages)
    (met : Meets T.step cond (server, stages) events)
    (ran : run T.step (server, stages) events = some (last, later)) :
    Tracked T last later ∧ inv last later := by
  refine run_meets (fun state => Tracked T state.1 state.2 ∧ inv state.1 state.2) ?_
    ⟨tracked, start⟩ met ran
  rintro ⟨server, stages⟩ event ⟨next, moved⟩ ⟨tracked, held⟩ meets step
  obtain ⟨reached, moves, same⟩ := Option.map_eq_some_iff.mp step
  cases same
  exact ⟨tracked.step starts moves, kept server stages event next tracked held meets moves⟩

end KrotRelay.Guarantees
