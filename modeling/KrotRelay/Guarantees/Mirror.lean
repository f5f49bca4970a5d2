import KrotRelay.Guarantees.Attachment
import KrotRelay.Guarantees.Lifecycle

/-!
# The relay refines the ledger

Every run of the relay is a run of the registry ledger: a dispatch that follows its
discipline makes the registry calls the ledger allows, an allocation in a session's
hands is an allocation in flight, and a session that gives up abandons it. What was
proved of ledgers (the representation invariant, the life of an id) is thereby proved
of the relay. The stages of the connections are bookkeeping: computed alongside a run,
never read by the relay.
-/
namespace KrotRelay.Guarantees
open Source Lib TunnelRegistry Server
open Function (update update_self update_of_ne)

variable {call : Call} {frame : ClientFrame} {ledger after : Ledger} {middle server next : Server}
  {session : Session} {stage : Stage} {choice : Choice} {connection : Connection}
  {stages : Connection → Stage}

/-- The ledger event a call of a session amounts to. -/
def ledgerCall (choice : Choice) (stage : Stage) : (call : Call) → call.Reply → List Ledger.Event
  | .tryResume label sessionId pubkey connection, _ =>
    [.tryResume choice.order label sessionId pubkey connection]
  | .allocateHttp label, _ => [.allocateHttp label]
  | .allocateTcp allowlist, _ => [.allocateTcp allowlist]
  | .insert info, _ => (stage.alloc?.map fun alloc => .insert alloc info).toList
  | .remove id, _ => [.remove id]
  | .setTcpAbort id newAbort, _ => [.setTcpAbort id newAbort]
  | .bind _, .error _ => (stage.alloc?.map .abandon).toList
  | .localAddr _, .error _ => (stage.alloc?.map .abandon).toList
  | _, _ => []

/-- How one call changes what a session has in flight. -/
inductive FlightChange (before : List Alloc) (stage : Stage) : List Alloc → Stage → Prop where
  | same (later) (kept : later.alloc? = stage.alloc?) : FlightChange before stage before later
  | granted (alloc) (fresh : alloc ∉ before) (none : stage.alloc? = none) :
      FlightChange before stage (alloc :: before) (.reserved alloc)
  | consumed (alloc later) (had : stage.alloc? = some alloc)
      (none : later.alloc? = none) : FlightChange before stage (before.erase alloc) later

/-- The ledger's state as the relay's fields. -/
structure SameFields (server : Server) (ledger : Ledger) : Prop where
  registry : ledger.registry = server.registry
  now : ledger.now = server.now
  allocated : ledger.allocated = server.allocated

theorem not_flight_of_grants (holds : Representation ledger) {registry : TunnelRegistry}
    {alloc : Alloc} (grants : ledger.registry.Grants registry alloc) : alloc ∉ ledger.inFlight := by
  intro mem
  have below := holds.issued alloc.id alloc.kind (.flight mem)
  rw [grants.id] at below
  exact Nat.lt_irrefl _ below

/-- Questions concern neither the ledger nor the stage. -/
theorem ledgerCall_question (choice : Choice) (stage : Stage) (call : Call) (reply : call.Reply)
    (asks : Server.isQuestion call = true) :
    ledgerCall choice stage call reply = [] ∧ nextStage stage call reply = stage := by
  cases call <;> first | exact ⟨rfl, rfl⟩ | cases asks

theorem nextStage_written_alloc? (stage : Stage) (sent : ServerFrame) :
    (nextStage stage (.writeFrame sent) (.ok ())).alloc? = stage.alloc? := by
  simp only [nextStage]
  split
  · cases stage <;> rfl
  · rfl

/-- A session's call, answered by the relay, is a run of the ledger. -/
theorem ledgerCall_run (holds : Representation ledger) (same : SameFields server ledger)
    {reply : call.Reply} (owns : ∀ alloc, stage.alloc? = some alloc → alloc ∈ ledger.inFlight)
    (allowed : allowedCall session frame stage call)
    (answered : server.answer conn choice call = some (reply, middle)) :
    ∃ after, run Ledger.step ledger (ledgerCall choice stage call reply) = some after ∧
      SameFields middle after ∧
      FlightChange ledger.inFlight stage after.inFlight (nextStage stage call reply) := by
  obtain ⟨registry, now, allocated⟩ := same
  cases answer_cases answered with
  | question _ _ asks =>
    obtain ⟨nothing, still⟩ := ledgerCall_question choice stage call reply asks
    rw [nothing, still]
    exact ⟨ledger, rfl, ⟨registry, now, allocated⟩, .same _ rfl⟩
  | resumed label sessionId pubkey attached =>
    refine ⟨_, (run_single _ _ _ _).mpr rfl, ⟨?_, now, allocated⟩, .same _ ?_⟩
    · rw [registry]
    · obtain ⟨rfl, _⟩ := allowed
      generalize (server.registry.tryResume choice.order label sessionId pubkey attached).1 = outcome
      cases outcome <;> rfl
  | grantedHttp label id granted result =>
    obtain ⟨rfl, _⟩ := allowed
    rw [← registry] at result
    have grants := allocateHttp_ok _ _ _ _ result
    refine ⟨ledger.granted granted ⟨id, .http label⟩, (run_single _ _ _ _).mpr ?_,
      ⟨rfl, now, congrArg (· + 1) allocated⟩, .granted _ (not_flight_of_grants holds grants) rfl⟩
    simp only [Ledger.step, result]
  | grantedTcp _ id port granted result =>
    obtain ⟨rfl, _⟩ := allowed
    rw [← registry] at result
    have grants := allocateTcp_ok _ _ _ _ _ result
    refine ⟨ledger.granted granted ⟨id, .tcp port⟩, (run_single _ _ _ _).mpr ?_,
      ⟨rfl, now, congrArg (· + 1) allocated⟩, .granted _ (not_flight_of_grants holds grants) rfl⟩
    simp only [Ledger.step, result]
  | refusedHttp _ _ result =>
    rw [← registry] at result
    refine ⟨ledger, (run_single _ _ _ _).mpr ?_, ⟨registry, now, allocated⟩, .same _ rfl⟩
    simp only [Ledger.step, result]
  | refusedTcp _ _ result =>
    rw [← registry] at result
    refine ⟨ledger, (run_single _ _ _ _).mpr ?_, ⟨registry, now, allocated⟩, .same _ rfl⟩
    simp only [Ledger.step, result]
  | inserted =>
    obtain ⟨_, _, _, alloc, rfl, fits⟩ := allowed
    have member := owns alloc rfl
    refine ⟨_, (run_single _ _ _ _).mpr (if_pos ⟨member, fits⟩), ⟨?_, now, allocated⟩,
      .consumed alloc _ rfl rfl⟩
    rw [registry]
  | removed | handled =>
    refine ⟨_, (run_single _ _ _ _).mpr rfl, ⟨?_, now, allocated⟩, .same _ rfl⟩
    rw [registry]
  | unbound =>
    obtain ⟨id, rfl⟩ := allowed
    exact ⟨_, (run_single _ _ _ _).mpr (if_pos (owns _ rfl)), ⟨registry, now, allocated⟩,
      .consumed _ _ rfl rfl⟩
  | unlocated =>
    obtain ⟨alloc, rfl⟩ := allowed
    exact ⟨_, (run_single _ _ _ _).mpr (if_pos (owns _ rfl)), ⟨registry, now, allocated⟩,
      .consumed _ _ rfl rfl⟩
  | written sent =>
    exact ⟨ledger, rfl, ⟨registry, now, allocated⟩, .same _ (nextStage_written_alloc? stage sent)⟩
  | unwritten | bound | located | spawned =>
    exact ⟨ledger, rfl, ⟨registry, now, allocated⟩, .same _ rfl⟩
  | fetched | appended | unparsed => exact allowed.elim

/-- The allocations in flight are the ones in some session's hands, one session each. -/
structure Flights (inFlight : List Alloc) (stages : Connection → Stage) : Prop where
  listed : ∀ alloc, alloc ∈ inFlight ↔ ∃ connection, (stages connection).alloc? = some alloc
  single : ∀ first second alloc, (stages first).alloc? = some alloc →
    (stages second).alloc? = some alloc → first = second

section FlightChange
variable {before after : List Alloc} {stage later : Stage}
  (changed : FlightChange before stage after later)
include changed

/-- In flight after a call: what its session has in hand now, and what it never had. -/
theorem FlightChange.mem_iff (distinct : before.Nodup)
    (owns : ∀ alloc, stage.alloc? = some alloc → alloc ∈ before) (alloc : Alloc) : alloc ∈ after ↔
      later.alloc? = some alloc ∨ (alloc ∈ before ∧ stage.alloc? ≠ some alloc) := by
  cases changed with
  | same _ kept =>
    rw [kept]
    constructor
    · intro mem
      by_cases had : stage.alloc? = some alloc
      · exact .inl had
      · exact .inr ⟨mem, had⟩
    · rintro (had | ⟨mem, _⟩)
      · exact owns alloc had
      · exact mem
  | granted _ _ none =>
    rw [none]
    simp [Stage.alloc?, eq_comm]
  | consumed _ _ had none => simp [distinct.mem_erase_iff, had, none, and_comm, eq_comm]

theorem FlightChange.gained (alloc : Alloc) (has : later.alloc? = some alloc) :
    stage.alloc? = some alloc ∨ alloc ∉ before := by
  cases changed with
  | same _ kept => exact .inl (kept.symm.trans has)
  | granted _ fresh =>
    cases has
    exact .inr fresh
  | consumed _ _ _ none =>
    rw [none] at has
    cases has

end FlightChange

theorem Flights.change {before after : List Alloc} (flights : Flights before stages)
    (distinct : before.Nodup)
    (changed : FlightChange before (stages connection) after moved) :
    Flights after (update stages connection moved) := by
  have here : update stages connection moved connection = moved :=
    update_self connection moved stages
  have elsewhere : ∀ other, other ≠ connection →
      update stages connection moved other = stages other :=
    fun other differs => update_of_ne differs moved stages
  have member := changed.mem_iff distinct
    fun alloc had => (flights.listed alloc).mpr ⟨connection, had⟩
  -- only the moving connection can gain an allocation, and then one that nobody has
  have gained : ∀ alloc, moved.alloc? = some alloc → ∀ other, other ≠ connection →
      (stages other).alloc? ≠ some alloc := by
    intro alloc has other differs held
    rcases changed.gained alloc has with had | fresh
    · exact differs (flights.single other connection alloc held had)
    · exact fresh ((flights.listed alloc).mpr ⟨other, held⟩)
  constructor
  · intro alloc
    rw [member alloc]
    constructor
    · rintro (has | ⟨listed, others⟩)
      · exact ⟨connection, by rw [here]; exact has⟩
      · obtain ⟨other, held⟩ := (flights.listed alloc).mp listed
        have differs : other ≠ connection := by
          rintro rfl
          exact others held
        exact ⟨other, by rw [elsewhere other differs]; exact held⟩
    · rintro ⟨other, has⟩
      by_cases own : other = connection
      · rw [own, here] at has
        exact .inl has
      · rw [elsewhere other own] at has
        refine .inr ⟨(flights.listed alloc).mpr ⟨other, has⟩, ?_⟩
        exact fun had => own (flights.single other connection alloc has had)
  · intro first second alloc left right
    by_cases one : first = connection
    · by_cases two : second = connection
      · exact one.trans two.symm
      · rw [one, here] at left
        rw [elsewhere second two] at right
        exact absurd right (gained alloc left second two)
    · rw [elsewhere first one] at left
      by_cases two : second = connection
      · rw [two, here] at right
        exact absurd left (gained alloc right first one)
      · rw [elsewhere second two] at right
        exact flights.single first second alloc left right

/-- The id is a tunnel of this owner, or has been one and is gone. -/
def Owned (ledger : Ledger) (id : TunnelId) (owner : PubKey) : Prop :=
  (∃ info, ledger.registry.tunnels.lookup id = some info ∧ info.owner = owner) ∨
    phase ledger id = .gone

theorem owned_run {first last : Ledger} (holds : Representation first)
    {events : List Ledger.Event} (ran : run Ledger.step first events = some last)
    (room : last.allocated < 2 ^ 64 - 1) {id : TunnelId} {owner : PubKey}
    (owned : Owned first id owner) : Owned last id owner := by
  rcases owned with ⟨info, found, same⟩ | gone
  · rcases identity_run events ran room id holds info found with ⟨new, present, identity⟩ | gone
    · exact .inl ⟨new, present, identity.2.1.trans same⟩
    · exact .inr gone
  · exact .inr (gone_run events ran room id holds gone)

structure Mirror (server : Server) (ledger : Ledger) (stages : Connection → Stage) : Prop where
  same : SameFields server ledger
  holds : Representation ledger
  flights : Flights ledger.inFlight stages
  dispatch : ∀ connection session frame program,
    server.tasks connection = .dispatching session frame program →
    Follows (sessionDiscipline session frame) Settled (stages connection) program
  /-- only a registration under way has an allocation in hand -/
  holder : ∀ connection alloc, (stages connection).alloc? = some alloc →
    ∃ session frame program, server.tasks connection = .dispatching session frame program ∧
      isRegistration frame = true
  resumed : ∀ connection session frame program id,
    server.tasks connection = .dispatching session frame program →
    stages connection = .resumed id → Owned ledger id session.pubkey

/-- The bookkeeping after one event. -/
def stagesAfter (server : Server) (stages : Connection → Stage) : Event → Connection → Stage
  | .frame connection _ => update stages connection .idle
  | .call connection choice =>
    match server.tasks connection with
    | .dispatching _ _ (.call request _) =>
      match server.answer connection choice request with
      | some (reply, _) =>
        update stages connection (nextStage (stages connection) request reply)
      | none => stages
    | _ => stages
  | _ => stages

def disposal (server : Server) (pubkey : PubKey) : Except ServerError SessionOutcome → Ledger.Event
  | .ok .dropped => .markDangling pubkey (server.config.resumeGrace.getD defaultGracePeriod)
  | _ => .removeAllOwnedBy pubkey

/-- The ledger events one event of the relay amounts to: at most one. -/
def mirrored (server : Server) (stages : Connection → Stage) : Event → List Ledger.Event
  | .tick elapsed => [.tick elapsed]
  | .reapExpired => [.reapExpired]
  | .cleanup connection =>
    match server.tasks connection with
    | .ended session result => [disposal server session.pubkey result]
    | _ => []
  | .call connection choice =>
    match server.tasks connection with
    | .dispatching _ _ (.call request _) =>
      match server.answer connection choice request with
      | some (reply, _) => ledgerCall choice (stages connection) request reply
      | none => []
    | _ => []
  | _ => []

theorem stagesAfter_quiet (server : Server) (stages : Connection → Stage)
    (silent : Server.isQuiet event = true) : stagesAfter server stages event = stages := by
  cases event <;> first | rfl | cases silent

theorem mirrored_quiet (server : Server) (stages : Connection → Stage) (event : Event)
    (silent : Server.isQuiet event = true) : mirrored server stages event = [] := by
  cases event <;> first | rfl | cases silent

/-- The stage becomes `resumed` only when `try_resume` re-attached a tunnel of the session. -/
theorem owner_of_resumed {reply : call.Reply} (allowed : allowedCall session frame stage call)
    (answered : server.answer conn choice call = some (reply, middle)) {id : TunnelId}
    (before : stage ≠ .resumed id) (after : nextStage stage call reply = .resumed id) :
    ∃ info, middle.registry.tunnels.lookup id = some info ∧ info.owner = session.pubkey := by
  cases answer_cases answered with
  | resumed label sessionId pubkey =>
    obtain ⟨rfl, rfl, rfl⟩ := allowed
    have told : ∃ info inspect, (server.registry.tryResume choice.order label sessionId
        session.pubkey session.connection).1 = .reattached id info inspect := by
      revert after
      generalize (server.registry.tryResume choice.order label sessionId session.pubkey
        session.connection).1 = outcome
      intro after
      cases outcome with
      | reattached _ info inspect =>
        cases after
        exact ⟨info, inspect, rfl⟩
      | unknown | identityMismatch => cases after
    obtain ⟨info, inspect, told⟩ := told
    rcases server.registry.tryResume_cases choice.order label sessionId session.pubkey
        session.connection with
      unknown | mismatch | ⟨target, old, expiresAt, _, _, _, owner, effect⟩
    · rw [unknown] at told
      cases told
    · rw [mismatch] at told
      cases told
    · rw [effect] at told ⊢
      cases reportResumed_id target id old info inspect told
      exact ⟨{ old with state := .live session.connection none },
        by rw [lookup_tableInsert, if_pos rfl], owner⟩
  | question _ _ asks =>
    exact absurd ((ledgerCall_question choice stage call reply asks).2.symm.trans after) before
  | grantedHttp | grantedTcp | inserted => cases after
  | unbound | unlocated => cases stage <;> first | exact absurd after before | cases after
  | written =>
    simp only [nextStage] at after
    split at after
    · cases stage <;> first | exact absurd after before | cases after
    · exact absurd after before
  | _ => exact absurd after before

/-- Only a registration allocates. -/
theorem registration_of_alloc (allowed : allowedCall session frame stage call)
    (before : ∀ alloc, stage.alloc? = some alloc → isRegistration frame = true)
    (alloc : Alloc) (after : (nextStage stage call reply).alloc? = some alloc) :
    isRegistration frame = true := by
  cases call
  case tryResume label sessionId pubkey here =>
    cases reply <;> first | exact before alloc after | cases after
  case allocateHttp label => exact allowed.2
  case allocateTcp allowlist => exact allowed.2
  case insert info => cases after
  case bind port =>
    cases reply <;> cases stage <;> first | exact before alloc after | cases after
  case localAddr listener =>
    cases reply <;> cases stage <;> first | exact before alloc after | cases after
  case writeFrame sent =>
    cases reply with
    | error => exact before alloc after
    | ok =>
      simp only [nextStage] at after
      split at after
      · cases stage <;> exact before alloc after
      · exact before alloc after
  all_goals exact before alloc after

namespace Mirror

variable {server : Server} {ledger : Ledger} {stages : Connection → Stage}
  (mirror : Mirror server ledger stages)
include mirror

/-- A step after which exactly the same dispatches are under way. -/
theorem carry (events : List Ledger.Event)
    (ran : run Ledger.step ledger events = some after) (room : after.allocated < 2 ^ 64 - 1)
    (same : SameFields next after) (inFlight : after.inFlight = ledger.inFlight)
    (tasks : ∀ conn session frame prog, next.tasks conn = .dispatching session frame prog ↔
      server.tasks conn = .dispatching session frame prog) : Mirror next after stages where
  same := same
  holds := (mirror.holds.run_invariant (fun _ => True) (fun _ _ _ _ _ _ _ => trivial)
    ran room trivial).1
  flights := inFlight ▸ mirror.flights
  dispatch := by
    intro conn session frame prog task
    exact mirror.dispatch conn session frame prog ((tasks _ _ _ _).mp task)
  holder := by
    intro conn alloc holding
    obtain ⟨session, frame, prog, task, registering⟩ := mirror.holder conn alloc holding
    exact ⟨session, frame, prog, (tasks _ _ _ _).mpr task, registering⟩
  resumed := by
    intro conn session frame prog id task stage
    exact owned_run mirror.holds ran room
      (mirror.resumed conn session frame prog id ((tasks _ _ _ _).mp task) stage)

/-- A step that puts the task of one connection into a dispatch, or moves it there. -/
theorem advance (events : List Ledger.Event)
    (ran : run Ledger.step ledger events = some after) (room : after.allocated < 2 ^ 64 - 1)
    (same : SameFields next after) (conn : Connection) (session : Session)
    (frame : ClientFrame) (prog) (moved : Stage) (tasks : next.tasks =
      update server.tasks conn (Server.afterDispatch session frame prog))
    (changed : FlightChange ledger.inFlight (stages conn) after.inFlight moved)
    (follows : Follows (sessionDiscipline session frame) Settled moved prog)
    (registering : ∀ alloc, moved.alloc? = some alloc → isRegistration frame = true)
    (resumed : ∀ id, moved = .resumed id → Owned after id session.pubkey) :
    Mirror next after (update stages conn moved) where
  same := same
  holds := (mirror.holds.run_invariant (fun _ => True) (fun _ _ _ _ _ _ _ => trivial)
    ran room trivial).1
  flights := mirror.flights.change mirror.holds.distinct changed
  dispatch := by
    intro other running named body task
    rw [tasks] at task
    by_cases own : other = conn
    · subst own
      rw [update_self] at task ⊢
      obtain ⟨rfl, rfl, rfl⟩ := afterDispatch_dispatching task
      exact follows
    · rw [update_of_ne own] at task ⊢
      exact mirror.dispatch other running named body task
  holder := by
    intro other alloc holding
    rw [tasks]
    by_cases own : other = conn
    · subst own
      rw [update_self] at holding ⊢
      -- a dispatch that has returned holds no allocation, so this one has not
      cases prog with
      | ret =>
        have settled : moved.alloc? = none := follows
        rw [settled] at holding
        cases holding
      | call => exact ⟨session, frame, _, rfl, registering alloc holding⟩
    · rw [update_of_ne own] at holding ⊢
      exact mirror.holder other alloc holding
  resumed := by
    intro other running named body id task stage
    rw [tasks] at task
    by_cases own : other = conn
    · subst own
      rw [update_self] at task stage
      obtain ⟨rfl, rfl, rfl⟩ := afterDispatch_dispatching task
      exact resumed id stage
    · rw [update_of_ne own] at task stage
      exact owned_run mirror.holds ran room (mirror.resumed other running named body id task stage)

/-- A dispatch makes its next call. -/
theorem answered (attached : Attached server)
    (task : server.tasks conn = .dispatching session frame (.call request rest))
    (answered : server.answer conn choice request = some (reply, middle))
    (room : middle.allocated < 2 ^ 64 - 1) :
    ∃ after, run Ledger.step ledger (ledgerCall choice (stages conn) request reply) = some after ∧
      Mirror (middle.setTask conn (Server.afterDispatch session frame (rest reply))) after
        (update stages conn (nextStage (stages conn) request reply)) := by
  obtain ⟨allowed, follows⟩ := mirror.dispatch conn session frame _ task
  have owns : ∀ alloc, (stages conn).alloc? = some alloc → alloc ∈ ledger.inFlight :=
    fun alloc holding => (mirror.flights.listed alloc).mpr ⟨conn, holding⟩
  have registers : ∀ alloc, (stages conn).alloc? = some alloc → isRegistration frame = true := by
    intro alloc holding
    obtain ⟨_, _, _, present, registering⟩ := mirror.holder conn alloc holding
    rw [task] at present
    cases present
    exact registering
  have running : (server.tasks conn).session? = some session := by rw [task]; rfl
  have mode := (attached.placed conn session running).2
  obtain ⟨tasks, _, _⟩ := answer_frame answered
  obtain ⟨after, ran, same, changed⟩ :=
    ledgerCall_run mirror.holds mirror.same owns allowed answered
  have room : after.allocated < 2 ^ 64 - 1 := by rw [same.allocated]; exact room
  have fields : SameFields
      (middle.setTask conn (Server.afterDispatch session frame (rest reply))) after :=
    ⟨same.registry, same.now, same.allocated⟩
  refine ⟨after, ran, mirror.advance _ ran room fields conn session frame
    (rest reply) _ (by rw [← tasks]; rfl) changed
    (follows reply (answer_possible attached mode answered))
    (registration_of_alloc allowed registers) ?_⟩
  intro id stage
  -- the stage is `resumed` either because it was, or because `try_resume` just said so
  by_cases already : stages conn = .resumed id
  · exact owned_run mirror.holds ran room (mirror.resumed conn session frame _ id task already)
  · refine .inl ?_
    rw [same.registry]
    exact owner_of_resumed allowed answered already stage

theorem step (attached : Attached server) (next : Server) (event : Event)
    (stepped : server.step event = some next) (room : next.allocated < 2 ^ 64 - 1) :
    ∃ after, run Ledger.step ledger (mirrored server stages event) = some after ∧
      Mirror next after (stagesAfter server stages event) := by
  obtain ⟨registry, now, allocated⟩ := mirror.same
  cases Server.step_move server next event stepped with
  | quiet _ _ _ _ silent turned tasks sameRegistry _ sameNow sameAllocated =>
    rw [mirrored_quiet server stages event silent, stagesAfter_quiet server stages silent]
    have same : SameFields next ledger :=
      ⟨registry.trans sameRegistry.symm, now.trans sameNow.symm, allocated.trans sameAllocated.symm⟩
    refine ⟨ledger, rfl, mirror.carry [] rfl (by rw [same.allocated]; exact room) same rfl ?_⟩
    intro other session frame program
    rw [tasks]
    exact dispatching_update (turn_dispatching turned) other session frame program
  | ticked elapsed =>
    refine ⟨_, (run_single _ _ _ _).mpr rfl, mirror.carry [.tick elapsed] rfl
      (by rw [allocated]; exact room) ⟨registry, ?_, allocated⟩ rfl fun _ _ _ _ => Iff.rfl⟩
    exact congrArg (· + elapsed) now
  | reaped =>
    refine ⟨_, (run_single _ _ _ _).mpr rfl, mirror.carry [.reapExpired] rfl
      (by rw [allocated]; exact room) ⟨?_, now, allocated⟩ rfl fun _ _ _ _ => Iff.rfl⟩
    simp only [registry, now]
  | greeted conn _ _ rest reply middle task answered =>
    obtain ⟨stage, allowed, _⟩ := attached.greeting conn _ task
    obtain ⟨sameRegistry, sameAllocated, _⟩ := answer_handshake allowed answered
    obtain ⟨tasks, _, sameNow⟩ := answer_frame answered
    have same : SameFields (middle.setTask conn (Server.afterHandshake (rest reply))) ledger :=
      ⟨registry.trans sameRegistry.symm, now.trans sameNow.symm, allocated.trans sameAllocated.symm⟩
    simp only [mirrored, stagesAfter, task]
    refine ⟨ledger, rfl, mirror.carry [] rfl (by rw [same.allocated]; exact room) same rfl ?_⟩
    intro other session frame program
    rw [setTask_tasks, tasks]
    exact dispatching_update (greeted_dispatching task (rest reply)) other session frame program
  | begun conn session frame task =>
    have idle : (stages conn).alloc? = none := by
      cases holding : (stages conn).alloc? with
      | none => rfl
      | some alloc =>
        obtain ⟨_, _, _, present, _⟩ := mirror.holder conn alloc holding
        rw [task] at present
        cases present
    have fields : SameFields (server.setTask conn
        (Server.afterDispatch session frame (session.dispatch frame).run)) ledger :=
      ⟨registry, now, allocated⟩
    exact ⟨ledger, rfl, mirror.advance [] rfl (by rw [allocated]; exact room) fields conn
      session frame _ .idle rfl (.same _ idle.symm) (dispatch_follows session frame)
      (fun _ holding => by cases holding) (fun _ resumed => by cases resumed)⟩
  | answered conn choice session frame request rest reply _ task answered =>
    obtain ⟨after, finished, mirrors⟩ := mirror.answered attached task answered room
    exact ⟨after, by simp only [mirrored, task, answered]; exact finished,
      by simp only [stagesAfter, task, answered]; exact mirrors⟩
  | cleaned conn session result task =>
    simp only [mirrored, stagesAfter, task]
    have idle : ∀ running frame program, Task.closed = .dispatching running frame program ↔
        server.tasks conn = .dispatching running frame program := by
      intro running frame program
      rw [task]
      exact ⟨nofun, nofun⟩
    have others := dispatching_update idle
    have disposed : ledger.step (disposal server session.pubkey result) =
        some { ledger with registry := server.disposeTunnels session.pubkey result } := by
      rcases result with _ | (_ | _ | _) <;>
        simp only [disposal, Ledger.step, Server.disposeTunnels, registry, now]
    have finished := (run_single _ _ _ _).mpr disposed
    exact ⟨_, finished, mirror.carry _ finished (by rw [allocated]; exact room)
      ⟨rfl, now, allocated⟩ rfl others⟩

end Mirror

variable (config : Config) (pool : PortPool) (entries : HashMap PubKey AuthorizedEntry)
  (peers : List String) (now : Instant)

theorem mirror_init (nonzero : 0 ∉ pool.ports) :
    Mirror (Server.init config pool entries peers now) (Ledger.init pool now) fun _ => .idle where
  same := ⟨rfl, rfl, rfl⟩
  holds := .init pool now nonzero
  flights := by
    constructor
    · intro alloc
      constructor
      · intro mem
        cases mem
      · rintro ⟨_, holding⟩
        cases holding
    · intro first second alloc holding
      cases holding
  dispatch := by
    intro conn session frame prog task
    cases task
  holder := by
    intro conn alloc holding
    cases holding
  resumed := by
    intro conn session frame prog id task
    cases task

/-- A property of relay, ledger and stages that every step meeting `cond` keeps. -/
def KeptBy (cond : Server → Event → Prop)
    (inv : Server → Ledger → (Connection → Stage) → Prop) : Prop :=
  ∀ server ledger stages event next after, Attached server → Mirror server ledger stages →
    inv server ledger stages → cond server event → server.step event = some next →
    run Ledger.step ledger (mirrored server stages event) = some after →
    Mirror next after (stagesAfter server stages event) → next.allocated < 2 ^ 64 - 1 →
    inv next after (stagesAfter server stages event)

/-- The invariant rule for runs of the relay on which the id counter does not wrap. -/
theorem mirror_run {cond : Server → Event → Prop}
    (inv : Server → Ledger → (Connection → Stage) → Prop) (kept : KeptBy cond inv) {last : Server}
    (attached : Attached server) (mirror : Mirror server ledger stages)
    (start : inv server ledger stages) {events : List Event}
    (met : Meets Server.step cond server events)
    (ran : run Server.step server events = some last) (room : last.allocated < 2 ^ 64 - 1) :
    ∃ after later, Attached last ∧ Mirror last after later ∧ inv last after later := by
  refine run_meets (fun state => state.allocated < 2 ^ 64 - 1 →
    ∃ after later, Attached state ∧ Mirror state after later ∧ inv state after later) ?_
    (fun _ => ⟨ledger, stages, attached, mirror, start⟩) met ran room
  intro state event next held meets step room
  have bound := step_allocated_le step
  obtain ⟨before, now, attached, mirror, inner⟩ := held (by omega)
  obtain ⟨after, answered, mirrors⟩ := mirror.step attached next event step room
  exact ⟨after, _, attached.step next event step, mirrors,
    kept state before now event next after attached mirror inner meets step answered mirrors room⟩

/-- Every reachable state of the relay mirrors a reachable ledger. -/
theorem mirror_reachable (nonzero : 0 ∉ pool.ports) (server : Server)
    (reached : Reachable Server.step (Server.init config pool entries peers now) server)
    (room : server.allocated < 2 ^ 64 - 1) :
    ∃ ledger stages, Mirror server ledger stages ∧ ledger.Reachable pool := by
  obtain ⟨events, ran⟩ := reached
  have kept : KeptBy (fun _ _ => True) fun _ ledger _ => ledger.Reachable pool := by
    intro _ ledger stages event _ after _ _ ⟨start, reached⟩ _ _ answered _ _
    exact ⟨start, reached.extend answered⟩
  obtain ⟨ledger, stages, _, mirror, reached⟩ := mirror_run _ kept
    (attached_init config pool entries peers now) (mirror_init config pool entries peers now nonzero)
    ⟨now, Reachable.init _ _⟩ (meets_trivial _ _ (fun _ _ => trivial) _ _) ran room
  exact ⟨ledger, stages, mirror, reached⟩

end KrotRelay.Guarantees
