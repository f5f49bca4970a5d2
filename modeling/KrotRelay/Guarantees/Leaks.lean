import KrotRelay.Guarantees.Mirror

/-!
# Reservations and the table

When no registration is under way, the reservation sets are exactly the labels and
ports of the table, unless some `register_tcp` failed between its allocation and its
insertion: the two exits there (`bind`, `local_addr`) return without giving the port
back, and nothing else ever will. `bindFails` names those two exits.
-/
namespace KrotRelay.Guarantees
open Source Lib List TunnelRegistry Server

variable {ledger after : Ledger} {server last middle : Server} {stages : Connection → Stage}
  {before : TunnelRegistry} {connection : Connection} {frame : ClientFrame} {stage : Stage}

/-- The event is the failure of `TcpListener::bind` or `local_addr` in `register_tcp`. -/
def bindFails (server : Server) : Event → Bool
  | .call connection choice =>
    match server.tasks connection with
    | .dispatching _ _ (.call (.bind _) _) =>
      match choice.bound with
      | .error _ => true
      | .ok _ => false
    | .dispatching _ _ (.call (.localAddr _) _) =>
      match choice.localAddr with
      | .error _ => true
      | .ok _ => false
    | _ => false
  | _ => false

/-- Every reserved port and label belongs to a tunnel in the table, and conversely. -/
structure Exact (registry : TunnelRegistry) : Prop where
  ports : ∀ port, port ∈ registry.usedPorts ↔
    ∃ id info, registry.tunnels.lookup id = some info ∧ info.kind = .tcp port
  labels : ∀ label, label ∈ registry.usedLabels ↔
    ∃ id info, registry.tunnels.lookup id = some info ∧ info.kind = .http label

theorem exact_iff (registry : TunnelRegistry) : Exact registry ↔ ∀ kind,
    registry.Reserved kind ↔ ∃ id info, registry.tunnels.lookup id = some info ∧ info.kind = kind := by
  constructor
  · rintro ⟨ports, labels⟩ (port | label)
    · exact ports port
    · exact labels label
  · intro exact
    exact ⟨fun port => exact (.tcp port), fun label => exact (.http label)⟩

/-- With nothing in flight, what is reserved beyond the table is what was abandoned. -/
theorem exact_iff_none_abandoned (holds : Representation ledger)
    (landed : ledger.inFlight = []) : Exact ledger.registry ↔ ledger.abandoned = [] := by
  rw [exact_iff]
  constructor
  · intro exact
    rw [eq_nil_iff_forall_not_mem]
    intro alloc mem
    -- an abandoned allocation stays reserved, and no table entry can have its label or port
    have taken := (holds.reserved alloc.kind).mpr ⟨alloc.id, .lost mem⟩
    obtain ⟨id, info, found, same⟩ := (exact alloc.kind).mp taken
    have here := holds.kindUnique id alloc.id alloc.kind (.table info found same) (.lost mem)
    have absent := holds.outside alloc (.inr mem)
    rw [← here, found] at absent
    cases absent
  · intro none kind
    rw [holds.reserved kind]
    constructor
    · rintro ⟨id, ⟨info, found, same⟩ | mem | mem⟩
      · exact ⟨id, info, found, same⟩
      · rw [landed] at mem
        cases mem
      · rw [none] at mem
        cases mem
    · rintro ⟨id, info, found, same⟩
      exact ⟨id, .table info found same⟩

theorem step_abandoned {next : Ledger} {event : Ledger.Event}
    (step : ledger.step event = some next) : next.abandoned = match event with
      | .abandon alloc => alloc :: ledger.abandoned
      | _ => ledger.abandoned := by
  cases event with
  | allocateTcp | allocateHttp =>
    simp only [Ledger.step] at step
    split at step <;> cases step <;> rfl
  | insert | abandon =>
    simp only [Ledger.step] at step
    split at step <;> cases step
    rfl
  | _ =>
    cases step
    rfl

/-- The reservation sets are as before. -/
def SameReservations (before after : TunnelRegistry) : Prop :=
  after.usedPorts = before.usedPorts ∧ after.usedLabels = before.usedLabels

theorem sameReservations_of_sameIndex {after : TunnelRegistry} (same : before.SameIndex after) :
    SameReservations before after :=
  ⟨same.usedPorts, same.usedLabels⟩

/-- Everything one call of a dispatch can do to the reservations, the frames sent, the
abandoned allocations and the stage. The Boolean says whether it was a failed bind. -/
inductive CallEffect (server middle : Server) (ledger after : Ledger) (connection : Connection)
    (frame : ClientFrame) (stage : Stage) : Bool → Stage → Prop where
  | granted (alloc) (idle : stage = .idle) (free : ¬ server.registry.Reserved alloc.kind)
      (sent : middle.sent = server.sent) (lost : after.abandoned = ledger.abandoned) :
      CallEffect server middle ledger after connection frame stage false (.reserved alloc)
  | refused (rejection : ServerFrame) (rejects : isRejection rejection = true)
      (may : stage.mayReject)
      (used : SameReservations server.registry middle.registry)
      (sent : middle.sent connection = server.sent connection ++ [rejection])
      (lost : after.abandoned = ledger.abandoned) :
      CallEffect server middle ledger after connection frame stage false stage.reject
  | failed (alloc) (held : stage = .reserved alloc)
      (sent : middle.sent = server.sent) (lost : after.abandoned = alloc :: ledger.abandoned) :
      CallEffect server middle ledger after connection frame stage true (.leaked alloc)
  | moved (later) (started : stage = .idle ∨ ∃ alloc, stage = .reserved alloc)
      (settled : later = .published ∨ ∃ id, later = .resumed id)
      (sent : middle.sent = server.sent) (lost : after.abandoned = ledger.abandoned) :
      CallEffect server middle ledger after connection frame stage false later
  | kept (used : isRegistration frame = true → SameReservations server.registry middle.registry)
      (sent : ∃ extra, middle.sent connection = server.sent connection ++ extra ∧
        ∀ plain ∈ extra, isRejection plain = false)
      (lost : after.abandoned = ledger.abandoned) :
      CallEffect server middle ledger after connection frame stage false stage

theorem call_effect {choice : Choice} {session : Session} {call : Call} {reply : call.Reply} {rest}
    (task : server.tasks conn = .dispatching session frame (.call call rest))
    (allowed : allowedCall session frame stage call)
    (answered : server.answer conn choice call = some (reply, middle))
    (ran : run Ledger.step ledger (ledgerCall choice stage call reply) = some after) :
    CallEffect server middle ledger after conn frame stage
      (bindFails server (.call conn choice)) (nextStage stage call reply) := by
  have single : ∀ event, ledgerCall choice stage call reply = [event] →
      (∀ alloc, event ≠ .abandon alloc) → after.abandoned = ledger.abandoned := by
    intro event only other
    rw [only] at ran
    rw [step_abandoned ((run_single _ _ _ _).mp ran)]
    split
    · exact absurd rfl (other _)
    · rfl
  have nothing : ledgerCall choice stage call reply = [] → after.abandoned = ledger.abandoned := by
    intro none
    rw [none] at ran
    cases ran
    rfl
  have silent : SameReservations server.registry server.registry := ⟨rfl, rfl⟩
  have unsent : ∃ extra, server.sent conn = server.sent conn ++ extra ∧
      ∀ plain ∈ extra, isRejection plain = false := ⟨[], by simp, by simp⟩
  simp only [bindFails, task]
  cases answer_cases answered with
  | question _ _ asks =>
    obtain ⟨none, still⟩ := ledgerCall_question choice stage call reply asks
    rw [still]
    cases call <;> first | exact .kept (fun _ => silent) unsent (nothing none) | cases asks
  | resumed label sessionId pubkey attached =>
    obtain ⟨rfl, _⟩ := allowed
    have lost := single _ rfl nofun
    have used := sameReservations_of_sameIndex
      (server.registry.tryResume_sameIndex choice.order label sessionId pubkey attached)
    cases outcome : (server.registry.tryResume choice.order label sessionId pubkey attached).1 with
    | reattached id =>
      exact .moved _ (.inl rfl) (.inr ⟨id, rfl⟩) rfl lost
    | unknown | identityMismatch => exact .kept (fun _ => used) unsent lost
  | grantedHttp _ _ _ result =>
    obtain ⟨rfl, _⟩ := allowed
    exact .granted _ rfl (allocateHttp_ok _ _ _ _ result).free rfl (single _ rfl nofun)
  | grantedTcp _ _ _ _ result =>
    obtain ⟨rfl, _⟩ := allowed
    exact .granted _ rfl (allocateTcp_ok _ _ _ _ _ result).free rfl (single _ rfl nofun)
  | refusedHttp | refusedTcp => exact .kept (fun _ => silent) unsent (single _ rfl nofun)
  | inserted =>
    obtain ⟨_, _, _, alloc, rfl, _⟩ := allowed
    exact .moved _ (.inr ⟨alloc, rfl⟩) (.inl rfl) rfl (single _ rfl nofun)
  | removed =>
    obtain ⟨rfl, rfl⟩ := allowed
    exact .kept nofun unsent (single _ rfl nofun)
  | handled id newAbort =>
    exact .kept (fun _ => sameReservations_of_sameIndex
      (server.registry.setTcpAbort_sameIndex id newAbort)) unsent (single _ rfl nofun)
  | bound _ _ opened =>
    simp only [opened]
    exact .kept (fun _ => silent) unsent (nothing rfl)
  | unbound _ _ failed =>
    obtain ⟨id, rfl⟩ := allowed
    simp only [failed]
    exact .failed _ rfl rfl (step_abandoned ((run_single _ _ _ _).mp ran))
  | located _ told =>
    simp only [told]
    exact .kept (fun _ => silent) unsent (nothing rfl)
  | unlocated _ _ failed =>
    obtain ⟨alloc, rfl⟩ := allowed
    simp only [failed]
    exact .failed _ rfl rfl (step_abandoned ((run_single _ _ _ _).mp ran))
  | written sent =>
    have recorded := server.recordSent_sent conn sent
    simp only [nextStage]
    split
    · rename_i rejects
      exact .refused sent rejects (allowed rejects) silent recorded (nothing rfl)
    · rename_i plain
      exact .kept (fun _ => silent) ⟨[sent], recorded, by simpa using plain⟩ (nothing rfl)
  | unwritten | spawned => exact .kept (fun _ => silent) unsent (nothing rfl)
  | fetched | appended | unparsed => exact allowed.elim

/-- A session abandons an allocation exactly when it takes one of the two exits. -/
theorem mirrored_abandoned {next : Server} {event : Event} (mirror : Mirror server ledger stages)
    (step : server.step event = some next)
    (ran : run Ledger.step ledger (mirrored server stages event) = some after) :
    after.abandoned.length = ledger.abandoned.length + (bindFails server event).toNat := by
  cases Server.step_move server next event step with
  | quiet _ _ _ _ silent =>
    rw [mirrored_quiet server stages event silent] at ran
    cases ran
    cases event <;> first | rfl | cases silent
  | ticked | reaped =>
    rw [step_abandoned ((run_single _ _ _ _).mp ran)]
    rfl
  | greeted _ _ _ _ _ _ task =>
    simp only [mirrored, task] at ran
    cases ran
    simp [bindFails, task]
  | begun =>
    cases ran
    rfl
  | cleaned _ _ result task =>
    simp only [mirrored, task] at ran
    rw [step_abandoned ((run_single _ _ _ _).mp ran)]
    rcases result with _ | (_ | _ | _) <;> rfl
  | answered conn choice session frame request _ reply _ task answered =>
    simp only [mirrored, task, answered] at ran
    have allowed := (mirror.dispatch conn session frame _ task).1
    have effect := call_effect task allowed answered ran
    generalize bindFails server (.call conn choice) = fails at effect ⊢
    generalize nextStage (stages conn) request reply = later at effect
    cases effect with
    | failed _ _ _ lost => rw [lost]; rfl
    | granted _ _ _ _ lost => rw [lost]; rfl
    | refused _ _ _ _ _ lost => rw [lost]; rfl
    | moved _ _ _ _ lost => rw [lost]; rfl
    | kept _ _ lost => rw [lost]; rfl

/-- No registration of the run takes one of the two exits. -/
def NoFailedBind (server : Server) (events : List Event) : Prop :=
  Meets Server.step (fun state event => bindFails state event = false) server events

theorem mirror_run_abandoned (cond : Server → Event → Prop)
    (inv : Server → Ledger → (Connection → Stage) → Prop) (kept : KeptBy cond inv)
    (attached : Attached server) (mirror : Mirror server ledger stages)
    (start : inv server ledger stages)
    (met : Meets Server.step cond server events)
    (ran : run Server.step server events = some last) (room : last.allocated < 2 ^ 64 - 1) :
    ∃ after later, Mirror last after later ∧ inv last after later ∧
      ledger.abandoned.length ≤ after.abandoned.length ∧
      (after.abandoned.length = ledger.abandoned.length ↔ NoFailedBind server events) := by
  induction events generalizing server ledger stages with
  | nil =>
    simp only [run_nil, Option.some.injEq] at ran
    subst ran
    exact ⟨ledger, stages, mirror, start, Nat.le_refl _, iff_of_true rfl trivial⟩
  | cons event rest ih =>
    obtain ⟨next, step, ran⟩ := (run_cons _ _ _ _ _).mp ran
    have bound := server_allocated_le rest ran
    obtain ⟨middle, answered, mirrors⟩ := mirror.step attached next event step (by omega)
    have counted := mirrored_abandoned mirror step answered
    obtain ⟨after, later, mirrored, inner, grows, same⟩ :=
      ih (attached.step next event step) mirrors
        (kept _ _ _ _ _ _ attached mirror start met.1 step answered mirrors (by omega))
        (met.2 next step) ran
    refine ⟨after, later, mirrored, inner, by omega, ?_⟩
    constructor
    · intro equal
      have zero : (bindFails server event).toNat = 0 := by omega
      refine ⟨by simpa using zero, fun other also => ?_⟩
      rw [step] at also
      cases also
      exact same.mp (by omega)
    · rintro ⟨none, others⟩
      have here := same.mpr (others next step)
      rw [none] at counted
      simp only [Bool.toNat_false] at counted
      omega

theorem landed_of_noRegistration (mirror : Mirror server ledger stages)
    (quiet : NoRegistration server) : ledger.inFlight = [] := by
  rw [eq_nil_iff_forall_not_mem]
  intro alloc mem
  obtain ⟨conn, holding⟩ := (mirror.flights.listed alloc).mp mem
  obtain ⟨session, frame, prog, task, registering⟩ := mirror.holder conn alloc holding
  rw [quiet conn session frame prog task] at registering
  cases registering

/-- How far one registration of `connection` has got, seen from the state `start` it began
in with `lost` allocations abandoned so far. -/
structure Progress (connection : Connection) (start : Server) (lost : Nat) (server : Server)
    (ledger : Ledger) (stage : Stage) : Prop where
  sent : ∃ extra, server.sent connection = start.sent connection ++ extra ∧
    ((∃ frame ∈ extra, isRejection frame = true) →
      stage = .rejected ∨ ∃ alloc, stage = .leaked alloc)
  untouched : stage = .idle ∨ stage = .rejected → SameReservations start.registry server.registry
  taken : ∀ alloc, stage = .reserved alloc ∨ stage = .leaked alloc →
    ¬ start.registry.Reserved alloc.kind
  leaked : ∀ alloc, stage = .leaked alloc →
    alloc ∈ ledger.abandoned ∧ ledger.abandoned.length ≠ lost
  clean : (∀ alloc, stage ≠ .leaked alloc) → ledger.abandoned.length = lost

structure Episode (connection : Connection) (start : Server) (lost : Nat) (server : Server)
    (ledger : Ledger) (stages : Connection → Stage) : Prop where
  session : (server.tasks connection).session?.isSome = true
  registering : ∀ session frame program,
    server.tasks connection = .dispatching session frame program → isRegistration frame = true
  progress : Progress connection start lost server ledger (stages connection)

theorem reserved_of_same {after : TunnelRegistry} (same : SameReservations before after)
    (kind : RegisteredKind) : after.Reserved kind ↔ before.Reserved kind := by
  cases kind with
  | tcp => simp only [TunnelRegistry.Reserved, same.1]
  | http => simp only [TunnelRegistry.Reserved, same.2]

theorem Progress.call {start : Server} {lost : Nat} {later : Stage} {fails : Bool}
    (progress : Progress conn start lost server ledger stage)
    (registering : isRegistration frame = true)
    (effect : CallEffect server middle ledger after conn frame stage fails later) :
    Progress conn start lost middle after later := by
  obtain ⟨⟨extra, sent, rejections⟩, untouched, taken, leaked, clean⟩ := progress
  cases effect with
  | granted _ idle free quiet same =>
    subst idle
    refine ⟨⟨extra, by rw [quiet]; exact sent, ?_⟩, ?_, ?_, ?_, ?_⟩
    · intro rejected
      rcases rejections rejected with impossible | ⟨_, impossible⟩ <;> cases impossible
    · rintro (impossible | impossible) <;> cases impossible
    · rintro other (this | impossible)
      · cases this
        rw [← reserved_of_same (untouched (.inl rfl))]
        exact free
      · cases impossible
    · intro other impossible
      cases impossible
    · intro _
      rw [same]
      exact clean nofun
  | refused rejection _ may used told same =>
    have told : middle.sent conn = start.sent conn ++ (extra ++ [rejection]) := by
      rw [told, sent, append_assoc]
    cases stage with
    | idle =>
      have before := untouched (.inl rfl)
      refine ⟨⟨_, told, fun _ => .inl rfl⟩, ?_, ?_, ?_, ?_⟩
      · exact fun _ => ⟨used.1.trans before.1, used.2.trans before.2⟩
      · rintro other (impossible | impossible) <;> cases impossible
      · intro other impossible
        cases impossible
      · intro _
        rw [same]
        exact clean nofun
    | leaked alloc =>
      refine ⟨⟨_, told, fun _ => .inr ⟨alloc, rfl⟩⟩, ?_, taken, ?_, ?_⟩
      · rintro (impossible | impossible) <;> cases impossible
      · rw [same]
        exact leaked
      · intro still
        exact absurd rfl (still alloc)
    | _ => cases may
  | failed alloc held quiet grown =>
    subst held
    have before := clean nofun
    refine ⟨⟨extra, by rw [quiet]; exact sent, ?_⟩, ?_, ?_, ?_, ?_⟩
    · exact fun _ => .inr ⟨alloc, rfl⟩
    · rintro (impossible | impossible) <;> cases impossible
    · rintro other (impossible | this)
      · cases impossible
      · cases this
        exact taken alloc (.inl rfl)
    · intro other this
      cases this
      rw [grown]
      exact ⟨mem_cons_self, by rw [length_cons]; omega⟩
    · intro still
      exact absurd rfl (still alloc)
  | moved _ started settled quiet same =>
    have open_ : stage ≠ .rejected ∧ ∀ alloc, stage ≠ .leaked alloc := by
      rcases started with rfl | ⟨alloc, rfl⟩ <;> exact ⟨nofun, nofun⟩
    refine ⟨⟨extra, by rw [quiet]; exact sent, ?_⟩, ?_, ?_, ?_, ?_⟩
    · intro rejected
      rcases rejections rejected with this | ⟨alloc, this⟩
      · exact absurd this open_.1
      · exact absurd this (open_.2 alloc)
    · rcases settled with rfl | ⟨id, rfl⟩ <;> rintro (impossible | impossible) <;> cases impossible
    · rcases settled with rfl | ⟨id, rfl⟩ <;> rintro other (impossible | impossible) <;>
        cases impossible
    · rcases settled with rfl | ⟨id, rfl⟩ <;> intro other impossible <;> cases impossible
    · intro _
      rw [same]
      exact clean open_.2
  | kept used told same =>
    obtain ⟨more, told, plain⟩ := told
    have used := used registering
    refine ⟨⟨extra ++ more, by rw [told, sent, append_assoc], ?_⟩, ?_, taken, ?_, ?_⟩
    · rintro ⟨rejection, mem, rejects⟩
      rcases mem_append.mp mem with mem | mem
      · exact rejections ⟨rejection, mem, rejects⟩
      · rw [plain rejection mem] at rejects
        cases rejects
    · intro open_
      exact ⟨used.1.trans (untouched open_).1, used.2.trans (untouched open_).2⟩
    · rw [same]
      exact leaked
    · rw [same]
      exact clean

/-- The calls of the registration keep the episode going. -/
theorem episode_kept (conn : Connection) (start : Server) (lost : Nat) :
    KeptBy (fun _ event => ∃ choice, event = .call conn choice) (Episode conn start lost) := by
  rintro server ledger stages _ next after _ mirror episode ⟨choice, rfl⟩ step ran _ _
  cases Server.step_move server next _ step with
  | quiet _ _ _ _ silent => cases silent
  | greeted _ _ _ _ _ _ task =>
    have session := episode.session
    rw [task] at session
    cases session
  | answered _ _ session frame request _ reply _ task answered =>
    have allowed := (mirror.dispatch conn session frame _ task).1
    have registering := episode.registering session frame _ task
    have later : stagesAfter server stages (.call conn choice) conn =
        nextStage (stages conn) request reply := by
      simp only [stagesAfter, task, answered, Function.update_self]
    simp only [mirrored, task, answered] at ran
    have progress := episode.progress.call registering (call_effect task allowed answered ran)
    refine ⟨?_, ?_, ?_⟩
    · rw [setTask_tasks, Function.update_self, afterDispatch_session?]
      rfl
    · intro session' frame' prog task'
      rw [setTask_tasks, Function.update_self] at task'
      obtain ⟨_, rfl, _⟩ := afterDispatch_dispatching task'
      exact registering
    · rw [later]
      exact ⟨progress.sent, progress.untouched, progress.taken, progress.leaked, progress.clean⟩

/-- A registration that tells its client it was rejected. -/
theorem rejected_same_iff (attached : Attached server) (mirror : Mirror server ledger stages)
    {conn : Connection} {frame : ClientFrame} (registers : isRegistration frame = true)
    {choices : List Choice} (ran : run Server.step server
      (.frame conn frame :: choices.map (.call conn)) = some last)
    (room : last.allocated < 2 ^ 64 - 1)
    (told : ∃ rejection ∈ (last.sent conn).drop (server.sent conn).length,
      isRejection rejection = true) : SameReservations server.registry last.registry ↔
      NoFailedBind server (.frame conn frame :: choices.map (.call conn)) := by
  obtain ⟨next, step, ran⟩ := (run_cons _ _ _ _ _).mp ran
  have bound := server_allocated_le _ ran
  obtain ⟨after, answered, mirrors⟩ := mirror.step attached next _ step (by omega)
  cases answered
  have begins : Episode conn server ledger.abandoned.length next ledger
      (stagesAfter server stages (.frame conn frame)) := by
    cases Server.step_move server next _ step with
    | quiet _ _ _ _ silent => cases silent
    | begun =>
      refine ⟨?_, ?_, ?_⟩
      · rw [setTask_tasks, Function.update_self, afterDispatch_session?]
        rfl
      · intro other named prog dispatching
        rw [setTask_tasks, Function.update_self] at dispatching
        obtain ⟨_, rfl, _⟩ := afterDispatch_dispatching dispatching
        exact registers
      · rw [stagesAfter, Function.update_self]
        refine ⟨⟨[], (append_nil _).symm, ?_⟩, fun _ => ⟨rfl, rfl⟩, ?_, ?_, fun _ => rfl⟩
        · rintro ⟨_, mem, _⟩
          cases mem
        · rintro alloc (impossible | impossible) <;> cases impossible
        · intro alloc impossible
          cases impossible
  have calls : Meets Server.step (fun _ event => ∃ choice, event = .call conn choice) next
      (choices.map (.call conn)) := by
    refine meets_of_mem _ _ _ ?_ _
    intro event mem _
    obtain ⟨choice, _, rfl⟩ := mem_map.mp mem
    exact ⟨choice, rfl⟩
  obtain ⟨final, later, mirrors, episode, _, same⟩ := mirror_run_abandoned _ _
    (episode_kept conn server ledger.abandoned.length)
    (attached.step next _ step) mirrors begins calls ran room
  have unchanged : NoFailedBind server (.frame conn frame :: choices.map (.call conn)) ↔
      NoFailedBind next (choices.map (.call conn)) := by
    refine ⟨fun met => met.2 next step, fun met => ⟨rfl, fun other also => ?_⟩⟩
    rw [step] at also
    cases also
    exact met
  rw [unchanged, ← same]
  obtain ⟨extra, sent, rejections⟩ := episode.progress.sent
  rw [sent, drop_left] at told
  rcases rejections told with stage | ⟨alloc, stage⟩
  · refine iff_of_true (episode.progress.untouched (.inr stage)) (episode.progress.clean ?_)
    rw [stage]
    intro alloc impossible
    cases impossible
  · obtain ⟨mem, grown⟩ := episode.progress.leaked alloc stage
    refine iff_of_false ?_ grown
    intro equal
    have taken := (mirrors.holds.reserved alloc.kind).mpr ⟨alloc.id, .lost mem⟩
    rw [mirrors.same.registry, reserved_of_same equal] at taken
    exact episode.progress.taken alloc (.inr stage) taken

/-- What a run from `start` to `server` says about the reservation sets. -/
structure Accounted (start : Server) (events : List Event) (server : Server) : Prop where
  /-- between registrations the sets are the table's exactly if no bind has ever failed -/
  exact : NoRegistration server → (Exact server.registry ↔ NoFailedBind start events)
  /-- a rejected registration leaves the sets alone exactly if its bind did not fail -/
  rejected : ∀ connection label kind resumeSessionId inspect (choices : List Choice) last,
    run Server.step server
      (.frame connection (.registerTunnel label kind resumeSessionId inspect) ::
        choices.map (.call connection)) = some last →
    last.allocated < 2 ^ 64 - 1 →
    (∃ rejection ∈ (last.sent connection).drop (server.sent connection).length,
      isRejection rejection = true) →
    (SameReservations server.registry last.registry ↔ NoFailedBind server
      (.frame connection (.registerTunnel label kind resumeSessionId inspect) ::
        choices.map (.call connection)))

theorem reservations_exact_iff (config : Config) (pool : PortPool)
    (entries : HashMap PubKey AuthorizedEntry) (peers : List String) (now : Instant)
    (nonzero : 0 ∉ pool.ports) (events : List Event) (server : Server)
    (finished : run Server.step (Server.init config pool entries peers now) events = some server)
    (room : server.allocated < 2 ^ 64 - 1) :
    Accounted (Server.init config pool entries peers now) events server := by
  have attached := attached_reachable config pool entries peers now server ⟨events, finished⟩
  obtain ⟨ledger, stages, mirror, _, _, same⟩ := mirror_run_abandoned (fun _ _ => True)
    (fun _ _ _ => True) (fun _ _ _ _ _ _ _ _ _ _ _ _ _ _ => trivial)
    (attached_init config pool entries peers now)
    (mirror_init config pool entries peers now nonzero) trivial
    (meets_trivial _ _ (fun _ _ => trivial) _ _) finished room
  refine ⟨fun quiet => ?_, ?_⟩
  · have landed := landed_of_noRegistration mirror quiet
    rw [← mirror.same.registry, exact_iff_none_abandoned mirror.holds landed, ← same]
    exact length_eq_zero_iff.symm
  · intro connection label kind resumeSessionId inspect choices last continued roomLast told
    exact rejected_same_iff attached mirror rfl continued roomLast told

section Example

private def shopOnline : List Event :=
  signIn ⟨0⟩ dave ⟨.replicate 16 1⟩ ++ publishHttp ⟨0⟩ "shop"

theorem reservations_exact_iff_shop :
    (final Server.step smallRelay shopOnline).registry.usedLabels = {"shop"} ∧
    Accounted smallRelay shopOnline (final Server.step smallRelay shopOnline) :=
  ⟨rfl, reservations_exact_iff domainConfig ⟨7000, 7001⟩ twoKeys [] 0 (by decide) shopOnline _
    (run_final rfl) (by decide)⟩

/-- A TCP registration whose port turns out to be taken by another process. -/
private def portTaken : List Event :=
  signIn ⟨0⟩ dave ⟨.replicate 16 1⟩ ++
    [.frame ⟨0⟩ (.registerTunnel "db" (.tcp none) none false), .call ⟨0⟩ {},
      .call ⟨0⟩ { bound := .error "address in use" }, .call ⟨0⟩ {}]

theorem failed_bind_leaks_port :
    run Server.step smallRelay portTaken = some (final Server.step smallRelay portTaken) ∧
    NoRegistration (final Server.step smallRelay portTaken) ∧
    ((final Server.step smallRelay portTaken).sent ⟨0⟩).getLast? =
      some (.tunnelRejected .internalError "bind failed: address in use") ∧
    (final Server.step smallRelay portTaken).registry.tunnels.keys = [] ∧
    7000 ∈ (final Server.step smallRelay portTaken).registry.usedPorts := by
  have finished : run Server.step smallRelay portTaken =
      some (final Server.step smallRelay portTaken) := run_final rfl
  exact ⟨finished, noRegistration_of_alone [⟨0⟩] finished (by decide) (by decide), rfl, rfl,
    by decide⟩

end Example

end KrotRelay.Guarantees
