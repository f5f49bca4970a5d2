import KrotRelay.Guarantees.EntryMoves

/-!
# Tenants

What a session may do to the tunnels of other keys. Every operation a session reaches
checks the owner except one: `UnregisterTunnel` removes whatever id the client names.
A session's run leaves the other tenants alone exactly if it never does that.
-/
namespace KrotRelay.Guarantees
open Source Lib Server
open Function (update update_self update_of_ne)

variable {id : TunnelId} {after ledger : Ledger} {info : TunnelInfo} {stages : Connection → Stage}

/-- Steps of one connection's task, and of the background tasks that never touch the
table. The reaper is left out: what it removes is not the session's doing. -/
def ofSession (connection : Connection) : Event → Bool
  | .reapExpired => false
  | event => event.connection?.all (· == connection)

/-- A tunnel that is still what it was, and still found the way it was. -/
structure LeftAlone (before after : TunnelRegistry) (id : TunnelId) (info : TunnelInfo) : Prop where
  entry : after.tunnels.lookup id = some info
  reservation : after.Reserved info.kind
  resolved : ∀ label, info.kind = .http label → after.resolveLabel label = before.resolveLabel label

def OthersLeftAlone (pubkey : PubKey) (before after : TunnelRegistry) : Prop :=
  ∀ id info, before.tunnels.lookup id = some info → info.owner ≠ pubkey →
    LeftAlone before after id info

/-- A frame that asks for the removal of a tunnel that belongs to another key. -/
def UnregistersOther (pubkey : PubKey) (registry : TunnelRegistry) (connection : Connection)
    (event : Event) : Prop :=
  ∃ id info, event = .frame connection (.unregisterTunnel id) ∧
    registry.tunnels.lookup id = some info ∧ info.owner ≠ pubkey

/-- Between two coherent states, an unchanged entry is also found unchanged. -/
theorem leftAlone_of_entry {before : Ledger} (start : Representation before)
    (finish : Representation after) (found : before.registry.tunnels.lookup id = some info)
    (still : after.registry.tunnels.lookup id = some info) :
    LeftAlone before.registry after.registry id info := by
  refine ⟨still, (finish.reserved info.kind).mpr ⟨id, .table info still rfl⟩, ?_⟩
  intro label kind
  -- the tunnel of a label is unique, so on both sides only this one can answer
  have answers : ∀ {ledger : Ledger}, Representation ledger →
      ledger.registry.tunnels.lookup id = some info → ∀ resolved : ResolvedTunnel,
      ledger.registry.resolveLabel label = some resolved ↔
        resolved.id = id ∧ (∃ abort, info.state = .live resolved.connection abort) ∧
          resolved.rate = info.rate ∧ resolved.inspect = info.inspect := by
    intro ledger holds present resolved
    rw [holds.resolveLabel_iff]
    constructor
    · rintro ⟨other, abort, looked, same, state, rate, inspect⟩
      have unique := holds.kindUnique resolved.id id (.http label)
        (.table other looked same) (.table info present kind)
      rw [unique, present] at looked
      cases looked
      exact ⟨unique, ⟨abort, state⟩, rate, inspect⟩
    · rintro ⟨rfl, ⟨abort, state⟩, rate, inspect⟩
      exact ⟨info, abort, present, kind, state, rate, inspect⟩
  apply Option.ext
  intro resolved
  rw [answers finish still, answers start found]

/-- The session's own task along its run: what it is, and what it may be dispatching. -/
structure OwnTask (connection : Connection) (session : Session) (start : TunnelRegistry)
    (server : Server) : Prop where
  task : (server.tasks connection).session? = some session ∨ server.tasks connection = .closed
  frame : ∀ running id program,
    server.tasks connection = .dispatching running (.unregisterTunnel id) program →
    ∀ info, start.tunnels.lookup id = some info → info.owner = session.pubkey

section Steps
variable {connection : Connection} {session : Session} {start : TunnelRegistry}
  {server next : Server} {event : Event}

theorem connection_of_ofSession {other : Connection} (mine : ofSession connection event = true)
    (moves : event.connection? = some other) : other = connection := by
  cases event <;> simp_all [ofSession, Event.connection?]

theorem OwnTask.step (own : OwnTask connection session start server)
    (step : server.step event = some next) (mine : ofSession connection event = true)
    (harmless : ¬ UnregistersOther session.pubkey start connection event) :
    OwnTask connection session start next := by
  -- only the session's own events move its task
  have here : ∀ other, event.connection? = some other → other = connection :=
    fun other => connection_of_ofSession mine
  cases Server.step_move server next event step with
  | quiet _ _ other _ _ turn tasks =>
    by_cases same : other = connection
    · subst same
      refine ⟨?_, ?_⟩
      · rw [tasks, update_self]
        have before := own.task
        generalize server.tasks other = old at turn before
        cases turn with
        | stay => exact before
        | accepted | timedOut | started =>
          rcases before with impossible | impossible <;> cases impossible
        | stopped =>
          rcases before with running | impossible
          · exact .inl running
          · cases impossible
      · intro running id prog dispatching
        rw [tasks, update_self] at dispatching
        exact own.frame running id prog ((turn_dispatching turn _ _ _).mp dispatching)
    · have unmoved : next.tasks connection = server.tasks connection := by
        rw [tasks, update_of_ne (Ne.symm same)]
      exact ⟨by rw [unmoved]; exact own.task, by rw [unmoved]; exact own.frame⟩
  | ticked => exact ⟨own.task, own.frame⟩
  | reaped => cases mine
  | greeted other _ _ _ _ _ handshaking =>
    cases here other rfl
    rcases own.task with impossible | impossible <;> rw [handshaking] at impossible <;>
      cases impossible
  | begun other running _ before =>
    cases here other rfl
    have same : running = session := by
      rcases own.task with this | impossible
      · rw [before] at this
        exact Option.some.inj this
      · rw [before] at impossible
        cases impossible
    subst same
    refine ⟨.inl ?_, ?_⟩
    · rw [setTask_tasks, update_self, afterDispatch_session?]
    · intro named id prog dispatching info found
      rw [setTask_tasks, update_self] at dispatching
      obtain ⟨_, rfl, _⟩ := afterDispatch_dispatching dispatching
      by_contra foreign
      exact harmless ⟨id, info, rfl, found, foreign⟩
  | answered other _ _ frame _ _ _ _ before =>
    cases here other rfl
    refine ⟨?_, ?_⟩
    · rw [setTask_tasks, update_self, afterDispatch_session?]
      rcases own.task with this | impossible
      · rw [before] at this
        exact .inl this
      · rw [before] at impossible
        cases impossible
    · intro named id prog dispatching
      rw [setTask_tasks, update_self] at dispatching
      obtain ⟨rfl, rfl, _⟩ := afterDispatch_dispatching dispatching
      exact own.frame _ id _ before
  | cleaned other =>
    cases here other rfl
    have closed : update server.tasks connection .closed connection = Task.closed :=
      update_self ..
    refine ⟨.inr closed, ?_⟩
    intro named id prog dispatching
    rw [setTask_tasks, closed] at dispatching
    cases dispatching

/-- One harmless step of the session leaves a tunnel of another key as it was. -/
theorem OwnTask.entry (own : OwnTask conn session start server)
    (mirror : Mirror server ledger stages) (attached : Attached server)
    (step : server.step event = some next) (mine : ofSession conn event = true)
    (room : next.allocated < 2 ^ 64 - 1) (listed : start.tunnels.lookup id = some info)
    (found : server.registry.tunnels.lookup id = some info)
    (foreign : info.owner ≠ session.pubkey) : next.registry.tunnels.lookup id = some info := by
  have acting : ∀ other running, event.connection? = some other →
      (server.tasks other).session? = some running → running.pubkey = session.pubkey := by
    intro other running moves present
    cases connection_of_ofSession mine moves
    rcases own.task with this | closed
    · rw [present] at this
      rw [Option.some.inj this]
    · rw [closed] at present
      cases present
  have moved := entry_move mirror found step attached room
  generalize next.registry.tunnels.lookup id = entry at moved
  cases moved with
  | kept => rfl
  | unregistered _ _ running prog before =>
    cases connection_of_ofSession mine rfl
    exact absurd (own.frame running id prog before info listed) foreign
  | resumed other _ running _ _ before owner =>
    exact absurd (owner.trans (acting other running rfl (by rw [before]; rfl))) foreign
  | handled other _ running _ _ before owner =>
    exact absurd (owner.trans (acting other running rfl (by rw [before]; rfl))) foreign
  | disposed other running _ before owner =>
    exact absurd (owner.trans (acting other running rfl (by rw [before]; rfl))) foreign
  | expired => cases mine

/-- The removal of `id` has been asked for by a session, or `id` is gone already. -/
def Doomed (connection : Connection) (id : TunnelId) (owner : PubKey) (server : Server)
    (ledger : Ledger) : Prop :=
  Owned ledger id owner ∧ (phase ledger id = .gone ∨ ∃ session rest,
    server.tasks connection = .dispatching session (.unregisterTunnel id) (.call (.remove id) rest))

theorem Doomed.step {owner : PubKey} (doomed : Doomed conn id owner server ledger)
    (mirror : Mirror server ledger stages) (step : server.step event = some next)
    (ran : run Ledger.step ledger (mirrored server stages event) = some after)
    (mirrors : Mirror next after (stagesAfter server stages event))
    (room : next.allocated < 2 ^ 64 - 1) : Doomed conn id owner next after := by
  obtain ⟨owned, asked⟩ := doomed
  have roomAfter : after.allocated < 2 ^ 64 - 1 := by rw [mirrors.same.allocated]; exact room
  have still := owned_run mirror.holds ran roomAfter owned
  refine ⟨still, ?_⟩
  rcases asked with gone | ⟨session, rest, task⟩
  · exact .inl (gone_run _ ran roomAfter id mirror.holds gone)
  · by_cases moves : event.connection? = some conn
    · -- the only event this task is ready for is the answer to its call
      cases event <;> cases moves <;> simp only [Server.step, task] at step <;> try cases step
      refine .inl (still.resolve_left ?_)
      rintro ⟨info, found, _⟩
      rw [mirrors.same.registry] at found
      simp [TunnelRegistry.remove, TunnelRegistry.lookup_removeLocked] at found
    · exact .inr ⟨session, rest, by rw [step_tasks_other step conn moves, task]⟩

end Steps

/-- The run of a session, from any state the relay can be in, to its end or to any point
where no dispatch is under way. -/
theorem tenant_isolation_iff (config : Config) (pool : PortPool)
    (entries : HashMap PubKey AuthorizedEntry) (peers : List String) (now : Instant)
    (nonzero : 0 ∉ pool.ports) (server : Server)
    (reached : Reachable Server.step (Server.init config pool entries peers now) server)
    (connection : Connection) (session : Session)
    (running : server.tasks connection = .running session) (events : List Event)
    (mine : ∀ event ∈ events, ofSession connection event = true) (last : Server)
    (finished : run Server.step server events = some last)
    (settled : ∀ session frame program, last.tasks connection ≠ .dispatching session frame program)
    (room : last.allocated < 2 ^ 64 - 1) :
    OthersLeftAlone session.pubkey server.registry last.registry ↔
      ∀ event ∈ events, ¬ UnregistersOther session.pubkey server.registry connection event := by
  have attached := attached_reachable config pool entries peers now server reached
  have bound := server_allocated_le events finished
  obtain ⟨ledger, stages, mirror, _⟩ := mirror_reachable config pool entries peers now nonzero
    server reached (by omega)
  constructor
  · rintro alone event member ⟨id, info, rfl, found, foreign⟩
    have found' := found
    rw [← mirror.same.registry] at found'
    obtain ⟨before, later, rfl⟩ := List.append_of_mem member
    obtain ⟨asked, reachedAsked, finished⟩ := (run_append _ _ _ _ _).mp finished
    obtain ⟨begun, stepped, finished⟩ := (run_cons _ _ _ _ _).mp finished
    have roomBegun := server_allocated_le later finished
    have roomAsked := step_allocated_le stepped
    -- up to the frame the tunnel is there or gone
    obtain ⟨ledger₁, stages₁, attached₁, mirror₁, owned⟩ := mirror_run
      (fun _ ledger _ => Owned ledger id info.owner)
      (fun _ _ _ _ next after _ mirror owned _ _ answered mirrors room =>
        owned_run mirror.holds answered (by rw [mirrors.same.allocated]; exact room) owned)
      attached mirror (.inl ⟨info, found', rfl⟩)
      (meets_trivial _ _ (fun _ _ => trivial) _ _) reachedAsked (by omega)
    obtain ⟨ledger₂, answered, mirror₂⟩ := mirror₁.step attached₁ begun _ stepped (by omega)
    cases answered
    have doomed : Doomed connection id info.owner begun ledger₁ := by
      refine ⟨owned, .inr ?_⟩
      cases Server.step_move asked begun _ stepped with
      | quiet _ _ _ _ silent => cases silent
      | begun _ named => exact ⟨named, _, update_self ..⟩
    obtain ⟨ledger₃, stages₃, _, mirror₃, _, gone⟩ := mirror_run
      (fun server ledger _ => Doomed connection id info.owner server ledger)
      (fun _ _ _ _ _ _ _ mirror doomed _ stepped answered mirrors room =>
        doomed.step mirror stepped answered mirrors room)
      (attached₁.step begun _ stepped) mirror₂ doomed
      (meets_trivial _ _ (fun _ _ => trivial) _ _) finished room
    have present := (alone id info found foreign).entry
    rcases gone with gone | ⟨named, rest, task⟩
    · rw [← mirror₃.same.registry, phase_gone_lookup gone] at present
      cases present
    · exact settled named _ _ task
  · intro harmless
    have met : Meets Server.step (fun _ event => ofSession connection event = true ∧
        ¬ UnregistersOther session.pubkey server.registry connection event) server events :=
      meets_of_mem _ _ _ (fun event member _ => ⟨mine event member, harmless event member⟩) _
    obtain ⟨after, later, _, mirrors, _, same⟩ := mirror_run
      (fun state _ _ => OwnTask connection session server.registry state ∧
        ∀ id info, server.registry.tunnels.lookup id = some info → info.owner ≠ session.pubkey →
          state.registry.tunnels.lookup id = some info)
      (by
        rintro state _ _ event next _ attached mirror ⟨own, same⟩ ⟨mine, harmless⟩ stepped _ _ room
        refine ⟨own.step stepped mine harmless, ?_⟩
        intro id info found foreign
        exact own.entry mirror attached stepped mine room found (same id info found foreign) foreign)
      attached mirror
      ⟨⟨.inl (by rw [running]; rfl), fun _ _ _ task => by rw [running] at task; cases task⟩,
        fun _ _ found _ => found⟩ met finished room
    intro id info found foreign
    have still := same id info found foreign
    rw [← mirror.same.registry] at found ⊢
    rw [← mirrors.same.registry] at still ⊢
    exact leftAlone_of_entry mirror.holds mirrors.holds found still

section Example

private def twoTenants : List Event :=
  signIn ⟨0⟩ dave ⟨.replicate 16 1⟩ ++ publishHttp ⟨0⟩ "shop" ++ signIn ⟨1⟩ erin ⟨.replicate 16 2⟩

/-- The second tenant pings, names a tunnel that does not exist, and leaves. -/
private def quietVisit : List Event :=
  [.frame ⟨1⟩ (.ping 7), .call ⟨1⟩ {}, .frame ⟨1⟩ (.unregisterTunnel ⟨9⟩), .call ⟨1⟩ {},
    .frame ⟨1⟩ .bye, .cleanup ⟨1⟩]

private def bothOnline : Server := final Server.step smallRelay twoTenants

theorem tenant_isolation_iff_visit :
    (bothOnline.registry.tunnels.lookup ⟨1⟩).map TunnelInfo.owner = some dave ∧
    (OthersLeftAlone erin bothOnline.registry (final Server.step bothOnline quietVisit).registry ↔
      ∀ event ∈ quietVisit, ¬ UnregistersOther erin bothOnline.registry ⟨1⟩ event) :=
  ⟨rfl, tenant_isolation_iff domainConfig ⟨7000, 7001⟩ twoKeys [] 0 (by decide) bothOnline
    ⟨twoTenants, run_final rfl⟩ ⟨1⟩ _ rfl quietVisit (by decide) _ (run_final rfl)
    (fun _ _ _ task => by cases task) (by decide)⟩

/-- The second tenant takes down the first one's tunnel. -/
theorem unregister_removes_other_tenant :
    (bothOnline.registry.tunnels.lookup ⟨1⟩).map TunnelInfo.owner = some dave ∧
    bothOnline.registry.resolveLabel "shop" = some ⟨⟨1⟩, ⟨0⟩, ⟨0⟩, false⟩ ∧
    (∃ session, bothOnline.tasks ⟨1⟩ = .running session ∧ session.pubkey = erin) ∧
    ∃ last, run Server.step bothOnline
        [.frame ⟨1⟩ (.unregisterTunnel ⟨1⟩), .call ⟨1⟩ {}] = some last ∧
      last.registry.tunnels.lookup ⟨1⟩ = none ∧ last.registry.resolveLabel "shop" = none :=
  ⟨rfl, rfl, ⟨_, rfl, rfl⟩, _, rfl, rfl, rfl⟩

end Example

end KrotRelay.Guarantees
