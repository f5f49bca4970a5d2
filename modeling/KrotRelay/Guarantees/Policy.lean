import KrotRelay.Guarantees.StageMoves

/-!
Tunnels within the permissions of the session that obtains them. A fresh tunnel is checked
against the entry of its session before anything is reserved; a resumed one was checked
against the entry of an earlier session, and `try_resume` looks at no entry. So the
invariant needs that whatever a resume can name is allowed by the entry of the session
that asks.
-/
namespace KrotRelay.Guarantees
open Source Lib TunnelRegistry
open Function (update update_self update_of_ne)

variable {frame : ClientFrame} {session : Session} {middle next : Server}

/-- `subdomain=` and `ports=` of the entry, for a tunnel of this kind. -/
def entryPermits (entry : AuthorizedEntry) : RegisteredKind → Bool
  | .http label => permitsLabel entry label
  | .tcp port =>
    match entry.allowedPorts with
    | some list => list.contains port
    | none => true

/-- The event is a `try_resume` that could reattach a tunnel outside the session's entry. -/
def resumesOutside (server : Server) : Event → Bool
  | .call connection _ =>
    match server.tasks connection with
    | .dispatching session _ (.call (.tryResume label sessionId _ _) _) =>
      server.registry.tunnels.entries.any fun entry =>
        entry.2.state.isDangling && entry.2.sessionId == sessionId &&
        entry.2.owner == session.pubkey &&
        (server.registry.labels.lookup label == some entry.1 ||
          (server.registry.labels.lookup label == none && entry.2.kind.isTcp)) &&
        !entryPermits session.entry entry.2.kind
    | _ => false
  | _ => false

/-- A tunnel a client is about to be told of complies with the entry of its session. -/
def Complies (server : Server) : Prop :=
  ∀ connection session frame id url publicPort rest, server.tasks connection =
      .dispatching session frame (.call (.writeFrame (.tunnelRegistered id url publicPort)) rest) →
    ∃ kind, Permits session.entry kind ∧ Announces session.mode url publicPort kind ∧
      ∀ info, server.registry.tunnels.lookup id = some info → info.kind = kind

/-- What a milestone says about the tunnel it leads to. -/
def Milestone.Lawful (entry : AuthorizedEntry) (registry : TunnelRegistry) : Milestone → Prop
  | .reservedHttp _ label => Permits entry (.http label)
  | .reservedTcp _ port => Permits entry (.tcp port) ∧ port ≠ 0
  | .bound _ port listener | .located _ port listener | .spawned _ port listener _ =>
    Permits entry (.tcp port) ∧ listener.localPort = port
  | .reattached id port _ | .respawned id port _ =>
    Permits entry (.tcp port) ∧
      ∀ info, registry.tunnels.lookup id = some info → info.kind = .tcp port
  | .obtained id kind =>
    Permits entry kind ∧ ∀ info, registry.tunnels.lookup id = some info → info.kind = kind
  | .idle | .cleared | .finished => True

structure Lawful (server : Server) (stages : Connection → Milestone) : Prop where
  numbered : Numbered server stages
  nonzero : 0 ∉ server.registry.portPool.ports
  valid : ∀ id info label, server.registry.tunnels.lookup id = some info →
    info.kind = .http label → isValidLabel label = true
  staged : ∀ connection session frame program,
    server.tasks connection = .dispatching session frame program →
    (stages connection).Lawful session.entry server.registry

theorem lawful_init (config : Config)
    (entries : HashMap PubKey AuthorizedEntry) (peers : List String) (now : Instant)
    (nonzero : 0 ∉ pool.ports) :
    Lawful (Server.init config pool entries peers now) fun _ => .idle where
  numbered := numbered_init config pool entries peers now
  nonzero := nonzero
  valid := by
    intro id info label found
    cases found
  staged := fun _ _ _ _ _ => trivial

theorem Milestone.Lawful.mono {entry : AuthorizedEntry} {before after : TunnelRegistry}
    {stage : Milestone} (lawful : stage.Lawful entry before)
    (kept : ∀ id, stage.id? = some id → Descends before after id) : stage.Lawful entry after := by
  have carry : ∀ id kind, stage.id? = some id →
      (∀ info, before.tunnels.lookup id = some info → info.kind = kind) →
      ∀ info, after.tunnels.lookup id = some info → info.kind = kind := by
    intro id kind about same info found
    obtain ⟨old, present, equal, _⟩ := kept id about info found
    rw [equal, same old present]
  cases stage with
  | reattached id => exact ⟨lawful.1, carry id _ rfl lawful.2⟩
  | respawned id => exact ⟨lawful.1, carry id _ rfl lawful.2⟩
  | obtained id => exact ⟨lawful.1, carry id _ rfl lawful.2⟩
  | _ => exact lawful

section Effects
variable (registry : TunnelRegistry)

theorem sweep_portPool (ids : List TunnelId) :
    (ids.foldl TunnelRegistry.removeLocked registry).portPool = registry.portPool := by
  induction ids generalizing registry with
  | nil => rfl
  | cons _ _ ih => rw [List.foldl_cons, ih, removeLocked_portPool]

theorem disposeTunnels_portPool (server : Server) (pubkey : PubKey)
    (result : Except ServerError SessionOutcome) :
    (server.disposeTunnels pubkey result).portPool = server.registry.portPool := by
  rcases result with _ | (_ | _ | _)
  · exact sweep_portPool _ _
  · exact sweep_portPool _ _
  · exact (markDangling_sameIndex _ _ _ _).portPool
  · exact sweep_portPool _ _

end Effects

namespace Lawful

variable {server : Server} {stages : Connection → Milestone} (holds : Lawful server stages)
include holds

/-- No tunnel enters the table. -/
theorem carry {later : Connection → Milestone} (numbered : Numbered next later)
    (portPool : next.registry.portPool = server.registry.portPool)
    (kept : ∀ id, Descends server.registry next.registry id)
    (staged : ∀ conn session frame prog, next.tasks conn = .dispatching session frame prog →
      (later conn).Lawful session.entry next.registry) : Lawful next later where
  numbered := numbered
  nonzero := portPool ▸ holds.nonzero
  valid := by
    intro id info label found kind
    obtain ⟨old, present, same, _⟩ := kept id info found
    exact holds.valid id old label present (same ▸ kind)
  staged := staged

/-- The registration of one connection moves on, and the others keep what they know. -/
theorem stagedOwn {prog} (later : Milestone) (tasks : middle.tasks = server.tasks)
    (running : server.tasks conn = .dispatching session frame prog)
    (goesOn : ∀ session' frame' program', task = .dispatching session' frame' program' →
      session' = session ∧ frame' = frame)
    (own : (stages conn).Lawful session.entry server.registry →
      later.Lawful session.entry middle.registry)
    (kept : ∀ other id, other ≠ conn → (stages other).id? = some id →
      Descends server.registry middle.registry id) : ∀ other session frame prog,
      (middle.setTask conn task).tasks other = .dispatching session frame prog →
      (update stages conn later other).Lawful session.entry middle.registry := by
  intro other session' frame' program' dispatching
  rw [Server.setTask_tasks, tasks] at dispatching
  by_cases same : other = conn
  · subst same
    rw [update_self] at dispatching ⊢
    obtain ⟨rfl, rfl⟩ := goesOn session' frame' program' dispatching
    exact own (holds.staged other session' frame' prog running)
  · rw [update_of_ne same] at dispatching ⊢
    exact (holds.staged other session' frame' program' dispatching).mono
      fun id about => kept other id same about

theorem inserted {prog} (running : server.tasks conn = .dispatching session frame prog)
    (goesOn : ∀ session' frame' program', task = .dispatching session' frame' program' →
      session' = session ∧ frame' = frame)
    (numbered : Numbered (({ server with registry := server.registry.insert info } :
        Server).setTask conn task)
      (update stages conn (.obtained info.id info.kind)))
    (reserved : (stages conn).reserved? = some info.id)
    (permits : (stages conn).Lawful session.entry server.registry →
      Permits session.entry info.kind) :
    Lawful (({ server with registry := server.registry.insert info } : Server).setTask
      conn task) (update stages conn (.obtained info.id info.kind)) := by
  have permitted := permits (holds.staged conn session frame prog running)
  refine ⟨numbered, holds.nonzero, ?_, ?_⟩
  · intro id entry label found kind
    dsimp only [Server.setTask_registry] at found
    rw [lookup_insert] at found
    split at found
    · cases found
      rw [kind] at permitted
      exact permitted.1
    · exact holds.valid id entry label found kind
  · refine holds.stagedOwn _ rfl running goesOn (fun _ => ⟨permitted, ?_⟩) ?_
    · intro entry found
      rw [lookup_insert, if_pos rfl] at found
      cases found
      rfl
    · intro asked id differs about
      refine insert_descends _ info id ?_
      rintro rfl
      exact holds.numbered.apart conn asked info.id differs.symm reserved about

theorem resumed {prog} {conn : Connection} {id : TunnelId} {info : TunnelInfo}
    {task : Task} (running : server.tasks conn = .dispatching session frame prog)
    (goesOn : ∀ session' frame' program', task = .dispatching session' frame' program' →
      session' = session ∧ frame' = frame) (numbered : Numbered (({ server with
        registry :=
          { server.registry with
            tunnels := server.registry.tunnels.insert id
              { info with state := .live session.connection none } } } : Server).setTask
        conn task)
      (update stages conn (.ofResumed id info)))
    (found : server.registry.tunnels.lookup id = some info)
    (permitted : entryPermits session.entry info.kind = true) :
    Lawful (({ server with
        registry :=
          { server.registry with
            tunnels := server.registry.tunnels.insert id
              { info with state := .live session.connection none } } } : Server).setTask
        conn task)
      (update stages conn (.ofResumed id info)) := by
  have kept := fun asked => reattach_descends server.registry id asked info
    (.live session.connection none) found
  have stands : ∀ entry : TunnelInfo, (server.registry.tunnels.insert id
        { info with state := .live session.connection none }).lookup id = some entry →
      entry.kind = info.kind := by
    intro entry present
    rw [lookup_tableInsert, if_pos rfl] at present
    cases present
    rfl
  refine holds.carry numbered rfl kept ?_
  refine holds.stagedOwn _ rfl running goesOn (fun _ => ?_) fun _ asked _ _ =>
    kept asked
  unfold Milestone.ofResumed
  split
  · rename_i _ _ label kind
    rw [kind] at permitted
    exact ⟨⟨holds.valid id info label found kind, permitted⟩,
      fun entry present => (stands entry present).trans kind⟩
  · rename_i port listener kind _
    rw [kind] at permitted
    refine ⟨?_, fun entry present => (stands entry present).trans kind⟩
    intro list listed
    simp only [entryPermits, listed, List.contains_iff_mem] at permitted
    exact permitted
  · trivial

theorem advanced {request : Call} {later : Milestone} {rest}
    (tasks : middle.tasks = server.tasks)
    (running : server.tasks conn = .dispatching session frame (.call request rest))
    (goesOn : ∀ session' frame' program', task = .dispatching session' frame' program' →
      session' = session ∧ frame' = frame)
    (advance : Advance server session frame request (stages conn) middle later)
    (numbered : Numbered (middle.setTask conn task) (update stages conn later))
    (inside : ∀ label sessionId pubkey attached id info,
      request = .tryResume label sessionId pubkey attached →
      server.registry.Nameable label id info → server.registry.tunnels.lookup id = some info →
      info.state.isDangling = true → info.sessionId = sessionId → info.owner = session.pubkey →
      entryPermits session.entry info.kind = true) :
    Lawful (middle.setTask conn task) (update stages conn later) := by
  generalize before : stages conn = stage at advance
  have carried : middle.registry.portPool = server.registry.portPool →
      (∀ id, Descends server.registry middle.registry id) →
      (stage.Lawful session.entry server.registry → later.Lawful session.entry middle.registry) →
      Lawful (middle.setTask conn task) (update stages conn later) := by
    intro portPool kept own
    refine holds.carry numbered portPool kept ?_
    exact holds.stagedOwn later tasks running goesOn (by rwa [before]) fun _ id _ _ => kept id
  have untouched : middle.registry = server.registry →
      (stage.Lawful session.entry server.registry → later.Lawful session.entry server.registry) →
      Lawful (middle.setTask conn task) (update stages conn later) := by
    intro registry own
    exact carried (congrArg _ registry) (fun id => descends_of_lookup fun info found => registry ▸ found)
      (registry ▸ own)
  cases advance with
  | kept _ _ _ same => exact untouched same.registry fun lawful => lawful
  | dropped _ _ _ same _ => exact untouched same.registry fun _ => trivial
  | counted =>
    refine untouched rfl fun _ => ?_
    unfold afterCount
    split
    · split <;> trivial
    · trivial
  | bound _ _ _ fits =>
    refine untouched rfl fun lawful => ⟨lawful.1, ?_⟩
    exact fits.resolve_left lawful.2
  | located | spawned | respawned => exact untouched rfl fun lawful => lawful
  | granted _ _ alloc _ _ _ permits grants =>
    refine carried grants.portPool (fun id => descends_of_lookup fun info => ?_) fun _ => ?_
    · dsimp only
      rw [grants.tunnels]
      exact fun found => found
    · obtain ⟨id, kind⟩ := alloc
      cases kind with
      | http => exact permits
      | tcp =>
        refine ⟨permits, ?_⟩
        rintro rfl
        exact holds.nonzero (grants.fromPool 0 rfl)
  | insertedHttp info _ _ kind =>
    refine holds.inserted running goesOn numbered (by rw [before]; rfl) ?_
    rw [before, kind]
    exact fun lawful => lawful
  | insertedTcp info _ _ _ _ kind =>
    refine holds.inserted running goesOn numbered (by rw [before]; rfl) ?_
    rw [before, kind]
    rintro ⟨permits, same⟩
    rwa [same]
  | removed id named =>
    exact carried (removeLocked_portPool _ _) (removeLocked_descends _ id) fun _ => trivial
  | handled id _ handle =>
    refine carried (setTcpAbort_sameIndex _ _ _).portPool
      (fun queried => setTcpAbort_descends _ id queried handle) fun lawful => ⟨lawful.1, ?_⟩
    intro info found
    obtain ⟨old, present, same, _⟩ := setTcpAbort_descends _ id id handle info found
    rw [same, lawful.2 old present]
  | resumed label sessionId id info _ nameable found state asked owner =>
    refine holds.resumed running goesOn numbered found ?_
    exact inside label sessionId _ _ id info rfl nameable found (by rw [state]; rfl) asked owner

theorem step {event : Event} {later : Connection → Milestone}
    (moved : StageMove server stages event next later)
    (inside : resumesOutside server event = false) (room : next.allocated < 2 ^ 64 - 1) :
    Lawful next later := by
  have numbered := holds.numbered.step moved room
  cases moved with
  | rested _ _ _ same stays dispatches =>
    refine holds.carry numbered (congrArg _ same.registry)
      (fun id => descends_of_lookup fun info => by rw [same.registry]; exact fun found => found) ?_
    intro conn session frame program dispatching
    rw [same.registry]
    rcases dispatches conn session frame program dispatching with idle | ⟨equal, before⟩
    · rw [idle]
      trivial
    · rw [equal]
      exact holds.staged conn session frame program before
  | reaped =>
    refine holds.carry numbered (sweep_portPool _ _) (reapExpired_descends _ _) ?_
    intro conn session frame program dispatching
    exact (holds.staged conn session frame program dispatching).mono
      fun id _ => reapExpired_descends _ _ id
  | advanced conn choice session frame request rest middle task later tasks running goesOn
      advance =>
    refine holds.advanced tasks running goesOn advance numbered ?_
    rintro label sessionId pubkey attached id info rfl nameable found dangling asked owner
    simp only [resumesOutside, running, List.any_eq_false] at inside
    have spared := inside ⟨id, info⟩ (AList.mem_lookup_iff.mp found)
    rcases nameable with named | ⟨unnamed, tcp⟩
    · simpa [dangling, asked, owner, named] using spared
    · simpa [dangling, asked, owner, unnamed, tcp] using spared
  | cleaned conn session result ended =>
    have kept := disposeTunnels_descends server session.pubkey result
    refine holds.carry numbered (disposeTunnels_portPool _ _ _) kept ?_
    intro other session' frame program dispatching
    rw [Server.setTask_tasks] at dispatching
    have before : server.tasks other = .dispatching session' frame program := by
      by_cases same : other = conn
      · subst same
        rw [update_self] at dispatching
        cases dispatching
      · rwa [update_of_ne same] at dispatching
    exact (holds.staged other session' frame program before).mono fun id _ => kept id

/-- The frame that announces a tunnel is written in the milestone that obtained it. -/
theorem complies (tracked : Tracked registration server stages) : Complies server := by
  intro conn session frame id url publicPort rest running
  obtain ⟨⟨kind, stage, announces⟩, _⟩ := tracked.follows conn session frame _ running
  have lawful := holds.staged conn session frame _ running
  rw [stage] at lawful
  exact ⟨kind, lawful.1, announces, lawful.2⟩

end Lawful

theorem registered_tunnels_comply (config : Config) (pool : PortPool)
    (entries : HashMap PubKey AuthorizedEntry) (peers : List String) (now : Instant)
    (nonzero : 0 ∉ pool.ports) (events : List Event) (server : Server)
    (finished : run Server.step (Server.init config pool entries peers now) events = some server)
    (inside : Meets Server.step (fun state event => resumesOutside state event = false)
      (Server.init config pool entries peers now) events)
    (room : server.allocated < 2 ^ 64 - 1) : Complies server := by
  obtain ⟨stages, finished⟩ := registration.run_stages _ _ (fun _ => .idle) events finished
  obtain ⟨tracked, lawful⟩ := tracked_run registration dispatch_progress
    (fun server stages => server.allocated < 2 ^ 64 - 1 → Lawful server stages)
    (fun server stages event next tracked held inside stepped room =>
      (held (Nat.lt_of_le_of_lt (step_allocated_le stepped) room)).step
        (stage_move tracked stepped) inside room)
    (tracked_init registration trivial config pool entries peers now)
    (fun _ => lawful_init config entries peers now nonzero)
    (registration.meets_stages _ _ _ _ inside) finished
  exact (lawful room).complies tracked

section Example

/-- dave publishes "shop", drops, and comes back under the entries of `updated`, up to the
point where the resumed tunnel is announced. -/
private def backUnder (updated : HashMap PubKey AuthorizedEntry) : List Event :=
  signIn ⟨0⟩ dave ⟨.replicate 16 1⟩ ++ publishHttp ⟨0⟩ "shop" ++
    [.readError ⟨0⟩, .cleanup ⟨0⟩, .reload updated [] [], .announce 0] ++
    signIn ⟨1⟩ dave ⟨.replicate 16 2⟩ ++
    [.frame ⟨1⟩ (.registerTunnel "shop" .http (some ⟨.replicate 16 1⟩) false), .call ⟨1⟩ {}]

private def only (label : String) : AuthorizedEntry :=
  { anyHttp with allowAnySubdomain := false, allowedSubdomains := [label] }

private def narrowedTo (label : String) : HashMap PubKey AuthorizedEntry :=
  AList.insert dave (only label) ∅

theorem registered_tunnels_comply_shop :
    (∃ session frame rest, (final Server.step smallRelay (backUnder (narrowedTo "shop"))).tasks ⟨1⟩ =
      .dispatching session frame (.call (.writeFrame
        (.tunnelRegistered ⟨1⟩ "https://shop.relay.example" none)) rest)) ∧
    Complies (final Server.step smallRelay (backUnder (narrowedTo "shop"))) :=
  ⟨⟨_, _, _, rfl⟩, registered_tunnels_comply domainConfig ⟨7000, 7001⟩ twoKeys [] 0 (by decide)
    (backUnder (narrowedTo "shop")) _ (run_final rfl) (by decide) (by decide)⟩

/-- The entry is narrowed to "blog" while "shop" is dangling, and "shop" is resumed. -/
theorem narrowed_entry_still_resumes :
    let server := final Server.step smallRelay (backUnder (narrowedTo "blog"))
    run Server.step smallRelay (backUnder (narrowedTo "blog")) = some server ∧
    (∃ session frame rest, server.tasks ⟨1⟩ = .dispatching session frame (.call (.writeFrame
          (.tunnelRegistered ⟨1⟩ "https://shop.relay.example" none)) rest) ∧
      session.entry = only "blog" ∧ permitsLabel session.entry "shop" = false) ∧
    ¬ Complies server := by
  refine ⟨run_final rfl, ⟨_, _, _, rfl, rfl, by decide⟩, ?_⟩
  intro complies
  obtain ⟨kind, permits, _, same⟩ := complies ⟨1⟩ _ _ _ _ _ _ rfl
  have shop : RegisteredKind.http "shop" = kind := same _ rfl
  subst shop
  exact absurd permits.2 (by decide)

end Example

end KrotRelay.Guarantees
