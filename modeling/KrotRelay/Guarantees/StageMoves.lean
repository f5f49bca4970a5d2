import KrotRelay.Guarantees.DispatchMoves
import KrotRelay.Guarantees.Registration

/-!
What one event does to the registry, the listener tasks and the milestones of the
registrations, together. Every result that depends on how far the registrations have got
takes a step apart through `stage_move`.
-/
namespace KrotRelay.Guarantees
open Source Lib TunnelRegistry Server Option
open Function (update update_self update_of_ne)

variable {stage later : Milestone} {frame : ClientFrame} {server middle next : Server}
  {session : Session} {id : TunnelId} {request : Call} {after before : TunnelRegistry}
  {connection : Connection} {event : Event} {stages : Connection → Milestone}

namespace Milestone

/-- The tunnel a registration is about. -/
def id? : Milestone → Option TunnelId
  | .reservedHttp id _ | .reservedTcp id _ | .bound id _ _ | .located id _ _
  | .spawned id _ _ _ | .reattached id _ _ | .respawned id _ _ | .obtained id _ => some id
  | .idle | .cleared | .finished => none

/-- The tunnel that was allocated and is not in the table yet. -/
def reserved? : Milestone → Option TunnelId
  | .reservedHttp id _ | .reservedTcp id _ | .bound id _ _ | .located id _ _
  | .spawned id _ _ _ => some id
  | _ => none

/-- The TCP tunnel that was put back into the table and has no abort handle yet. -/
def resuming? : Milestone → Option TunnelId
  | .reattached id _ _ | .respawned id _ _ => some id
  | _ => none

def ofAlloc : Alloc → Milestone
  | ⟨id, .http label⟩ => .reservedHttp id label
  | ⟨id, .tcp port⟩ => .reservedTcp id port

/-- Where the answer of `try_resume` leads; a TCP tunnel without listener is passed over. -/
def ofResumed (id : TunnelId) (info : TunnelInfo) : Milestone :=
  match info.kind, info.tcpListener with
  | .http label, _ => .obtained id (.http label)
  | .tcp port, some listener => .reattached id port listener
  | .tcp _, none => .idle

theorem reserved_id? (reserved : stage.reserved? = some id) : stage.id? = some id := by
  cases stage <;> first | exact reserved | cases reserved

theorem settled_plain (settled : stage.Settled) :
    stage.reserved? = none ∧ stage.resuming? = none ∧ ¬ stage.Unrecorded := by
  cases stage <;> first | exact ⟨rfl, rfl, id⟩ | cases settled

@[simp] theorem ofAlloc_id? (alloc : Alloc) : (ofAlloc alloc).id? = some alloc.id := by
  obtain ⟨id, kind⟩ := alloc
  cases kind <;> rfl

@[simp] theorem ofAlloc_reserved? (alloc : Alloc) : (ofAlloc alloc).reserved? = some alloc.id := by
  obtain ⟨id, kind⟩ := alloc
  cases kind <;> rfl

@[simp] theorem ofAlloc_resuming? (alloc : Alloc) : (ofAlloc alloc).resuming? = none := by
  obtain ⟨id, kind⟩ := alloc
  cases kind <;> rfl

end Milestone

/-- The entry allows a tunnel of this kind. -/
def Permits (entry : AuthorizedEntry) : RegisteredKind → Prop
  | .http label => isValidLabel label = true ∧ permitsLabel entry label = true
  | .tcp port => ∀ list, entry.allowedPorts = some list → port ∈ list

/-- Everything the answer to one call of a dispatch can do, with the milestones before and
after it. -/
inductive Advance (server : Server) (session : Session) (frame : ClientFrame) :
    Call → Milestone → Server → Milestone → Prop where
  | kept (request : Call) (stage) (next) (same : Untouched server next)
      (goesOn : ∀ code detail, request ≠ .writeFrame (.tunnelRejected code detail)) :
      Advance server session frame request stage next stage
  | dropped (request : Call) (stage) (next) (same : Untouched server next)
      (recorded : ¬ stage.Unrecorded) :
      Advance server session frame request stage next .finished
  | counted : Advance server session frame (.countOwnedBy session.pubkey) .idle server
        (afterCount session (server.registry.countOwnedBy session.pubkey))
  | bound (id port listener) (fits : port = 0 ∨ listener.localPort = port) :
      Advance server session frame (.bind port) (.reservedTcp id port) server
        (.bound id port listener)
  | located (id port listener) :
      Advance server session frame (.localAddr listener) (.bound id port listener) server
        (.located id port listener)
  | spawned (task port) : Advance server session frame
        (.spawnTcpTunnel task.listener task.connection task.tunnelId task.rate task.inspect)
        (.located task.tunnelId port task.listener)
        { server with tcpTasks := server.tcpTasks ++ [task] }
        (.spawned task.tunnelId port task.listener ⟨server.tcpTasks.length⟩)
  | respawned (task port) : Advance server session frame
        (.spawnTcpTunnel task.listener task.connection task.tunnelId task.rate task.inspect)
        (.reattached task.tunnelId port task.listener)
        { server with tcpTasks := server.tcpTasks ++ [task] }
        (.respawned task.tunnelId port ⟨server.tcpTasks.length⟩)
  | granted (request : Call) (stage) (alloc : Alloc) (registry)
      (asks : ∀ sent, request ≠ .writeFrame sent)
      (may : stage.MayAllocate session) (permits : Permits session.entry alloc.kind)
      (grants : server.registry.Grants registry alloc)
      (aborted : registry.aborted = server.registry.aborted) :
      Advance server session frame request stage
        { server with registry := registry, allocated := server.allocated + 1 } (.ofAlloc alloc)
  | insertedHttp (info label) (owner : info.owner = session.pubkey) (kind : info.kind = .http label)
      (state : info.state = .live session.connection none) :
      Advance server session frame (.insert info) (.reservedHttp info.id label)
        { server with registry := server.registry.insert info } (.obtained info.id info.kind)
  | insertedTcp (info port listener handle) (owner : info.owner = session.pubkey)
      (kind : info.kind = .tcp listener.localPort)
      (state : info.state = .live session.connection (some handle)) :
      Advance server session frame (.insert info) (.spawned info.id port listener handle)
        { server with registry := server.registry.insert info } (.obtained info.id info.kind)
  | removed (id : TunnelId) (named : frame = .unregisterTunnel id) :
      Advance server session frame (.remove id) .idle
        { server with registry := server.registry.remove id } .idle
  | handled (id port handle) :
      Advance server session frame (.setTcpAbort id handle) (.respawned id port handle)
        { server with registry := server.registry.setTcpAbort id handle } (.obtained id (.tcp port))
  | resumed (label) (sessionId) (id) (info)
      (expiresAt) (nameable : server.registry.Nameable label id info)
      (found : server.registry.tunnels.lookup id = some info)
      (state : info.state = .dangling expiresAt) (asked : info.sessionId = sessionId)
      (owner : info.owner = session.pubkey) :
      Advance server session frame (.tryResume label sessionId session.pubkey session.connection)
        .idle
        { server with
          registry :=
            { server.registry with
              tunnels := server.registry.tunnels.insert id
                { info with state := .live session.connection none } } }
        (.ofResumed id info)

private theorem resumed_milestone (session : Session) (label : String) (sessionId : SessionId)
    (pubkey : PubKey) (conn : Connection) (id : TunnelId) (info : TunnelInfo) :
    progressNext session .idle (.tryResume label sessionId pubkey conn)
      (TunnelRegistry.reportResumed id info) = .ofResumed id info := by
  unfold TunnelRegistry.reportResumed Milestone.ofResumed
  cases info.kind with
  | http => rfl
  | tcp => cases info.tcpListener <;> rfl

/-- A written frame leaves the milestone, or gives the registration up. -/
private theorem written_advance {sent : ServerFrame} (reply : Except String Unit)
    (allowed : progressAllows session frame stage (.writeFrame sent))
    (same : Untouched server next) : Advance server session frame (.writeFrame sent) stage next
      (progressNext session stage (.writeFrame sent) reply) := by
  cases sent with
  | tunnelRejected => exact .dropped _ stage next same allowed
  | _ => exact .kept _ stage next same nofun

theorem answer_advance {choice : Choice} {reply : request.Reply}
    (allowed : progressAllows session frame stage request)
    (answered : server.answer conn choice request = some (reply, middle)) :
    Advance server session frame request stage middle
      (progressNext session stage request reply) := by
  cases answer_cases answered with
  | question request _ asks =>
    cases request with
    | countOwnedBy =>
      obtain ⟨rfl, rfl⟩ := allowed
      cases answered
      exact .counted
    | peersSnapshot | findOwner => exact .kept _ stage server ⟨rfl, rfl, rfl⟩ nofun
    | consume | readKind | readFrame | freshNonce | freshSessionId | nowUtc => exact allowed.elim
    | _ => cases asks
  | resumed label sessionId pubkey =>
    obtain ⟨rfl, rfl, rfl⟩ := allowed
    rcases server.registry.tryResume_nameable choice.order label sessionId session.pubkey
        session.connection with
      same | same | ⟨id, info, expiresAt, nameable, found, state, asked, owner, effect⟩
    · rw [same]
      exact .kept _ .idle server ⟨rfl, rfl, rfl⟩ nofun
    · rw [same]
      exact .kept _ .idle server ⟨rfl, rfl, rfl⟩ nofun
    · rw [effect, resumed_milestone]
      exact .resumed label sessionId id info expiresAt nameable found state asked owner
  | grantedHttp label id registry result =>
    exact .granted _ stage ⟨id, .http label⟩ registry nofun allowed.1 allowed.2
      (allocateHttp_ok _ _ _ _ result)
      (by rw [← server.registry.allocateHttp_aborted label, result])
  | refusedHttp | refusedTcp => exact .kept _ stage server ⟨rfl, rfl, rfl⟩ nofun
  | grantedTcp _ id port registry result =>
    obtain ⟨may, rfl⟩ := allowed
    refine .granted _ stage ⟨id, .tcp port⟩ registry nofun may ?_ (allocateTcp_ok _ _ _ _ _ result)
      (by rw [← server.registry.allocateTcp_aborted session.entry.allowedPorts, result])
    intro list listed
    rw [listed] at result
    exact allocateTcp_listed _ _ _ _ _ result
  | inserted info =>
    obtain ⟨_, owner, ⟨label, rfl, kind, state⟩ | ⟨port, listener, handle, rfl, kind, state⟩⟩ :=
      allowed
    · exact .insertedHttp info label owner kind state
    · exact .insertedTcp info port listener handle owner kind state
  | removed id =>
    obtain ⟨rfl, named⟩ := allowed
    exact .removed id named
  | handled id newAbort =>
    obtain ⟨_, port, rfl⟩ := allowed
    exact .handled id port newAbort
  | fetched | appended | unparsed => exact allowed.elim
  | written sent => exact written_advance _ allowed ⟨rfl, rfl, rfl⟩
  | unwritten sent => exact written_advance _ allowed ⟨rfl, rfl, rfl⟩
  | bound port listener _ fits =>
    obtain ⟨id, rfl⟩ := allowed
    exact .bound id port listener fits
  | unbound =>
    obtain ⟨id, rfl⟩ := allowed
    exact .dropped _ _ server ⟨rfl, rfl, rfl⟩ not_false
  | located listener =>
    obtain ⟨id, port, rfl⟩ := allowed
    exact .located id port listener
  | unlocated =>
    obtain ⟨id, port, rfl⟩ := allowed
    exact .dropped _ _ server ⟨rfl, rfl, rfl⟩ not_false
  | spawned listener attached tunnelId rate inspect =>
    obtain ⟨_, port, rfl | rfl⟩ := allowed
    · exact .spawned ⟨listener, attached, tunnelId, rate, inspect⟩ port
    · exact .respawned ⟨listener, attached, tunnelId, rate, inspect⟩ port

/-- A rejection ends the registration. -/
theorem Advance.rejected {code : ErrorCode} {detail : String}
    (advance : Advance server session frame (.writeFrame (.tunnelRejected code detail)) stage
      middle later) : later = .finished := by
  cases advance with
  | kept _ _ _ _ goesOn => exact absurd rfl (goesOn code detail)
  | dropped => rfl
  | granted _ _ _ _ asks => exact absurd rfl (asks _)

/-- Everything one event can do to registry, listener tasks and milestones. -/
inductive StageMove (server : Server) (stages : Connection → Milestone) :
    Event → Server → (Connection → Milestone) → Prop where
  | rested (event : Event) (next) (later) (same : Untouched server next)
      (stays : ∀ connection, later connection = stages connection ∨
        ((stages connection).Settled ∧ later connection = .idle))
      (dispatches : ∀ connection session frame program,
        next.tasks connection = .dispatching session frame program →
        later connection = .idle ∨ (later connection = stages connection ∧
          server.tasks connection = .dispatching session frame program)) :
      StageMove server stages event next later
  | reaped : StageMove server stages .reapExpired
        { server with registry := (server.registry.reapExpired server.now).2 } stages
  | advanced (connection : Connection) (choice) (session) (frame) (request : Call) (rest)
      (middle) (task : Task) (later) (tasks : middle.tasks = server.tasks)
      (running : server.tasks connection = .dispatching session frame (.call request rest))
      (goesOn : ∀ session' frame' program, task = .dispatching session' frame' program →
        session' = session ∧ frame' = frame)
      (advance : Advance server session frame request (stages connection) middle later) :
      StageMove server stages (.call connection choice) (middle.setTask connection task)
        (update stages connection later)
  | cleaned (connection session result) (ended : server.tasks connection = .ended session result) :
      StageMove server stages (.cleanup connection)
        ({ server with registry := server.disposeTunnels session.pubkey result }.setTask
          connection .closed) stages

theorem stage_move (tracked : Tracked registration server stages)
    (step : server.step event = some next) :
    StageMove server stages event next (registration.after server stages event) := by
  have moved := dispatch_event_move tracked step
  generalize registration.after server stages event = later at moved ⊢
  cases moved with
  | rested _ _ _ same stays dispatches =>
    exact .rested _ _ _ same stays fun conn session frame prog dispatching =>
      (dispatches conn session frame prog dispatching).imp_left And.left
  | reaped => exact .reaped
  | advanced conn choice session frame request rest _ middle task allowed answered =>
    refine .advanced conn choice session frame request rest middle _ _
      (answer_frame answered).1 task ?_ (answer_advance allowed answered)
    intro session' frame' prog dispatching
    obtain ⟨rfl, rfl, _⟩ := afterDispatch_dispatching dispatching
    exact ⟨rfl, rfl⟩
  | cleaned conn session result task => exact .cleaned conn session result task

/-- The entry of `id`, if there is one afterwards, is that of the same tunnel. -/
def Descends (before after : TunnelRegistry) (id : TunnelId) : Prop :=
  ∀ info, after.tunnels.lookup id = some info →
    ∃ old, before.tunnels.lookup id = some old ∧ info.kind = old.kind ∧ info.owner = old.owner

/-- Nothing but the state of the entry is new. -/
def Restated (before after : TunnelRegistry) (id : TunnelId) : Prop :=
  ∀ info, after.tunnels.lookup id = some info →
    ∃ old, before.tunnels.lookup id = some old ∧ info = { old with state := info.state }

theorem Restated.descends (restated : Restated before after id) : Descends before after id := by
  intro info found
  obtain ⟨old, present, same⟩ := restated info found
  refine ⟨old, present, ?_⟩
  rw [same]
  exact ⟨rfl, rfl⟩

theorem restated_of_lookup
    (same : ∀ info, after.tunnels.lookup id = some info → before.tunnels.lookup id = some info) :
    Restated before after id :=
  fun info found => ⟨info, same info found, rfl⟩

theorem descends_of_lookup
    (same : ∀ info, after.tunnels.lookup id = some info → before.tunnels.lookup id = some info) :
    Descends before after id :=
  (restated_of_lookup same).descends

section Entries
variable (registry : TunnelRegistry)

theorem removeLocked_restated (id queried : TunnelId) :
    Restated registry (registry.removeLocked id) queried := by
  refine restated_of_lookup fun info found => ?_
  rw [lookup_removeLocked] at found
  split at found
  · cases found
  · exact found

theorem setTcpAbort_restated (id queried : TunnelId) (handle : AbortHandle) :
    Restated registry (registry.setTcpAbort id handle) queried := by
  intro info found
  rw [lookup_setTcpAbort] at found
  obtain ⟨old, present, rfl⟩ := map_eq_some_iff.mp found
  refine ⟨old, present, ?_⟩
  split
  · split <;> rfl
  · rfl

theorem reapExpired_restated (now : Instant) (queried : TunnelId) :
    Restated registry (registry.reapExpired now).2 queried := by
  refine restated_of_lookup fun info found => ?_
  rw [lookup_reapExpired, filter_eq_some_iff] at found
  exact found.1

theorem disposeTunnels_restated (server : Server) (pubkey : PubKey)
    (result : Except ServerError SessionOutcome) (queried : TunnelId) :
    Restated server.registry (server.disposeTunnels pubkey result) queried := by
  have swept : Restated server.registry (server.registry.removeAllOwnedBy pubkey) queried := by
    refine restated_of_lookup fun info found => ?_
    rw [lookup_removeAllOwnedBy, filter_eq_some_iff] at found
    exact found.1
  rcases result with _ | (_ | _ | _)
  · exact swept
  · exact swept
  · intro info found
    dsimp only [Server.disposeTunnels] at found
    rw [lookup_markDangling] at found
    obtain ⟨old, present, rfl⟩ := map_eq_some_iff.mp found
    refine ⟨old, present, ?_⟩
    unfold TunnelRegistry.dangled
    split
    · split <;> rfl
    · rfl
  · exact swept

theorem reattach_restated (queried : TunnelId) (state : TunnelState)
    (found : registry.tunnels.lookup id = some info) : Restated registry
      { registry with tunnels := registry.tunnels.insert id { info with state := state } }
      queried := by
  intro entry present
  dsimp only at present
  rw [lookup_tableInsert] at present
  split at present
  · rename_i same
    cases present
    exact ⟨info, same ▸ found, rfl⟩
  · exact ⟨entry, present, rfl⟩

theorem removeLocked_descends (id queried : TunnelId) :
    Descends registry (registry.removeLocked id) queried :=
  (removeLocked_restated registry id queried).descends

theorem setTcpAbort_descends (id queried : TunnelId) (handle : AbortHandle) :
    Descends registry (registry.setTcpAbort id handle) queried :=
  (setTcpAbort_restated registry id queried handle).descends

theorem reapExpired_descends (now : Instant) (queried : TunnelId) :
    Descends registry (registry.reapExpired now).2 queried :=
  (reapExpired_restated registry now queried).descends

theorem disposeTunnels_descends (server : Server) (pubkey : PubKey)
    (result : Except ServerError SessionOutcome) (queried : TunnelId) :
    Descends server.registry (server.disposeTunnels pubkey result) queried :=
  (disposeTunnels_restated server pubkey result queried).descends

theorem reattach_descends (id queried : TunnelId) (info : TunnelInfo) (state : TunnelState)
    (found : registry.tunnels.lookup id = some info) : Descends registry
      { registry with tunnels := registry.tunnels.insert id { info with state := state } }
      queried :=
  (reattach_restated registry queried state found).descends

theorem insert_descends (info : TunnelInfo) (queried : TunnelId) (other : queried ≠ info.id) :
    Descends registry (registry.insert info) queried := by
  refine descends_of_lookup fun entry found => ?_
  rwa [lookup_insert, if_neg other] at found

end Entries

/-- A call of a dispatch adds nothing to the table, or it is the `insert` of a tunnel of the
session's own. -/
theorem Advance.entries (advance : Advance server session frame request stage middle later) :
    (∀ id, Restated server.registry middle.registry id) ∨
    ∃ info, request = .insert info ∧ middle.registry = server.registry.insert info ∧
      stage.reserved? = some info.id ∧ info.owner = session.pubkey ∧
      later = .obtained info.id info.kind := by
  have same : middle.registry = server.registry →
      ∀ id, Restated server.registry middle.registry id := by
    intro registry id
    rw [registry]
    exact restated_of_lookup fun _ found => found
  cases advance with
  | kept _ _ _ untouched => exact .inl (same untouched.registry)
  | dropped _ _ _ untouched => exact .inl (same untouched.registry)
  | counted | bound | located | spawned | respawned => exact .inl (same rfl)
  | granted _ _ _ _ _ _ _ grants =>
    refine .inl fun id => restated_of_lookup fun info found => ?_
    dsimp only at found
    rwa [grants.tunnels] at found
  | insertedHttp info _ owner =>
    exact .inr ⟨info, rfl, rfl, rfl, owner, rfl⟩
  | insertedTcp info _ _ _ owner =>
    exact .inr ⟨info, rfl, rfl, rfl, owner, rfl⟩
  | removed id => exact .inl (removeLocked_restated _ id)
  | handled id _ handle => exact .inl fun asked => setTcpAbort_restated _ id asked handle
  | resumed _ _ id info _ _ found =>
    exact .inl fun asked => reattach_restated _ asked _ found

theorem Advance.table (advance : Advance server session frame request stage middle later) :
    (∀ id, Descends server.registry middle.registry id) ∨
    ∃ info, request = .insert info ∧ middle.registry = server.registry.insert info ∧
      stage.reserved? = some info.id ∧ info.owner = session.pubkey ∧
      later = .obtained info.id info.kind :=
  advance.entries.imp_left fun restated id => (restated id).descends

/-- Ids are handed out once: what is in the table and what the registrations are about lies
below the counter, and an id that is only reserved belongs to one registration. -/
structure Numbered (server : Server) (stages : Connection → Milestone) : Prop where
  counter : server.registry.nextId = server.allocated + 1
  below : ∀ id info, server.registry.tunnels.lookup id = some info → id.val < server.registry.nextId
  named : ∀ connection id, (stages connection).id? = some id → id.val < server.registry.nextId
  fresh : ∀ connection id, (stages connection).reserved? = some id →
    server.registry.tunnels.lookup id = none
  apart : ∀ connection other id, connection ≠ other →
    (stages connection).reserved? = some id → (stages other).id? ≠ some id

theorem numbered_init (config : Config) (pool : PortPool)
    (entries : HashMap PubKey AuthorizedEntry) (peers : List String) (now : Instant) :
    Numbered (Server.init config pool entries peers now) fun _ => .idle where
  counter := rfl
  below := nofun
  named := nofun
  fresh := nofun
  apart := nofun

theorem disposeTunnels_nextId (server : Server) (pubkey : PubKey)
    (result : Except ServerError SessionOutcome) :
    (server.disposeTunnels pubkey result).nextId = server.registry.nextId := by
  rcases result with _ | (_ | _ | _)
  · exact sweep_nextId _ _
  · exact sweep_nextId _ _
  · exact (markDangling_sameIndex _ _ _ _).nextId
  · exact sweep_nextId _ _

/-- A fact about the milestone of every connection, when one of them moved. -/
theorem milestone_update {part : Milestone → Option TunnelId}
    (own : ∀ id, part later = some id → part (stages conn) = some id) (other : Connection)
    (id : TunnelId) (names : part (update stages conn later other) = some id) :
    part (stages other) = some id := by
  by_cases same : other = conn
  · subst same
    rw [update_self] at names
    exact own id names
  · rwa [update_of_ne same] at names

namespace Numbered

variable {server : Server} {stages : Connection → Milestone} (holds : Numbered server stages)
include holds

/-- No id enters the table or a registration. -/
theorem carry {later : Connection → Milestone}
    (nextId : next.registry.nextId = server.registry.nextId)
    (allocated : next.allocated = server.allocated)
    (table : ∀ id, Descends server.registry next.registry id)
    (names : ∀ conn id, (later conn).id? = some id → (stages conn).id? = some id)
    (reserves : ∀ conn id, (later conn).reserved? = some id →
      (stages conn).reserved? = some id) : Numbered next later where
  counter := by rw [nextId, allocated]; exact holds.counter
  below := by
    intro id info found
    obtain ⟨old, present, _⟩ := table id info found
    rw [nextId]
    exact holds.below id old present
  named := by
    intro conn id about
    rw [nextId]
    exact holds.named conn id (names conn id about)
  fresh := by
    intro conn id reserved
    have absent := holds.fresh conn id (reserves conn id reserved)
    cases found : next.registry.tunnels.lookup id with
    | none => rfl
    | some info =>
      obtain ⟨old, present, _⟩ := table id info found
      rw [absent] at present
      cases present
  apart := by
    intro conn other id differs reserved about
    exact holds.apart conn other id differs (reserves conn id reserved) (names other id about)

theorem granted (conn : Connection) {alloc : Alloc} {registry : TunnelRegistry}
    (task : Task) (grants : server.registry.Grants registry alloc)
    (room : server.allocated + 1 < 2 ^ 64 - 1) : Numbered
      (({ server with registry := registry, allocated := server.allocated + 1 } :
        Server).setTask conn task)
      (update stages conn (.ofAlloc alloc)) := by
  have counter := holds.counter
  have nextId : registry.nextId = server.registry.nextId + 1 := by
    rw [grants.nextId, if_pos (by omega)]
  have issued : alloc.id.val = server.registry.nextId := by rw [grants.id]
  -- the id is above everything the relay knew before
  have unseen : ∀ other, (stages other).id? ≠ some alloc.id := by
    intro other about
    have := holds.named other alloc.id about
    omega
  refine ⟨?_, ?_, ?_, ?_, ?_⟩
  · exact nextId.trans (congrArg (· + 1) counter)
  · intro id info found
    dsimp only [setTask_registry] at found ⊢
    rw [grants.tunnels] at found
    have := holds.below id info found
    omega
  · intro other id about
    dsimp only [setTask_registry]
    by_cases own : other = conn
    · subst own
      rw [update_self, Milestone.ofAlloc_id?, Option.some.injEq] at about
      subst about
      omega
    · rw [update_of_ne own] at about
      have := holds.named other id about
      omega
  · intro other id reserved
    dsimp only [setTask_registry]
    rw [grants.tunnels]
    by_cases own : other = conn
    · subst own
      rw [update_self, Milestone.ofAlloc_reserved?, Option.some.injEq] at reserved
      subst reserved
      cases found : server.registry.tunnels.lookup alloc.id with
      | none => rfl
      | some info =>
        have := holds.below alloc.id info found
        omega
    · rw [update_of_ne own] at reserved
      exact holds.fresh other id reserved
  · intro first second id differs reserved about
    by_cases own : first = conn
    · subst own
      rw [update_self, Milestone.ofAlloc_reserved?, Option.some.injEq] at reserved
      rw [update_of_ne differs.symm] at about
      subst reserved
      exact unseen second about
    · rw [update_of_ne own] at reserved
      by_cases own' : second = conn
      · subst own'
        rw [update_self, Milestone.ofAlloc_id?, Option.some.injEq] at about
        subst about
        exact unseen first (Milestone.reserved_id? reserved)
      · rw [update_of_ne own'] at about
        exact holds.apart first second id differs reserved about

/-- A registration puts its own reserved id into the table. -/
theorem inserted (task : Task)
    (kind : RegisteredKind) (reserved : (stages conn).reserved? = some info.id) :
    Numbered (({ server with registry := server.registry.insert info } : Server).setTask
      conn task) (update stages conn (.obtained info.id kind)) := by
  have about : ∀ other id, (update stages conn (.obtained info.id kind) other).id? = some id →
      (stages other).id? = some id :=
    milestone_update fun id own => (Milestone.reserved_id? reserved).trans own
  refine ⟨holds.counter, ?_, ?_, ?_, ?_⟩
  · intro id found present
    dsimp only [setTask_registry] at present
    rw [lookup_insert] at present
    split at present
    · rename_i same
      rw [same]
      exact holds.named conn info.id (Milestone.reserved_id? reserved)
    · exact holds.below id found present
  · exact fun other id names => holds.named other id (about other id names)
  · intro other id held
    by_cases own : other = conn
    · subst own
      rw [update_self] at held
      cases held
    · rw [update_of_ne own] at held
      dsimp only [setTask_registry]
      rw [lookup_insert, if_neg]
      · exact holds.fresh other id held
      · rintro rfl
        exact holds.apart other conn info.id own held (Milestone.reserved_id? reserved)
  · intro first second id differs held names
    refine holds.apart first second id differs ?_ (about second id names)
    refine milestone_update (fun id own => ?_) first id held
    cases own

theorem resumed (task : Task) (attached : Connection) (idle : stages conn = .idle)
    (found : server.registry.tunnels.lookup id = some info) : Numbered (({ server with
        registry :=
          { server.registry with
            tunnels := server.registry.tunnels.insert id
              { info with state := .live attached none } } } : Server).setTask conn task)
      (update stages conn (.ofResumed id info)) := by
  have about : ∀ queried, (Milestone.ofResumed id info).id? = some queried → queried = id := by
    intro queried names
    unfold Milestone.ofResumed at names
    split at names <;> cases names <;> rfl
  have free : (Milestone.ofResumed id info).reserved? = none := by
    unfold Milestone.ofResumed
    split <;> rfl
  have table : ∀ queried, server.registry.tunnels.lookup queried = none →
      (server.registry.tunnels.insert id { info with state := .live attached none }).lookup
        queried = none := by
    intro queried absent
    rw [lookup_tableInsert, if_neg]
    · exact absent
    · rintro rfl
      rw [found] at absent
      cases absent
  have held : ∀ other queried,
      (update stages conn (.ofResumed id info) other).reserved? = some queried →
      (stages other).reserved? = some queried := by
    refine milestone_update fun queried own => ?_
    rw [free] at own
    cases own
  refine ⟨holds.counter, ?_, ?_, ?_, ?_⟩
  · intro queried entry present
    dsimp only [setTask_registry] at present
    rw [lookup_tableInsert] at present
    split at present
    · rename_i same
      rw [same]
      exact holds.below id info found
    · exact holds.below queried entry present
  · intro other queried names
    by_cases own : other = conn
    · subst own
      rw [update_self] at names
      rw [about queried names]
      exact holds.below id info found
    · rw [update_of_ne own] at names
      exact holds.named other queried names
  · intro other queried reserved
    exact table queried (holds.fresh other queried (held other queried reserved))
  · intro first second queried differs reserved names
    replace reserved := held first queried reserved
    by_cases own : second = conn
    · subst own
      rw [update_self] at names
      have absent := holds.fresh first queried reserved
      rw [about queried names, found] at absent
      cases absent
    · rw [update_of_ne own] at names
      exact holds.apart first second queried differs reserved names

theorem advanced (task : Task)
    (advance : Advance server session frame request (stages conn) middle later)
    (room : middle.allocated < 2 ^ 64 - 1) :
    Numbered (middle.setTask conn task) (update stages conn later) := by
  generalize before : stages conn = stage at advance
  -- the table gains nothing, and the registration keeps its id or loses it
  have carried : middle.registry.nextId = server.registry.nextId →
      middle.allocated = server.allocated →
      (∀ id, Descends server.registry middle.registry id) →
      (∀ id, later.id? = some id → stage.id? = some id) →
      (∀ id, later.reserved? = some id → stage.reserved? = some id) →
      Numbered (middle.setTask conn task) (update stages conn later) := by
    intro nextId allocated table names reserves
    exact holds.carry nextId allocated table (milestone_update (by rwa [before]))
      (milestone_update (by rwa [before]))
  have same : middle.registry = server.registry → middle.allocated = server.allocated →
      (∀ id, later.id? = some id → stage.id? = some id) →
      (∀ id, later.reserved? = some id → stage.reserved? = some id) →
      Numbered (middle.setTask conn task) (update stages conn later) := by
    intro registry allocated
    refine carried (congrArg _ registry) allocated fun id => ?_
    rw [registry]
    exact descends_of_lookup fun _ found => found
  cases advance with
  | kept _ _ _ untouched =>
    exact same untouched.registry untouched.allocated (fun _ => id) fun _ => id
  | dropped _ _ _ untouched =>
    exact same untouched.registry untouched.allocated (by rintro _ ⟨⟩) (by rintro _ ⟨⟩)
  | counted =>
    refine same rfl rfl ?_ ?_
    all_goals
      intro id
      unfold afterCount
      split
      · split <;> rintro ⟨⟩
      · rintro ⟨⟩
  | bound | located | spawned => exact same rfl rfl (fun _ => id) fun _ => id
  | respawned => exact same rfl rfl (fun _ => id) (by rintro _ ⟨⟩)
  | granted _ _ alloc registry _ _ _ grants =>
    exact holds.granted conn task grants room
  | insertedHttp info =>
    exact holds.inserted task _ (by rw [before]; rfl)
  | insertedTcp info =>
    exact holds.inserted task _ (by rw [before]; rfl)
  | removed id =>
    exact carried (removeLocked_nextId _ _) rfl (removeLocked_descends _ id)
      (by rintro _ ⟨⟩) (by rintro _ ⟨⟩)
  | handled id _ handle =>
    exact carried (setTcpAbort_sameIndex _ _ _).nextId rfl
      (fun asked => setTcpAbort_descends _ id asked handle) (fun _ same => same)
      (by rintro _ ⟨⟩)
  | resumed _ _ id info _ _ found =>
    exact holds.resumed task _ before found

theorem step {later : Connection → Milestone} (moved : StageMove server stages event next later)
    (room : next.allocated < 2 ^ 64 - 1) : Numbered next later := by
  cases moved with
  | rested _ _ _ same stays =>
    refine holds.carry (congrArg _ same.registry) same.allocated (fun id => ?_) ?_ ?_
    · rw [same.registry]
      exact descends_of_lookup fun _ found => found
    all_goals
      intro conn id names
      rcases stays conn with equal | ⟨_, idle⟩
      · rwa [equal] at names
      · rw [idle] at names
        cases names
  | reaped =>
    exact holds.carry (sweep_nextId _ _) rfl (reapExpired_descends _ _)
      (fun _ _ => id) fun _ _ => id
  | advanced conn choice session frame request rest middle task later tasks running _ advance =>
    exact holds.advanced task advance room
  | cleaned conn session result ended =>
    exact holds.carry (disposeTunnels_nextId _ _ _) rfl (disposeTunnels_descends server _ _)
      (fun _ _ => id) fun _ _ => id

end Numbered

end KrotRelay.Guarantees
