import KrotRelay.Guarantees.StageMoves

/-!
One accept loop for each TCP tunnel. A spawned `run_tcp_tunnel` is accounted for: it was
aborted, or its handle stands in the table entry of its tunnel, or the registration that
spawned it still holds the handle. `set_tcp_abort` drops the handle when the tunnel is no
longer Live, so the invariant needs that nobody takes a tunnel away between `try_resume`
and `set_tcp_abort`.
-/
namespace KrotRelay.Guarantees
open Source Lib TunnelRegistry Server Option
open Function (update update_self update_of_ne)

variable {next : Server} {id : TunnelId} {session : Session}

/-- The table knows the handle: whatever ends the tunnel's Live state fires it. -/
def Recorded (registry : TunnelRegistry) (id : TunnelId) (handle : AbortHandle) : Prop :=
  ∃ info connection, registry.tunnels.lookup id = some info ∧
    info.state = .live connection (some handle)

/-- A TCP tunnel that `try_resume` made Live and that has no abort handle yet. -/
def HalfResumed (registry : TunnelRegistry) (id : TunnelId) : Prop :=
  ∃ info connection, registry.tunnels.lookup id = some info ∧ info.kind.isTcp = true ∧
    info.state = .live connection none

/-- The registry lost no handle: an entry that is no longer Live had its handle fired. -/
structure Fires (before after : TunnelRegistry) : Prop where
  kept : ∀ handle ∈ before.aborted, handle ∈ after.aborted
  fired : ∀ id handle, Recorded before id handle → handle ∈ after.aborted ∨ Recorded after id handle

namespace Fires

theorem refl (registry : TunnelRegistry) : Fires registry registry :=
  ⟨fun _ => id, fun _ _ => .inr⟩

theorem trans {first second third : TunnelRegistry} (left : Fires first second)
    (right : Fires second third) : Fires first third where
  kept := fun handle mem => right.kept handle (left.kept handle mem)
  fired := by
    intro id handle recorded
    rcases left.fired id handle recorded with aborted | recorded
    · exact .inl (right.kept handle aborted)
    · exact right.fired id handle recorded

theorem foldl {op : TunnelRegistry → TunnelId → TunnelRegistry}
    (each : ∀ registry id, Fires registry (op registry id)) (ids : List TunnelId)
    (registry : TunnelRegistry) : Fires registry (ids.foldl op registry) := by
  induction ids generalizing registry with
  | nil => exact .refl registry
  | cons id _ ih => exact (each registry id).trans (ih _)

end Fires

section Registry
variable (registry : TunnelRegistry)

theorem abortTask_aborted (state : TunnelState) (handle : AbortHandle) :
    handle ∈ (registry.abortTask state).aborted ↔
      handle ∈ registry.aborted ∨ ∃ conn, state = .live conn (some handle) := by
  unfold TunnelRegistry.abortTask
  split
  · simp [eq_comm]
  · rename_i other
    constructor
    · exact .inl
    · rintro (mem | ⟨conn, rfl⟩)
      · exact mem
      · exact absurd rfl (other conn handle)

theorem removeLocked_aborted (id : TunnelId) (handle : AbortHandle) :
    handle ∈ (registry.removeLocked id).aborted ↔
      handle ∈ registry.aborted ∨ Recorded registry id handle := by
  unfold TunnelRegistry.removeLocked Recorded
  cases found : registry.tunnels.lookup id with
  | none => simp
  | some info => cases kind : info.kind <;> simp [abortTask_aborted, kind]

theorem removeLocked_fires (id : TunnelId) : Fires registry (registry.removeLocked id) where
  kept := fun handle mem => (removeLocked_aborted registry id handle).mpr (.inl mem)
  fired := by
    intro asked handle recorded
    by_cases same : asked = id
    · subst same
      exact .inl ((removeLocked_aborted registry asked handle).mpr (.inr recorded))
    · obtain ⟨info, conn, found, state⟩ := recorded
      refine .inr ⟨info, conn, ?_, state⟩
      rw [lookup_removeLocked, if_neg same, found]

theorem dangle_fires (expiresAt : Instant) (id : TunnelId) :
    Fires registry (registry.dangle expiresAt id) := by
  have aborted : ∀ handle, handle ∈ registry.aborted ∨ Recorded registry id handle →
      handle ∈ (registry.dangle expiresAt id).aborted := by
    rintro handle held
    unfold TunnelRegistry.dangle
    cases found : registry.tunnels.lookup id with
    | none =>
      rcases held with mem | ⟨info, _, present, _⟩
      · exact mem
      · rw [found] at present
        cases present
    | some info =>
      dsimp only
      split
      · rename_i dangling
        rcases held with mem | ⟨info', conn, present, state⟩
        · exact mem
        · rw [found] at present
          cases present
          simp [state, TunnelState.isDangling] at dangling
      · refine (abortTask_aborted _ _ _).mpr ?_
        rcases held with mem | ⟨info', conn, present, state⟩
        · exact .inl mem
        · rw [found] at present
          cases present
          exact .inr ⟨conn, state⟩
  refine ⟨fun handle mem => aborted handle (.inl mem), ?_⟩
  intro asked handle recorded
  by_cases same : asked = id
  · subst same
    exact .inl (aborted handle (.inr recorded))
  · obtain ⟨info, conn, found, state⟩ := recorded
    refine .inr ⟨info, conn, ?_, state⟩
    rw [lookup_dangle, if_neg same, found]

theorem reapExpired_fires (now : Instant) : Fires registry (registry.reapExpired now).2 :=
  .foldl removeLocked_fires _ registry

theorem disposeTunnels_fires (server : Server) (pubkey : PubKey)
    (result : Except ServerError SessionOutcome) :
    Fires server.registry (server.disposeTunnels pubkey result) := by
  rcases result with _ | (_ | _ | _)
  · exact .foldl removeLocked_fires _ _
  · exact .foldl removeLocked_fires _ _
  · exact .foldl (fun registry => dangle_fires registry _) _ _
  · exact .foldl removeLocked_fires _ _

/-- The reaper takes dangling tunnels only. -/
theorem reapExpired_live (now : Instant) {id : TunnelId} {info : TunnelInfo}
    {conn : Connection} {abort : Option AbortHandle}
    (found : registry.tunnels.lookup id = some info) (state : info.state = .live conn abort) :
    (registry.reapExpired now).2.tunnels.lookup id = some info := by
  rw [lookup_reapExpired, found, filter_eq_some_iff]
  exact ⟨rfl, by simp [TunnelRegistry.expired, state]⟩

end Registry

section TableInsert
variable {before after : TunnelRegistry} {id : TunnelId} {info : TunnelInfo}
  (tunnels : after.tunnels = before.tunnels.insert id info)
include tunnels

theorem insert_fires (aborted : after.aborted = before.aborted)
    (unrecorded : ∀ handle, ¬ Recorded before id handle) : Fires before after where
  kept := fun handle mem => aborted ▸ mem
  fired := by
    intro asked handle recorded
    have other : asked ≠ id := by
      rintro rfl
      exact unrecorded handle recorded
    obtain ⟨entry, conn, found, state⟩ := recorded
    refine .inr ⟨entry, conn, ?_, state⟩
    rw [tunnels, lookup_tableInsert, if_neg other, found]

theorem insert_halfResumed (other : queried ≠ id)
    (half : HalfResumed before queried) : HalfResumed after queried := by
  obtain ⟨entry, conn, found, tcp⟩ := half
  refine ⟨entry, conn, ?_, tcp⟩
  rw [tunnels, lookup_tableInsert, if_neg other, found]

theorem insert_found : after.tunnels.lookup id = some info := by
  rw [tunnels, lookup_tableInsert, if_pos rfl]

end TableInsert

/-- On a half resumed tunnel `set_tcp_abort` takes effect. -/
theorem setTcpAbort_halfResumed {registry : TunnelRegistry} {id : TunnelId}
    (half : HalfResumed registry id) (newAbort : AbortHandle) :
    ∃ (info : TunnelInfo) (conn : Connection), registry.setTcpAbort id newAbort = { registry with
        tunnels := registry.tunnels.insert id
          { info with state := .live conn (some newAbort) } } := by
  obtain ⟨info, conn, found, _, state⟩ := half
  exact ⟨info, conn, by simp only [TunnelRegistry.setTcpAbort, found, state]⟩

theorem HalfResumed.unrecorded {registry : TunnelRegistry} (half : HalfResumed registry id)
    (handle : AbortHandle) : ¬ Recorded registry id handle := by
  obtain ⟨info, conn, found, _, state⟩ := half
  rintro ⟨other, attached, present, recorded⟩
  rw [found] at present
  cases present
  rw [state] at recorded
  cases recorded

/-- Cleaning up a session leaves the tunnels of other keys as they are. -/
theorem disposeTunnels_foreign {server : Server} {pubkey : PubKey}
    (result : Except ServerError SessionOutcome) {id : TunnelId} {info : TunnelInfo}
    (found : server.registry.tunnels.lookup id = some info) (foreign : info.owner ≠ pubkey) :
    (server.disposeTunnels pubkey result).tunnels.lookup id = some info := by
  have swept : (server.registry.removeAllOwnedBy pubkey).tunnels.lookup id = some info := by
    rw [lookup_removeAllOwnedBy, found, filter_eq_some_iff]
    exact ⟨rfl, by simpa using foreign⟩
  rcases result with _ | (_ | _ | _)
  · exact swept
  · exact swept
  · dsimp only [Server.disposeTunnels]
    rw [lookup_markDangling, found, map_some, if_neg foreign]
  · exact swept

def halfResumed (info : TunnelInfo) : Bool :=
  info.kind.isTcp && match info.state with
    | .live _ none => true
    | _ => false

/-- The event takes a tunnel away between `try_resume` and `set_tcp_abort`: by an
UnregisterTunnel of any session, or by the end of another session of its owner. -/
def takesHalfResumed (server : Server) : Event → Bool
  | .call connection _ =>
    match server.tasks connection with
    | .dispatching _ _ (.call (.remove id) _) =>
      (server.registry.tunnels.lookup id).any halfResumed
    | _ => false
  | .cleanup connection =>
    match server.tasks connection with
    | .ended session _ => server.registry.tunnels.entries.any fun entry =>
        entry.2.owner == session.pubkey && halfResumed entry.2
    | _ => false
  | _ => false

theorem halfResumed_of_live (tcp : info.kind.isTcp = true) (state : info.state = .live conn none) :
    halfResumed info = true := by
  simp [halfResumed, tcp, state]

/-- The registration holds the handle of the task it spawned. -/
def Milestone.Holds (id : TunnelId) (handle : AbortHandle) : Milestone → Prop
  | .spawned own _ _ held | .respawned own _ held => own = id ∧ held = handle
  | _ => False

theorem Milestone.holds_unrecorded {handle : AbortHandle} {stage : Milestone}
    (holds : stage.Holds id handle) : stage.Unrecorded := by
  cases stage <;> first | exact trivial | cases holds

structure Listening (server : Server) (stages : Connection → Milestone) : Prop where
  numbered : Numbered server stages
  accounted : ∀ (task : Nat) spawned, server.tcpTasks[task]? = some spawned →
    (⟨task⟩ : AbortHandle) ∈ server.registry.aborted ∨
    Recorded server.registry spawned.tunnelId ⟨task⟩ ∨
    ∃ connection, (stages connection).Holds spawned.tunnelId ⟨task⟩
  resuming : ∀ connection id, (stages connection).resuming? = some id →
    HalfResumed server.registry id
  alone : ∀ connection other id, connection ≠ other →
    (stages connection).resuming? = some id → (stages other).resuming? ≠ some id

variable (config : Config) (pool : PortPool) (entries : HashMap PubKey AuthorizedEntry)
  (peers : List String) (now : Instant)

theorem listening_init : Listening (Server.init config pool entries peers now) fun _ => .idle where
  numbered := numbered_init config pool entries peers now
  accounted := nofun
  resuming := nofun
  alone := nofun

namespace Listening

variable {server : Server} {stages : Connection → Milestone} (holds : Listening server stages)
include holds

/-- No task is spawned and no handle is lost. -/
theorem carry {later : Connection → Milestone} (numbered : Numbered next later)
    (tcpTasks : next.tcpTasks = server.tcpTasks) (fires : Fires server.registry next.registry)
    (handed : ∀ conn id handle, (stages conn).Holds id handle →
      (later conn).Holds id handle ∨ Recorded next.registry id handle)
    (resuming : ∀ conn id, (later conn).resuming? = some id →
      HalfResumed next.registry id) (alone : ∀ conn other id, conn ≠ other →
      (later conn).resuming? = some id → (later other).resuming? ≠ some id) :
    Listening next later := by
  refine ⟨numbered, ?_, resuming, alone⟩
  intro task spawned found
  rw [tcpTasks] at found
  rcases holds.accounted task spawned found with aborted | recorded | ⟨conn, held⟩
  · exact .inl (fires.kept _ aborted)
  · rcases fires.fired _ _ recorded with aborted | recorded
    · exact .inl aborted
    · exact .inr (.inl recorded)
  · rcases handed conn _ _ held with held | recorded
    · exact .inr (.inr ⟨conn, held⟩)
    · exact .inr (.inl recorded)

/-- One registration moves without starting a resume. -/
theorem carryOwn {later : Milestone} {conn : Connection}
    (numbered : Numbered next (update stages conn later))
    (tcpTasks : next.tcpTasks = server.tcpTasks) (fires : Fires server.registry next.registry)
    (handed : ∀ id handle, (stages conn).Holds id handle →
      later.Holds id handle ∨ Recorded next.registry id handle)
    (own : ∀ id, later.resuming? = some id → (stages conn).resuming? = some id)
    (stands : ∀ other id, (update stages conn later other).resuming? = some id →
      HalfResumed server.registry id → HalfResumed next.registry id) :
    Listening next (update stages conn later) := by
  have same : ∀ other id, (update stages conn later other).resuming? = some id →
      (stages other).resuming? = some id := milestone_update own
  refine holds.carry numbered tcpTasks fires ?_ ?_ ?_
  · intro other id handle held
    by_cases equal : other = conn
    · subst equal
      rw [update_self]
      exact handed id handle held
    · rw [update_of_ne equal]
      exact .inl held
  · intro other id resumes
    exact stands other id resumes (holds.resuming other id (same other id resumes))
  · intro first second id differs resumes resumes'
    exact holds.alone first second id differs (same first id resumes) (same second id resumes')

/-- The task that was spawned last belongs to the registration that spawned it. -/
theorem spawned {later : Milestone} (numbered : Numbered
      (({ server with tcpTasks := server.tcpTasks ++ [fresh] } : Server).setTask conn task)
      (update stages conn later))
    (idle : ¬ (stages conn).Unrecorded)
    (held : later.Holds fresh.tunnelId ⟨server.tcpTasks.length⟩)
    (same : later.resuming? = (stages conn).resuming?) : Listening
      (({ server with tcpTasks := server.tcpTasks ++ [fresh] } : Server).setTask conn task)
      (update stages conn later) := by
  have names : ∀ other id, (update stages conn later other).resuming? = some id →
      (stages other).resuming? = some id := milestone_update fun id own => same ▸ own
  refine ⟨numbered, ?_, ?_, ?_⟩
  · intro index spawned found
    dsimp only [setTask_tcpTasks] at found
    rw [List.getElem?_append] at found
    split at found
    · rcases holds.accounted index spawned found with aborted | recorded | ⟨other, earlier⟩
      · exact .inl aborted
      · exact .inr (.inl recorded)
      · refine .inr (.inr ⟨other, ?_⟩)
        rw [update_of_ne]
        · exact earlier
        · rintro rfl
          exact idle (Milestone.holds_unrecorded earlier)
    · rw [List.getElem?_singleton] at found
      split at found <;> cases found
      refine .inr (.inr ⟨conn, ?_⟩)
      rw [update_self]
      have last : index = server.tcpTasks.length := by omega
      rw [last]
      exact held
  · exact fun other id resumes => holds.resuming other id (names other id resumes)
  · intro first second id differs resumes resumes'
    exact holds.alone first second id differs (names first id resumes) (names second id resumes')

theorem resumed (idle : stages conn = .idle) (numbered : Numbered (({ server with
        registry :=
          { server.registry with
            tunnels := server.registry.tunnels.insert id
              { info with state := .live session.connection none } } } : Server).setTask
        conn task)
      (update stages conn (.ofResumed id info)))
    (found : server.registry.tunnels.lookup id = some info)
    (state : info.state = .dangling expiresAt) :
    Listening (({ server with
        registry :=
          { server.registry with
            tunnels := server.registry.tunnels.insert id
              { info with state := .live session.connection none } } } : Server).setTask
        conn task)
      (update stages conn (.ofResumed id info)) := by
  -- a dangling tunnel has no handle in the table and no registration half way through it
  have unrecorded : ∀ handle, ¬ Recorded server.registry id handle := by
    rintro handle ⟨other, attached, present, live⟩
    rw [found] at present
    cases present
    rw [state] at live
    cases live
  have elsewhere : ∀ other, (stages other).resuming? ≠ some id := by
    intro other resumes
    obtain ⟨entry, attached, present, _, live⟩ := holds.resuming other id resumes
    rw [found] at present
    cases present
    rw [state] at live
    cases live
  have own : ∀ asked, (Milestone.ofResumed id info).resuming? = some asked →
      asked = id ∧ info.kind.isTcp = true := by
    intro asked resumes
    unfold Milestone.ofResumed at resumes
    split at resumes
    · cases resumes
    · rename_i kind _
      cases resumes
      exact ⟨rfl, by rw [kind]; rfl⟩
    · cases resumes
  refine holds.carry numbered rfl (insert_fires rfl rfl unrecorded) ?_ ?_ ?_
  · intro other asked handle held
    rw [update_of_ne]
    · exact .inl held
    · rintro rfl
      rw [idle] at held
      cases held
  · intro other asked resumes
    by_cases equal : other = conn
    · subst equal
      rw [update_self] at resumes
      obtain ⟨rfl, tcp⟩ := own asked resumes
      exact ⟨_, _, insert_found rfl, tcp, rfl⟩
    · rw [update_of_ne equal] at resumes
      refine insert_halfResumed rfl ?_ (holds.resuming other asked resumes)
      rintro rfl
      exact elsewhere other resumes
  · intro first second asked differs resumes resumes'
    by_cases equal : first = conn
    · subst equal
      rw [update_self] at resumes
      rw [update_of_ne differs.symm] at resumes'
      obtain ⟨rfl, _⟩ := own asked resumes
      exact elsewhere second resumes'
    · rw [update_of_ne equal] at resumes
      by_cases equal' : second = conn
      · subst equal'
        rw [update_self] at resumes'
        obtain ⟨rfl, _⟩ := own asked resumes'
        exact elsewhere first resumes
      · rw [update_of_ne equal'] at resumes'
        exact holds.alone first second asked differs resumes resumes'

/-- The handle of a resumed tunnel reaches its table entry, which still waits for it. -/
theorem handled (before : stages conn = .respawned id port handle)
    (numbered : Numbered (({ server with
        registry := server.registry.setTcpAbort id handle } : Server).setTask conn task)
      (update stages conn (.obtained id (.tcp port)))) : Listening (({ server with
        registry := server.registry.setTcpAbort id handle } : Server).setTask conn task)
      (update stages conn (.obtained id (.tcp port))) := by
  have resumes : (stages conn).resuming? = some id := by rw [before]; rfl
  have half := holds.resuming conn id resumes
  obtain ⟨info, attached, effect⟩ := setTcpAbort_halfResumed half handle
  refine holds.carryOwn numbered rfl ?_ ?_ (by rintro _ ⟨⟩) ?_
  · dsimp only [setTask_registry]
    rw [effect]
    exact insert_fires rfl rfl half.unrecorded
  · intro asked held same
    rw [before] at same
    obtain ⟨rfl, rfl⟩ := same
    dsimp only [setTask_registry]
    rw [effect]
    exact .inr ⟨_, attached, insert_found rfl, rfl⟩
  · intro other asked names stood
    dsimp only [setTask_registry]
    rw [effect]
    refine insert_halfResumed rfl ?_ stood
    rintro rfl
    by_cases equal : other = conn
    · subst equal
      rw [update_self] at names
      cases names
    · rw [update_of_ne equal] at names
      exact holds.alone other conn asked equal names resumes

/-- A tunnel enters the table with the handle of its task. -/
theorem inserted {later : Milestone} (reserved : (stages conn).reserved? = some info.id)
    (handed : ∀ id handle, (stages conn).Holds id handle →
      id = info.id ∧ ∃ attached, info.state = .live attached (some handle))
    (settled : later.resuming? = none)
    (numbered : Numbered (({ server with registry := server.registry.insert info } :
        Server).setTask conn task) (update stages conn later)) :
    Listening (({ server with registry := server.registry.insert info } : Server).setTask
      conn task) (update stages conn later) := by
  have absent := holds.numbered.fresh conn info.id reserved
  refine holds.carryOwn numbered rfl ?_ ?_ ?_ ?_
  · refine insert_fires rfl rfl ?_
    rintro handle ⟨entry, attached, present, _⟩
    rw [absent] at present
    cases present
  · intro id handle held
    obtain ⟨rfl, attached, state⟩ := handed id handle held
    exact .inr ⟨info, attached, insert_found rfl, state⟩
  · intro id resumes
    rw [settled] at resumes
    cases resumes
  · intro other id _ half
    refine insert_halfResumed rfl ?_ half
    rintro rfl
    obtain ⟨entry, attached, present, _⟩ := half
    rw [absent] at present
    cases present

theorem advanced {frame : ClientFrame} {request : Call} {middle : Server}
    {later : Milestone}
    (advance : Advance server session frame request (stages conn) middle later)
    (numbered : Numbered (middle.setTask conn task) (update stages conn later))
    (spares : ∀ id, request = .remove id → ¬ HalfResumed server.registry id) :
    Listening (middle.setTask conn task) (update stages conn later) := by
  generalize before : stages conn = stage at advance
  have same : middle.registry = server.registry → middle.tcpTasks = server.tcpTasks →
      (∀ id handle, stage.Holds id handle → later.Holds id handle) →
      (∀ id, later.resuming? = some id → stage.resuming? = some id) →
      Listening (middle.setTask conn task) (update stages conn later) := by
    intro registry tcpTasks handed resumes
    refine holds.carryOwn numbered tcpTasks ?_ ?_ ?_ ?_
    · rw [setTask_registry, registry]
      exact .refl _
    · rw [before]
      exact fun id handle held => .inl (handed id handle held)
    · rwa [before]
    · rw [setTask_registry, registry]
      exact fun _ _ _ => id
  cases advance with
  | kept _ _ _ untouched =>
    exact same untouched.registry untouched.tcpTasks (fun _ _ => id) fun _ => id
  | dropped _ _ _ untouched recorded =>
    exact same untouched.registry untouched.tcpTasks
      (fun _ _ held => absurd (Milestone.holds_unrecorded held) recorded) (by rintro _ ⟨⟩)
  | counted =>
    refine same rfl rfl (by rintro _ _ ⟨⟩) ?_
    intro id
    unfold afterCount
    split
    · split <;> rintro ⟨⟩
    · rintro ⟨⟩
  | bound | located => exact same rfl rfl (by rintro _ _ ⟨⟩) (by rintro _ ⟨⟩)
  | spawned fresh =>
    exact holds.spawned numbered (by rw [before]; exact not_false) ⟨rfl, rfl⟩ (by rw [before]; rfl)
  | respawned fresh =>
    exact holds.spawned numbered (by rw [before]; exact not_false) ⟨rfl, rfl⟩ (by rw [before]; rfl)
  | granted _ _ _ _ _ may _ grants aborted =>
    have idle : ¬ (stages conn).Unrecorded := by
      rw [before]
      exact mayAllocate_recorded may
    refine holds.carryOwn numbered rfl ?_ ?_ ?_ ?_
    · refine ⟨fun handle mem => aborted ▸ mem, ?_⟩
      rintro id handle ⟨info, attached, found, state⟩
      exact .inr ⟨info, attached, grants.tunnels ▸ found, state⟩
    · exact fun id handle held => absurd (Milestone.holds_unrecorded held) idle
    · intro id resumes
      rw [Milestone.ofAlloc_resuming?] at resumes
      cases resumes
    · rintro _ id _ ⟨info, attached, found, tcp⟩
      exact ⟨info, attached, grants.tunnels ▸ found, tcp⟩
  | insertedHttp info =>
    refine holds.inserted (by rw [before]; rfl) ?_ rfl numbered
    rw [before]
    rintro _ _ ⟨⟩
  | insertedTcp info _ _ _ _ _ state =>
    refine holds.inserted (by rw [before]; rfl) ?_ rfl numbered
    rw [before]
    rintro _ _ ⟨rfl, rfl⟩
    exact ⟨rfl, _, state⟩
  | removed id =>
    refine holds.carryOwn numbered rfl (removeLocked_fires _ id) ?_ (by rintro _ ⟨⟩) ?_
    · rw [before]
      rintro _ _ ⟨⟩
    · rintro other asked _ ⟨info, attached, found, tcp⟩
      refine ⟨info, attached, ?_, tcp⟩
      dsimp only [setTask_registry, TunnelRegistry.remove]
      rw [lookup_removeLocked, if_neg]
      · exact found
      · rintro rfl
        exact spares asked rfl ⟨info, attached, found, tcp⟩
  | handled id port handle => exact holds.handled before numbered
  | resumed _ _ id info expiresAt _ found state =>
    exact holds.resumed before numbered found state

theorem step {event : Event} {later : Connection → Milestone}
    (moved : StageMove server stages event next later)
    (spares : takesHalfResumed server event = false) (room : next.allocated < 2 ^ 64 - 1) :
    Listening next later := by
  have numbered := holds.numbered.step moved room
  cases moved with
  | rested _ _ _ same stays =>
    have resumes : ∀ conn id, (later conn).resuming? = some id →
        (stages conn).resuming? = some id := by
      intro conn id resumes
      rcases stays conn with equal | ⟨_, idle⟩
      · rwa [equal] at resumes
      · rw [idle] at resumes
        cases resumes
    refine holds.carry numbered same.tcpTasks (same.registry ▸ .refl _) ?_ ?_ ?_
    · intro conn id handle held
      rcases stays conn with equal | ⟨settled, _⟩
      · exact .inl (by rwa [equal])
      · exact absurd (Milestone.holds_unrecorded held) (Milestone.settled_plain settled).2.2
    · intro conn id names
      rw [same.registry]
      exact holds.resuming conn id (resumes conn id names)
    · intro first second id differs names names'
      exact holds.alone first second id differs (resumes first id names)
        (resumes second id names')
  | reaped =>
    refine holds.carry numbered rfl (reapExpired_fires _ _) (fun _ _ _ => .inl) ?_ holds.alone
    intro conn id names
    obtain ⟨info, attached, found, tcp, state⟩ := holds.resuming conn id names
    exact ⟨info, attached, reapExpired_live _ _ found state, tcp, state⟩
  | advanced conn choice session frame request rest middle task later tasks running _ advance =>
    refine holds.advanced advance numbered ?_
    rintro id rfl ⟨info, attached, found, tcp, state⟩
    have flag := halfResumed_of_live tcp state
    simp only [takesHalfResumed, running, found, any_some, flag] at spares
    cases spares
  | cleaned conn session result ended =>
    refine holds.carry numbered rfl (disposeTunnels_fires server _ _) (fun _ _ _ => .inl) ?_
      holds.alone
    intro other id names
    obtain ⟨info, attached, found, tcp, state⟩ := holds.resuming other id names
    have flag := halfResumed_of_live tcp state
    simp only [takesHalfResumed, ended, List.any_eq_false] at spares
    have foreign : info.owner ≠ session.pubkey := by
      have spared := spares ⟨id, info⟩ (AList.mem_lookup_iff.mp found)
      simpa [flag] using spared
    exact ⟨info, attached, disposeTunnels_foreign _ found foreign, tcp, state⟩

end Listening

/-- The task of a session that is over has closed its connection. -/
def isOpen (server : Server) (connection : Connection) : Bool :=
  match server.tasks connection with
  | .absent | .closed => false
  | _ => true

/-- The listener task of the tunnel was not aborted and its connection is open. -/
def Serves (server : Server) (id : TunnelId) (task : Nat) : Prop :=
  ∃ spawned, server.tcpTasks[task]? = some spawned ∧ spawned.tunnelId = id ∧
    (⟨task⟩ : AbortHandle) ∉ server.registry.aborted ∧ isOpen server spawned.connection = true

structure OneListener (server : Server) : Prop where
  atMostOne : ∀ id first second, Serves server id first → Serves server id second → first = second
  none : ∀ id, (∀ info, server.registry.tunnels.lookup id = some info →
    info.state.isDangling = true) → ∀ task, ¬ Serves server id task

/-- Between registrations every task that runs is known to the table. -/
private theorem serves_recorded {server : Server} {stages : Connection → Milestone}
    (tracked : Tracked registration server stages) (listening : Listening server stages)
    (quiet : NoRegistration server) (id : TunnelId) (task : Nat)
    (serves : Serves server id task) : Recorded server.registry id ⟨task⟩ := by
  have settled : ∀ conn, ¬ (stages conn).Unrecorded := by
    intro conn unrecorded
    by_cases dispatching : ∃ session frame prog, server.tasks conn = .dispatching session frame prog
    · obtain ⟨session, frame, prog, running⟩ := dispatching
      have follows := tracked.follows conn session frame prog running
      have other := quiet conn session frame prog running
      cases prog with
      | ret => exact (Milestone.settled_plain follows).2.2 unrecorded
      | call =>
        rw [unrecorded_registers follows.1 unrecorded] at other
        cases other
    · have resting := tracked.resting conn fun session frame prog running =>
        dispatching ⟨session, frame, prog, running⟩
      exact (Milestone.settled_plain resting).2.2 unrecorded
  obtain ⟨spawned, found, rfl, running, _⟩ := serves
  rcases listening.accounted task spawned found with aborted | recorded | ⟨conn, held⟩
  · exact absurd aborted running
  · exact recorded
  · exact absurd (Milestone.holds_unrecorded held) (settled conn)

theorem one_listener_per_tunnel (events : List Event) (server : Server)
    (finished : run Server.step (Server.init config pool entries peers now) events = some server)
    (spares : Meets Server.step (fun state event => takesHalfResumed state event = false)
      (Server.init config pool entries peers now) events)
    (room : server.allocated < 2 ^ 64 - 1) (quiet : NoRegistration server) :
    OneListener server := by
  obtain ⟨stages, finished⟩ := registration.run_stages _ _ (fun _ => .idle) events finished
  obtain ⟨tracked, listening⟩ := tracked_run registration dispatch_progress
    (fun server stages => server.allocated < 2 ^ 64 - 1 → Listening server stages)
    (fun server stages event next tracked held spares stepped room =>
      (held (Nat.lt_of_le_of_lt (step_allocated_le stepped) room)).step
        (stage_move tracked stepped) spares room)
    (tracked_init registration trivial config pool entries peers now)
    (fun _ => listening_init config pool entries peers now)
    (registration.meets_stages _ _ _ _ spares) finished
  have recorded := serves_recorded tracked (listening room) quiet
  refine ⟨?_, ?_⟩
  · intro id first second serves serves'
    obtain ⟨info, connection, found, state⟩ := recorded id first serves
    obtain ⟨info', connection', found', state'⟩ := recorded id second serves'
    rw [found] at found'
    cases found'
    rw [state] at state'
    cases state'
    rfl
  · intro id gone task serves
    obtain ⟨info, connection, found, state⟩ := recorded id task serves
    have dangling := gone info found
    rw [state] at dangling
    cases dangling

section Example

/-- dave publishes a TCP tunnel and drops; its port stays bound for the grace period. -/
private def dropped : List Event :=
  signIn ⟨0⟩ dave ⟨.replicate 16 1⟩ ++
    [.frame ⟨0⟩ (.registerTunnel "db" (.tcp none) none false), .call ⟨0⟩ {},
      .call ⟨0⟩ { bound := .ok ⟨0, 7000⟩ }, .call ⟨0⟩ {}, .call ⟨0⟩ {}, .call ⟨0⟩ {},
      .call ⟨0⟩ {}, .readError ⟨0⟩, .cleanup ⟨0⟩]

/-- dave comes back on a second connection and asks for the tunnel, up to `try_resume`. -/
private def reattaching : List Event :=
  dropped ++ signIn ⟨1⟩ dave ⟨.replicate 16 2⟩ ++
    [.frame ⟨1⟩ (.registerTunnel "db" (.tcp none) (some ⟨.replicate 16 1⟩) false), .call ⟨1⟩ {}]

/-- `run_tcp_tunnel` is spawned, its handle passed on, TunnelRegistered written. -/
private def reattached : List Event := reattaching ++ List.replicate 3 (.call ⟨1⟩ {})

theorem one_listener_per_tunnel_resumed : Serves (final Server.step smallRelay reattached) ⟨1⟩ 1 ∧
    OneListener (final Server.step smallRelay reattached) := by
  have finished : run Server.step smallRelay reattached =
      some (final Server.step smallRelay reattached) := run_final rfl
  refine ⟨⟨_, rfl, rfl, by decide, rfl⟩, ?_⟩
  exact one_listener_per_tunnel domainConfig ⟨7000, 7001⟩ twoKeys [] 0 _ _ finished (by decide)
    (by decide) (noRegistration_of_alone [⟨0⟩, ⟨1⟩] finished (by decide) (by decide))

/-- Another session of the same key unregisters the tunnel between `try_resume` and the spawn. -/
private def unregisteredMeanwhile : List Event :=
  dropped ++ signIn ⟨1⟩ dave ⟨.replicate 16 2⟩ ++ signIn ⟨2⟩ dave ⟨.replicate 16 3⟩ ++
    [.frame ⟨1⟩ (.registerTunnel "db" (.tcp none) (some ⟨.replicate 16 1⟩) false), .call ⟨1⟩ {},
      .frame ⟨2⟩ (.unregisterTunnel ⟨1⟩), .call ⟨2⟩ {}] ++ List.replicate 3 (.call ⟨1⟩ {})

theorem resume_race_orphans_listener : run Server.step smallRelay unregisteredMeanwhile =
      some (final Server.step smallRelay unregisteredMeanwhile) ∧
    NoRegistration (final Server.step smallRelay unregisteredMeanwhile) ∧
    (final Server.step smallRelay unregisteredMeanwhile).registry.tunnels.lookup ⟨1⟩ = none ∧
    Serves (final Server.step smallRelay unregisteredMeanwhile) ⟨1⟩ 1 := by
  have finished : run Server.step smallRelay unregisteredMeanwhile =
      some (final Server.step smallRelay unregisteredMeanwhile) := run_final rfl
  exact ⟨finished, noRegistration_of_alone [⟨0⟩, ⟨1⟩, ⟨2⟩] finished (by decide) (by decide), rfl,
    ⟨_, rfl, rfl, by decide, rfl⟩⟩

end Example

end KrotRelay.Guarantees
