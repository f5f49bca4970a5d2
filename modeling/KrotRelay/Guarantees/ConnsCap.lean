import Mathlib.Data.Finset.Card
import KrotRelay.Guarantees.StageMoves

/-!
The `conns=` cap. `count_owned_by` and `insert` take the registry lock separately, with
peer lookups, a port bind and an allocation in between. The count that a registration saw
still bounds the table when it inserts, provided no other session of the key is between
its own check and its own insertion then.
-/
namespace KrotRelay.Guarantees
open Source Lib TunnelRegistry Server

variable {session : Session} {frame : ClientFrame} {request : Call} {middle next : Server}

section Count
variable (registry : TunnelRegistry) (owner : PubKey)

def ownedIds : Finset TunnelId :=
  ((registry.tunnels.entries.filter fun entry => entry.2.owner == owner).map Sigma.fst).toFinset

theorem mem_ownedIds (id : TunnelId) : id ∈ ownedIds registry owner ↔
      ∃ info, registry.tunnels.lookup id = some info ∧ info.owner = owner := by
  simp only [ownedIds, List.mem_toFinset, List.mem_map, List.mem_filter, beq_iff_eq]
  constructor
  · rintro ⟨⟨key, info⟩, ⟨mem, owned⟩, rfl⟩
    exact ⟨info, AList.mem_lookup_iff.mpr mem, owned⟩
  · rintro ⟨info, found, owned⟩
    exact ⟨⟨id, info⟩, ⟨AList.mem_lookup_iff.mp found, owned⟩, rfl⟩

theorem countOwnedBy_eq_card : registry.countOwnedBy owner = (ownedIds registry owner).card := by
  have distinct : ((registry.tunnels.entries.filter fun entry =>
      entry.2.owner == owner).map Sigma.fst).Nodup :=
    registry.tunnels.nodupKeys.sublist List.filter_sublist
  rw [ownedIds, List.toFinset_card_of_nodup distinct, List.length_map]
  rfl

variable {registry}

theorem countOwnedBy_descends {after : TunnelRegistry} (table : ∀ id, Descends registry after id) :
    after.countOwnedBy owner ≤ registry.countOwnedBy owner := by
  simp only [countOwnedBy_eq_card]
  refine Finset.card_le_card fun id mem => ?_
  obtain ⟨info, found, owned⟩ := (mem_ownedIds _ _ _).mp mem
  obtain ⟨old, present, _, same⟩ := table id info found
  exact (mem_ownedIds _ _ _).mpr ⟨old, present, same ▸ owned⟩

theorem countOwnedBy_insert (info : TunnelInfo) :
    (registry.insert info).countOwnedBy owner ≤ registry.countOwnedBy owner + 1 := by
  simp only [countOwnedBy_eq_card]
  refine (Finset.card_le_card fun id mem => ?_).trans (Finset.card_insert_le info.id _)
  obtain ⟨entry, found, owned⟩ := (mem_ownedIds _ _ _).mp mem
  rw [lookup_insert] at found
  split at found
  · exact Finset.mem_insert.mpr (.inl ‹_›)
  · exact Finset.mem_insert_of_mem ((mem_ownedIds _ _ _).mpr ⟨entry, found, owned⟩)

theorem countOwnedBy_insert_other (other : info.owner ≠ owner) :
    (registry.insert info).countOwnedBy owner ≤ registry.countOwnedBy owner := by
  simp only [countOwnedBy_eq_card]
  refine Finset.card_le_card fun id mem => ?_
  obtain ⟨entry, found, owned⟩ := (mem_ownedIds _ _ _).mp mem
  rw [lookup_insert] at found
  split at found
  · cases found
    exact absurd owned other
  · exact (mem_ownedIds _ _ _).mpr ⟨entry, found, owned⟩

end Count

/-- The calls of a registration between its `conns=` check and its insertion. -/
def pastCheck (frame : ClientFrame) (request : Call) : Bool :=
  isRegistration frame && match request with
    | .peersSnapshot | .findOwner _ _ | .allocateHttp _ | .allocateTcp _ | .bind _ | .localAddr _
    | .spawnTcpTunnel _ _ _ _ _ | .insert _ => true
    | _ => false

/-- The task is in a registration of the key, past the check and before the insertion. -/
def isPastCheck (owner : PubKey) : Task → Bool
  | .dispatching session frame (.call request _) =>
    session.pubkey == owner && pastCheck frame request
  | _ => false

/-- Every session of the key has `conns=cap`. -/
def AllCapped (owner : PubKey) (cap : UInt32) (server : Server) : Prop :=
  ∀ connection session, (server.tasks connection).session? = some session →
    session.pubkey = owner → session.entry.maxConns = some cap

/-- When a session of the key inserts, no other one is between check and insertion. -/
def InsertsAlone (owner : PubKey) (server : Server) : Event → Prop
  | .call connection _ => ∀ session frame info rest,
    server.tasks connection = .dispatching session frame (.call (.insert info) rest) →
    session.pubkey = owner →
    ∀ other, other ≠ connection → isPastCheck owner (server.tasks other) = false
  | _ => True

/-- The check was passed and the tunnel is not in the table yet. -/
def Milestone.Pending : Milestone → Prop
  | .cleared | .reservedHttp _ _ | .reservedTcp _ _ | .bound _ _ _ | .located _ _ _
  | .spawned _ _ _ _ => True
  | .idle | .reattached _ _ _ | .respawned _ _ _ | .obtained _ _ | .finished => False

theorem Milestone.pending_of_reserved {stage : Milestone} {id : TunnelId}
    (reserved : stage.reserved? = some id) : stage.Pending := by
  cases stage <;> trivial

/-- What a pending registration does next: go on, or reject. -/
theorem pending_request {stage : Milestone} (allowed : progressAllows session frame stage request)
    (pending : stage.Pending) (registers : isRegistration frame = true) :
    pastCheck frame request = true ∨
      ∃ code detail, request = .writeFrame (.tunnelRejected code detail) := by
  have idle : stage ≠ .idle := by
    rintro rfl
    exact pending
  cases request with
  | peersSnapshot | findOwner | allocateHttp | allocateTcp | bind | localAddr | spawnTcpTunnel
  | insert =>
    exact .inl (by simp [pastCheck, registers])
  | writeFrame sent =>
    cases sent with
    | tunnelRejected code detail => exact .inr ⟨code, detail, rfl⟩
    | tunnelRegistered =>
      obtain ⟨kind, rfl, _⟩ := allowed
      exact pending.elim
    | _ => exact absurd allowed idle
  | tryResume | countOwnedBy | remove => exact absurd allowed.1 idle
  | setTcpAbort id handle =>
    obtain ⟨_, port, rfl⟩ := allowed
    exact pending.elim
  | _ => exact allowed.elim

/-- A registration becomes pending by passing the check, or without one. -/
theorem Advance.pending {server : Server} {stage later : Milestone}
    (advance : Advance server session frame request stage middle later) (pending : later.Pending)
    (before : ¬ stage.Pending) : (middle = server ∧
      later = afterCount session (server.registry.countOwnedBy session.pubkey)) ∨
    session.entry.maxConns = none := by
  cases advance with
  | kept | removed => exact absurd pending before
  | counted => exact .inl ⟨rfl, rfl⟩
  | bound | located | spawned => exact absurd trivial before
  | granted _ _ alloc registry asks may =>
    rcases may with rfl | ⟨_, uncapped⟩
    · exact absurd trivial before
    · exact .inr uncapped
  | resumed =>
    unfold Milestone.ofResumed at pending
    split at pending <;> exact pending.elim
  | _ => exact pending.elim

theorem afterCount_pending {cap : UInt32} {live : Nat} (capped : session.entry.maxConns = some cap)
    (pending : (afterCount session live).Pending) : live < cap.toNat := by
  unfold afterCount at pending
  rw [capped] at pending
  dsimp only at pending
  split at pending
  · exact pending.elim
  · omega

structure Capped (owner : PubKey) (cap : UInt32) (server : Server)
    (stages : Connection → Milestone) : Prop where
  within : server.registry.countOwnedBy owner ≤ cap.toNat
  room : ∀ connection session frame request rest,
    server.tasks connection = .dispatching session frame (.call request rest) →
    session.pubkey = owner → pastCheck frame request = true → (stages connection).Pending →
    server.registry.countOwnedBy owner < cap.toNat

theorem capped_init (owner : PubKey) (cap : UInt32) (config : Config) (pool : PortPool)
    (entries : HashMap PubKey AuthorizedEntry) (peers : List String) (now : Instant) :
    Capped owner cap (Server.init config pool entries peers now) fun _ => .idle where
  within := Nat.zero_le _
  room := by
    intro conn session frame request rest task
    cases task

namespace Capped

variable {owner : PubKey} {cap : UInt32} {server : Server} {stages : Connection → Milestone}
  (holds : Capped owner cap server stages)
include holds

/-- Nothing of the key enters the table, and no registration becomes pending. -/
theorem carry {later : Connection → Milestone}
    (count : next.registry.countOwnedBy owner ≤ server.registry.countOwnedBy owner)
    (dispatches : ∀ conn session frame prog, next.tasks conn = .dispatching session frame prog →
      later conn = .idle ∨ (later conn = stages conn ∧
        server.tasks conn = .dispatching session frame prog)) : Capped owner cap next later where
  within := count.trans holds.within
  room := by
    intro conn session frame request rest task owned past pending
    rcases dispatches conn session frame _ task with idle | ⟨same, before⟩
    · rw [idle] at pending
      exact pending.elim
    · rw [same] at pending
      exact Nat.lt_of_le_of_lt count
        (holds.room conn session frame request rest before owned past pending)

theorem advanced {later : Milestone} {rest} (task : Task)
    (tasks : middle.tasks = server.tasks)
    (running : server.tasks conn = .dispatching session frame (.call request rest))
    (goesOn : ∀ session' frame' program', task = .dispatching session' frame' program' →
      session' = session ∧ frame' = frame)
    (allowed : progressAllows session frame (stages conn) request)
    (advance : Advance server session frame request (stages conn) middle later)
    (capped : session.pubkey = owner → session.entry.maxConns = some cap)
    (alone : ∀ info, request = .insert info → session.pubkey = owner →
      ∀ other, other ≠ conn → isPastCheck owner (server.tasks other) = false) :
    Capped owner cap (middle.setTask conn task) (Function.update stages conn later) := by
  -- an insertion for the key finds the room its check saw
  have roomy : ∀ info, request = .insert info → session.pubkey = owner →
      (stages conn).reserved? = some info.id →
      server.registry.countOwnedBy owner < cap.toNat := by
    rintro info rfl owned reserved
    exact holds.room conn session frame _ rest running owned
      (by simp [pastCheck, allowed.1]) (Milestone.pending_of_reserved reserved)
  have others : ∀ other session' frame' request' rest', other ≠ conn →
      server.tasks other = .dispatching session' frame' (.call request' rest') →
      session'.pubkey = owner → pastCheck frame' request' = true → (stages other).Pending →
      middle.registry.countOwnedBy owner < cap.toNat := by
    intro other session' frame' request' rest' differs dispatching owned past pending
    have before := holds.room other session' frame' request' rest' dispatching owned past pending
    rcases advance.table with table | ⟨info, asks, inserted, _, own, _⟩
    · exact Nat.lt_of_le_of_lt (countOwnedBy_descends owner table) before
    · rw [inserted]
      by_cases mine : session.pubkey = owner
      · have idle := alone info asks mine other differs
        rw [dispatching] at idle
        simp [isPastCheck, owned, past] at idle
      · exact Nat.lt_of_le_of_lt (countOwnedBy_insert_other owner (own ▸ mine)) before
  refine ⟨?_, ?_⟩
  · rw [setTask_registry]
    rcases advance.table with table | ⟨info, asks, inserted, reserved, own, _⟩
    · exact (countOwnedBy_descends owner table).trans holds.within
    · rw [inserted]
      by_cases mine : session.pubkey = owner
      · exact (countOwnedBy_insert owner info).trans (roomy info asks mine reserved)
      · exact (countOwnedBy_insert_other owner (own ▸ mine)).trans holds.within
  · intro other session' frame' request' rest' dispatching owned past pending
    rw [setTask_tasks, tasks] at dispatching
    rw [setTask_registry]
    by_cases same : other = conn
    · subst same
      rw [Function.update_self] at dispatching pending
      obtain ⟨rfl, rfl⟩ := goesOn session' frame' _ dispatching
      by_cases before : (stages other).Pending
      · have registers : isRegistration frame' = true := by
          simp only [pastCheck, Bool.and_eq_true] at past
          exact past.1
        rcases pending_request allowed before registers with earlier | ⟨code, detail, rfl⟩
        · have seen := holds.room other session' frame' request rest running owned earlier before
          rcases advance.table with table | ⟨info, _, _, _, _, rfl⟩
          · exact Nat.lt_of_le_of_lt (countOwnedBy_descends owner table) seen
          · exact pending.elim
        · rw [advance.rejected] at pending
          exact pending.elim
      · rcases advance.pending pending before with ⟨rfl, rfl⟩ | uncapped
        · rw [owned] at pending
          exact afterCount_pending (capped owned) pending
        · rw [capped owned] at uncapped
          cases uncapped
    · rw [Function.update_of_ne same] at dispatching pending
      exact others other session' frame' request' rest' same dispatching owned past pending

theorem step {event : Event} (tracked : Tracked registration server stages)
    (capped : AllCapped owner cap server) (alone : InsertsAlone owner server event)
    (stepped : server.step event = some next) :
    Capped owner cap next (registration.after server stages event) := by
  generalize registration.after server stages event = later, stage_move tracked stepped = moved
  cases moved with
  | rested _ _ _ same _ dispatches =>
    exact holds.carry (by rw [same.registry]) dispatches
  | reaped =>
    exact holds.carry (countOwnedBy_descends owner (reapExpired_descends _ _))
      fun _ _ _ _ dispatching => .inr ⟨rfl, dispatching⟩
  | advanced conn choice session frame request rest middle task later tasks running goesOn
      advance =>
    have here : (server.tasks conn).session? = some session := by rw [running]; rfl
    refine holds.advanced task tasks running goesOn
      (tracked.follows conn session frame _ running).1 advance
      (capped conn session here) ?_
    rintro info rfl owned
    exact alone session frame info rest running owned
  | cleaned conn session result ended =>
    refine holds.carry (countOwnedBy_descends owner (disposeTunnels_descends server _ _)) ?_
    intro other session' frame prog dispatching
    rw [setTask_tasks] at dispatching
    by_cases same : other = conn
    · subst same
      rw [Function.update_self] at dispatching
      cases dispatching
    · rw [Function.update_of_ne same] at dispatching
      exact .inr ⟨rfl, dispatching⟩

end Capped

theorem conns_cap_kept (owner : PubKey) (cap : UInt32) (config : Config) (pool : PortPool)
    (entries : HashMap PubKey AuthorizedEntry) (peers : List String) (now : Instant)
    (events : List Event) (server : Server)
    (finished : run Server.step (Server.init config pool entries peers now) events = some server)
    (capped : Meets Server.step (fun state _ => AllCapped owner cap state)
      (Server.init config pool entries peers now) events)
    (alone : Meets Server.step (InsertsAlone owner)
      (Server.init config pool entries peers now) events) :
    server.registry.countOwnedBy owner ≤ cap.toNat := by
  obtain ⟨stages, finished⟩ := registration.run_stages _ _ (fun _ => .idle) events finished
  obtain ⟨_, held⟩ := tracked_run registration dispatch_progress (Capped owner cap)
    (fun server stages event next tracked held meets stepped =>
      held.step tracked meets.1 meets.2 stepped)
    (tracked_init registration trivial config pool entries peers now)
    (capped_init owner cap config pool entries peers now)
    (registration.meets_stages _ _ _ _ (meets_and capped alone)) finished
  exact held.within

section Example

private def oneTunnel : AuthorizedEntry := { anyHttp with maxConns := some 1 }

private def cappedRelay : Server :=
  Server.init domainConfig ⟨7000, 7001⟩ (AList.insert dave oneTunnel ∅) [] 0

/-- One session publishes, and its second registration is rejected. -/
private def inTurn : List Event :=
  signIn ⟨0⟩ dave ⟨.replicate 16 1⟩ ++
    .frame ⟨0⟩ (.registerTunnel "shop" .http none false) :: List.replicate 5 (.call ⟨0⟩ {}) ++
    .frame ⟨0⟩ (.registerTunnel "blog" .http none false) :: List.replicate 2 (.call ⟨0⟩ {})

/-- On a relay with one connection nothing happens anywhere else. -/
private theorem inTurn_alone :
    Meets Server.step (fun state _ => AllCapped dave 1 state) cappedRelay inTurn ∧
    Meets Server.step (InsertsAlone dave) cappedRelay inTurn := by
  have elsewhere : ∀ (state : Server) (event : Event) (next : Server),
      (∀ other : Connection, other ≠ ⟨0⟩ → state.tasks other = .absent) →
      event.connection? = some ⟨0⟩ → state.step event = some next →
      ∀ other : Connection, other ≠ ⟨0⟩ → next.tasks other = .absent := by
    intro state event next absent here step other differs
    rw [step_tasks_other step other]
    · exact absent other differs
    · rw [here]
      exact fun same => differs (Option.some.inj same).symm
  have checked : Meets Server.step (fun state event => event.connection? = some ⟨0⟩ ∧
      ((state.tasks ⟨0⟩).session?.all fun session =>
        session.entry.maxConns == some 1) = true) cappedRelay inTurn := by
    decide
  constructor
  · refine meets_of_invariant _ _ _ _ (fun state event next absent check =>
      elsewhere state event next absent check.1) ?_ _ _ (fun _ _ => rfl) checked
    intro state event absent check conn session running _
    by_cases here : conn = ⟨0⟩
    · subst here
      have sound := check.2
      rw [running, Option.all_some] at sound
      exact beq_iff_eq.mp sound
    · rw [absent conn here] at running
      cases running
  · refine meets_of_invariant _ _ _ _ (fun state event next absent check =>
      elsewhere state event next absent check.1) ?_ _ _ (fun _ _ => rfl) checked
    intro state event absent check
    cases event with
    | call conn =>
      intro session frame info rest _ _ other differs
      have here : conn = ⟨0⟩ := Option.some.inj check.1
      rw [absent other (here ▸ differs)]
      rfl
    | _ => trivial

theorem conns_cap_kept_one : (final Server.step cappedRelay inTurn).registry.countOwnedBy dave = 1 ∧
    (final Server.step cappedRelay inTurn).registry.countOwnedBy dave ≤ (1 : UInt32).toNat :=
  ⟨by decide, conns_cap_kept dave 1 domainConfig ⟨7000, 7001⟩ (AList.insert dave oneTunnel ∅) [] 0
    inTurn _ (run_final rfl) inTurn_alone.1 inTurn_alone.2⟩

/-- Two sessions of dave register at the same time; both checks come before both insertions. -/
private def bothAtOnce : List Event :=
  signIn ⟨0⟩ dave ⟨.replicate 16 1⟩ ++ signIn ⟨1⟩ dave ⟨.replicate 16 2⟩ ++
    [.frame ⟨0⟩ (.registerTunnel "shop" .http none false), .call ⟨0⟩ {},
      .frame ⟨1⟩ (.registerTunnel "blog" .http none false), .call ⟨1⟩ {}] ++
    List.replicate 4 (.call ⟨0⟩ {}) ++ List.replicate 4 (.call ⟨1⟩ {})

theorem concurrent_registrations_exceed_cap :
    run Server.step cappedRelay bothAtOnce = some (final Server.step cappedRelay bothAtOnce) ∧
    (∀ connection ∈ ([⟨0⟩, ⟨1⟩] : List Connection), ∃ session,
      (final Server.step cappedRelay bothAtOnce).tasks connection = .running session ∧
      session.pubkey = dave ∧ session.entry.maxConns = some 1) ∧
    (final Server.step cappedRelay bothAtOnce).registry.countOwnedBy dave = 2 := by
  refine ⟨run_final rfl, ?_, by decide⟩
  simp only [List.forall_mem_cons]
  exact ⟨⟨_, rfl, rfl, rfl⟩, ⟨_, rfl, rfl, rfl⟩, nofun⟩

end Example

end KrotRelay.Guarantees
