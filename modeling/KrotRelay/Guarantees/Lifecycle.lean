import KrotRelay.Guarantees.Representation

/-!
# The life of a tunnel id

Over any run of registry operations an id is issued once, becomes Live once, alternates
between Dangling and Live, and is gone for good afterwards. `Phase` reads the position
of an id off a state; the step lemma `phase_step` is the whole transition diagram.
-/
namespace KrotRelay.Guarantees
open KrotRelay.Source List TunnelRegistry

variable {id : TunnelId} {info : TunnelInfo}

inductive Phase where
  /-- not issued yet -/
  | unborn
  /-- allocated and not yet inserted -/
  | pending
  | live
  | dangling (expiresAt : Instant)
  /-- issued, and neither in the table nor in flight -/
  | gone
  deriving DecidableEq

def statePhase : TunnelState → Phase
  | .live _ _ => .live
  | .dangling expiresAt => .dangling expiresAt

def phase (ledger : Ledger) (id : TunnelId) : Phase :=
  match ledger.registry.tunnels.lookup id with
  | some info => statePhase info.state
  | none =>
    if id ∈ ledger.inFlight.map Alloc.id then .pending
    else if ledger.registry.nextId ≤ id.val then .unborn
    else .gone

/-- One step of the diagram. Nothing leaves `gone`, nothing enters `dangling` except
from `live`, and a dangling deadline is never replaced by another. -/
inductive Phase.Next : Phase → Phase → Prop where
  | stay (here) : Next here here
  | issue : Next .unborn .pending
  | publish : Next .pending .live
  | giveUp : Next .pending .gone
  | drop (expiresAt) : Next .live (.dangling expiresAt)
  | resume (expiresAt) : Next (.dangling expiresAt) .live
  | close : Next .live .gone
  | expire (expiresAt) : Next (.dangling expiresAt) .gone

/-- What never changes while a tunnel lives. -/
def SameIdentity (old new : TunnelInfo) : Prop :=
  new.id = old.id ∧ new.owner = old.owner ∧ new.sessionId = old.sessionId ∧ new.kind = old.kind ∧
    new.tcpListener = old.tcpListener ∧ new.rate = old.rate ∧ new.inspect = old.inspect

theorem SameIdentity.refl (info : TunnelInfo) : SameIdentity info info :=
  ⟨rfl, rfl, rfl, rfl, rfl, rfl, rfl⟩

section Steps
variable {ledger next : Ledger}

theorem phase_of_some (found : ledger.registry.tunnels.lookup id = some info) :
    phase ledger id = statePhase info.state := by
  simp only [phase, found]

theorem phase_flight (holds : Representation ledger)
    (mem : alloc ∈ ledger.inFlight) : phase ledger alloc.id = .pending := by
  have listed : alloc.id ∈ ledger.inFlight.map Alloc.id := mem_map_of_mem mem
  simp only [phase, holds.outside alloc (.inl mem), if_pos listed]

/-- An id that is in the table is not in flight. -/
theorem not_flight (holds : Representation ledger)
    (found : ledger.registry.tunnels.lookup id = some info) :
    id ∉ ledger.inFlight.map Alloc.id := by
  intro listed
  obtain ⟨alloc, mem, rfl⟩ := mem_map.mp listed
  have absent := holds.outside alloc (.inl mem)
  rw [found] at absent
  cases absent

/-- An event that leaves the counter and the in-flight list alone moves the id as its
table entry moves. -/
theorem phase_change (holds : Representation ledger)
    (notInsert : ∀ alloc info, event ≠ .insert alloc info)
    (change : Ledger.Change ledger.now id event (ledger.registry.tunnels.lookup id)
      (next.registry.tunnels.lookup id))
    (flights : next.inFlight = ledger.inFlight)
    (counter : next.registry.nextId = ledger.registry.nextId) :
    (phase ledger id).Next (phase next id) := by
  have removal : ∀ info, ledger.registry.tunnels.lookup id = some info →
      next.registry.tunnels.lookup id = none → phase next id = .gone := by
    intro info found absent
    have below := holds.issued id info.kind (.table info found rfl)
    simp only [phase, absent, flights, counter, if_neg (not_flight holds found),
      if_neg (Nat.not_le.mpr below)]
  generalize before : ledger.registry.tunnels.lookup id = old at change
  generalize after : next.registry.tunnels.lookup id = new at change
  cases change with
  | keep =>
    have same : phase next id = phase ledger id := by
      simp only [phase, before, after, flights, counter]
    rw [same]
    exact .stay _
  | inserted alloc info => exact absurd rfl (notInsert alloc info)
  | removed info =>
    rw [removal info before after, phase_of_some before]
    cases info.state with
    | live => exact .close
    | dangling expiresAt => exact .expire expiresAt
  | swept info =>
    rw [removal info before after, phase_of_some before]
    cases info.state with
    | live => exact .close
    | dangling expiresAt => exact .expire expiresAt
  | dangled _ _ _ _ wasLive =>
    rw [phase_of_some before, phase_of_some after, wasLive]
    exact .drop _
  | reaped info expiresAt wasDangling =>
    rw [removal info before after, phase_of_some before, wasDangling]
    exact .expire expiresAt
  | resumed _ expiresAt _ _ _ wasDangling =>
    rw [phase_of_some before, phase_of_some after, wasDangling]
    exact .resume expiresAt
  | handled _ _ _ _ wasLive =>
    rw [phase_of_some before, phase_of_some after, wasLive]
    exact .stay _

theorem phase_granted (holds : Representation ledger)
    (grants : ledger.registry.Grants registry alloc) (room : ledger.allocated + 1 < 2 ^ 64 - 1)
    (id : TunnelId) : (phase ledger id).Next (phase (ledger.granted registry alloc) id) := by
  have advanced : registry.nextId = ledger.registry.nextId + 1 := by
    have counter := holds.counter
    rw [grants.nextId, if_pos (by omega)]
  cases found : ledger.registry.tunnels.lookup id with
  | some info =>
    have later : (ledger.granted registry alloc).registry.tunnels.lookup id = some info := by
      rw [Ledger.granted, grants.tunnels]
      exact found
    rw [phase_of_some found, phase_of_some later]
    exact .stay _
  | none =>
    simp only [phase, Ledger.granted, grants.tunnels, found, map_cons, mem_cons, advanced]
    by_cases own : id = alloc.id
    · have unlisted : id ∉ ledger.inFlight.map Alloc.id := by
        intro listed
        obtain ⟨other, mem, same⟩ := mem_map.mp listed
        have below := holds.issued other.id other.kind (.flight mem)
        rw [same, own, grants.id] at below
        exact Nat.lt_irrefl _ below
      have high : ledger.registry.nextId ≤ id.val := by rw [own, grants.id]
      rw [if_neg unlisted, if_pos high, if_pos (.inl own)]
      exact .issue
    · by_cases listed : id ∈ ledger.inFlight.map Alloc.id
      · rw [if_pos listed, if_pos (.inr listed)]
        exact .stay _
      · rw [if_neg listed, if_neg (not_or.mpr ⟨own, listed⟩)]
        have other : id.val ≠ ledger.registry.nextId := by
          intro same
          apply own
          rw [grants.id, ← same]
        by_cases high : ledger.registry.nextId ≤ id.val
        · rw [if_pos high, if_pos (by omega)]
          exact .stay _
        · rw [if_neg high, if_neg (by omega)]
          exact .stay _

/-- Ids other than the erased allocation's are in flight as before. -/
theorem mem_map_erase (other : id ≠ alloc.id) :
    id ∈ (ledger.inFlight.erase alloc).map Alloc.id ↔ id ∈ ledger.inFlight.map Alloc.id := by
  constructor
  · intro listed
    obtain ⟨found, mem, same⟩ := mem_map.mp listed
    exact mem_map.mpr ⟨found, mem_of_mem_erase mem, same⟩
  · intro listed
    obtain ⟨found, mem, rfl⟩ := mem_map.mp listed
    refine mem_map.mpr ⟨found, (mem_erase_of_ne ?_).mpr mem, rfl⟩
    rintro rfl
    exact other rfl

theorem phase_insert (holds : Representation ledger)
    (mem : alloc ∈ ledger.inFlight) (fits : Ledger.Fits alloc info = true) (id : TunnelId) :
    (phase ledger id).Next (phase { ledger with
      registry := ledger.registry.insert info
      inFlight := ledger.inFlight.erase alloc } id) := by
  obtain ⟨sameId, _, _⟩ := holds.fits_facts alloc info mem fits
  by_cases own : id = alloc.id
  · subst own
    have published : (ledger.registry.insert info).tunnels.lookup alloc.id = some info := by
      rw [lookup_insert, sameId, if_pos rfl]
    have after : phase { ledger with
        registry := ledger.registry.insert info
        inFlight := ledger.inFlight.erase alloc } alloc.id = statePhase info.state :=
      phase_of_some published
    rw [phase_flight holds mem, after]
    cases state : info.state with
    | live => exact .publish
    | dangling => simp [Ledger.Fits, state, TunnelState.isDangling] at fits
  · have unchanged : (ledger.registry.insert info).tunnels.lookup id =
        ledger.registry.tunnels.lookup id := by
      rw [lookup_insert, sameId, if_neg own]
    have same : phase { ledger with
        registry := ledger.registry.insert info
        inFlight := ledger.inFlight.erase alloc } id = phase ledger id := by
      simp only [phase, unchanged, mem_map_erase own]
      rfl
    rw [same]
    exact .stay _

theorem phase_abandon (holds : Representation ledger)
    (mem : alloc ∈ ledger.inFlight) (id : TunnelId) : (phase ledger id).Next (phase { ledger with
      inFlight := ledger.inFlight.erase alloc
      abandoned := alloc :: ledger.abandoned } id) := by
  by_cases own : id = alloc.id
  · subst own
    have unlisted : alloc.id ∉ (ledger.inFlight.erase alloc).map Alloc.id := by
      intro listed
      obtain ⟨other, stays, same⟩ := mem_map.mp listed
      obtain ⟨different, stays⟩ := holds.distinct.mem_erase_iff.mp stays
      have kinds := holds.idUnique alloc.id other.kind alloc.kind (same ▸ .flight stays)
        (.flight mem)
      exact different (by cases other; cases alloc; simp_all)
    have below := holds.issued alloc.id alloc.kind (.flight mem)
    rw [phase_flight holds mem]
    simp only [phase, holds.outside alloc (.inl mem), if_neg unlisted,
      if_neg (Nat.not_le.mpr below)]
    exact .giveUp
  · have same : phase { ledger with
        inFlight := ledger.inFlight.erase alloc
        abandoned := alloc :: ledger.abandoned } id = phase ledger id := by
      simp only [phase, mem_map_erase own]
    rw [same]
    exact .stay _

/-- The diagram is exact: every event moves every id along one of its arrows. -/
theorem phase_step (holds : Representation ledger)
    (stepped : ledger.step event = some next) (room : next.allocated < 2 ^ 64 - 1)
    (id : TunnelId) : (phase ledger id).Next (phase next id) := by
  have change := Ledger.step_change stepped id
  cases event with
  | allocateTcp allowlist =>
    simp only [Ledger.step] at stepped
    split at stepped <;> rename_i result <;> cases stepped
    · rw [allocateTcp_error _ _ _ _ result]
      exact .stay _
    · exact phase_granted holds (allocateTcp_ok _ _ _ _ _ result) room id
  | allocateHttp label =>
    simp only [Ledger.step] at stepped
    split at stepped <;> rename_i result <;> cases stepped
    · rw [allocateHttp_error _ _ _ _ result]
      exact .stay _
    · exact phase_granted holds (allocateHttp_ok _ _ _ _ result) room id
  | insert alloc info =>
    simp only [Ledger.step] at stepped
    split at stepped <;> rename_i guard <;> cases stepped
    exact phase_insert holds guard.1 guard.2 id
  | abandon alloc =>
    simp only [Ledger.step] at stepped
    split at stepped <;> rename_i mem <;> cases stepped
    exact phase_abandon holds mem id
  | tick =>
    cases stepped
    exact phase_change holds (by simp) change rfl rfl
  | remove =>
    cases stepped
    exact phase_change holds (by simp) change rfl (removeLocked_nextId _ _)
  | removeAllOwnedBy | reapExpired =>
    cases stepped
    exact phase_change holds (by simp) change rfl (sweep_nextId _ _)
  | markDangling =>
    cases stepped
    exact phase_change holds (by simp) change rfl (markDangling_sameIndex _ _ _ _).nextId
  | tryResume =>
    cases stepped
    exact phase_change holds (by simp) change rfl (tryResume_sameIndex _ _ _ _ _ _).nextId
  | setTcpAbort =>
    cases stepped
    exact phase_change holds (by simp) change rfl (setTcpAbort_sameIndex _ _ _).nextId

theorem phase_gone_lookup (gone : phase ledger id = .gone) :
    ledger.registry.tunnels.lookup id = none := by
  cases found : ledger.registry.tunnels.lookup id with
  | none => rfl
  | some info =>
    rw [phase_of_some found] at gone
    cases state : info.state <;> simp [statePhase, state] at gone

theorem phase_gone_below (gone : phase ledger id = .gone) : id.val < ledger.registry.nextId := by
  have absent := phase_gone_lookup gone
  simp only [phase, absent] at gone
  split at gone
  · cases gone
  · split at gone
    · cases gone
    · exact Nat.lt_of_not_le ‹_›

/-- A table entry keeps its identity over one step, or is gone after it. -/
theorem identity_step (holds : Representation ledger) {event : Ledger.Event}
    (stepped : ledger.step event = some next) (room : next.allocated < 2 ^ 64 - 1)
    {id : TunnelId} {old : TunnelInfo} (found : ledger.registry.tunnels.lookup id = some old) :
    (∃ new, next.registry.tunnels.lookup id = some new ∧ SameIdentity old new) ∨
      phase next id = .gone := by
  have moved := phase_step holds stepped room id
  have change := Ledger.step_change stepped id
  have vanished : next.registry.tunnels.lookup id = none → phase next id = .gone := by
    intro absent
    rw [phase_of_some found] at moved
    cases state : old.state <;> rw [state] at moved <;>
      generalize later : phase next id = after at moved <;>
      cases moved <;> first
        | rfl
        | · simp only [phase, absent, statePhase] at later
            split at later
            · cases later
            · split at later <;> cases later
  generalize before : ledger.registry.tunnels.lookup id = entry at change
  generalize after : next.registry.tunnels.lookup id = result at change
  rw [found] at before
  cases change with
  | keep => exact .inl ⟨old, before.symm, .refl old⟩
  | inserted alloc info _ own fits =>
    -- an allocation in flight never has a table entry under its id
    simp only [Ledger.step] at stepped
    split at stepped <;> rename_i guard <;> cases stepped
    have sameId := (holds.fits_facts alloc info guard.1 guard.2).1
    have absent := holds.outside alloc (.inl guard.1)
    rw [← sameId, own, found] at absent
    cases absent
  | removed | swept | reaped => exact .inr (vanished after)
  | dangled | resumed | handled =>
    cases before
    exact .inl ⟨_, rfl, .refl old⟩

end Steps

/-- No operation will ever bring the id back or hand it out. -/
structure Forgotten (ledger : Ledger) (id : TunnelId) : Prop where
  absent : ledger.registry.tunnels.lookup id = none
  unrouted : ∀ label resolved, ledger.registry.resolveLabel label = some resolved → resolved.id ≠ id
  unresumed : ∀ order label sessionId pubkey connection tunnelId info inspect,
    (ledger.registry.tryResume order label sessionId pubkey connection).1 =
      .reattached tunnelId info inspect → tunnelId ≠ id
  tcpFresh : ∀ allowlist issued port,
    (ledger.registry.allocateTcp allowlist).1 = .ok (issued, port) → issued ≠ id
  httpFresh : ∀ label issued, (ledger.registry.allocateHttp label).1 = .ok issued → issued ≠ id

theorem reportResumed_id (id tunnelId : TunnelId) (info : TunnelInfo) (resumed : ResumedInfo)
    (inspect : Bool)
    (reported : TunnelRegistry.reportResumed id info = .reattached tunnelId resumed inspect) :
    tunnelId = id := by
  unfold TunnelRegistry.reportResumed at reported
  split at reported
  · cases reported
    rfl
  · split at reported <;> cases reported
    rfl

theorem forgotten_of_gone (holds : Representation ledger)
    (gone : phase ledger id = .gone) : Forgotten ledger id := by
  have absent := phase_gone_lookup gone
  have below := phase_gone_below gone
  refine ⟨absent, ?_, ?_, ?_, ?_⟩
  · rintro label resolved answer rfl
    obtain ⟨info, _, found, _⟩ := (holds.resolveLabel_iff label resolved).mp answer
    rw [absent] at found
    cases found
  · rintro order label sessionId pubkey conn tunnelId info inspect answer rfl
    rcases ledger.registry.tryResume_cases order label sessionId pubkey conn with
      same | same | ⟨target, entry, expiresAt, found, _, _, _, effect⟩
    · rw [same] at answer
      cases answer
    · rw [same] at answer
      cases answer
    · rw [effect] at answer
      have equal := reportResumed_id target tunnelId entry info inspect answer
      rw [← equal, absent] at found
      cases found
  · rintro allowlist issued port granted rfl
    generalize result : ledger.registry.allocateTcp allowlist = outcome at granted
    obtain ⟨answer, after⟩ := outcome
    cases granted
    have fresh := (allocateTcp_ok _ _ _ _ _ result).id
    rw [show issued = ⟨ledger.registry.nextId⟩ from fresh] at below
    exact Nat.lt_irrefl _ below
  · rintro label issued granted rfl
    generalize result : ledger.registry.allocateHttp label = outcome at granted
    obtain ⟨answer, after⟩ := outcome
    cases granted
    have fresh := (allocateHttp_ok _ _ _ _ result).id
    rw [show issued = ⟨ledger.registry.nextId⟩ from fresh] at below
    exact Nat.lt_irrefl _ below

theorem gone_step {ledger next : Ledger} (holds : Representation ledger)
    (stepped : ledger.step event = some next) (room : next.allocated < 2 ^ 64 - 1)
    (gone : phase ledger id = .gone) : phase next id = .gone := by
  have moved := phase_step holds stepped room id
  rw [gone] at moved
  generalize phase next id = after at moved
  cases moved
  rfl

theorem run_allocated_le {first last : Ledger}
    (finished : Lib.run Ledger.step first events = some last) :
    first.allocated ≤ last.allocated := by
  refine Lib.run_invariant (fun state => first.allocated ≤ state.allocated) ?_
    (Nat.le_refl _) finished
  intro state event next bound stepped
  exact Nat.le_trans bound (Representation.allocated_mono next event stepped)

section Runs
variable {first last : Ledger} (events : List Ledger.Event)
  (finished : Lib.run Ledger.step first events = some last)
  (room : last.allocated < 2 ^ 64 - 1) (id : TunnelId)
include finished room

theorem phases_chain (holds : Representation first) :
    (Lib.visited Ledger.step first events).IsChain fun state next =>
      (phase state id).Next (phase next id) := by
  induction events generalizing first with
  | nil => exact List.IsChain.singleton _
  | cons event rest ih =>
    obtain ⟨next, stepped, finished⟩ := (Lib.run_cons _ _ _ _ _).mp finished
    have bound := run_allocated_le finished
    have roomNext : next.allocated < 2 ^ 64 - 1 := by omega
    have tail := ih finished (holds.step next event stepped roomNext)
    rw [Lib.visited_cons _ _ _ _ _ stepped]
    obtain ⟨more, shape⟩ := Lib.visited_head Ledger.step next rest
    rw [shape] at tail ⊢
    exact List.IsChain.cons_cons (phase_step holds stepped roomNext id) tail

theorem identity_run (holds : Representation first) (old : TunnelInfo)
    (found : first.registry.tunnels.lookup id = some old) :
    (∃ new, last.registry.tunnels.lookup id = some new ∧ SameIdentity old new) ∨
      phase last id = .gone := by
  refine (holds.run_invariant (fun state =>
    (∃ new, state.registry.tunnels.lookup id = some new ∧ SameIdentity old new) ∨
      phase state id = .gone) ?_ finished room (.inl ⟨old, found, .refl old⟩)).2
  rintro state event next holds stepped room (⟨new, present, same⟩ | gone)
  · rcases identity_step holds stepped room present with ⟨newer, present, later⟩ | gone
    · refine .inl ⟨newer, present, ?_⟩
      obtain ⟨h1, h2, h3, h4, h5, h6, h7⟩ := same
      obtain ⟨g1, g2, g3, g4, g5, g6, g7⟩ := later
      exact ⟨g1.trans h1, g2.trans h2, g3.trans h3, g4.trans h4, g5.trans h5, g6.trans h6,
        g7.trans h7⟩
    · exact .inr gone
  · exact .inr (gone_step holds stepped room gone)

theorem gone_run (holds : Representation first) (gone : phase first id = .gone) :
    phase last id = .gone :=
  (holds.run_invariant (fun state => phase state id = .gone)
    (fun _ _ _ holds stepped room gone => gone_step holds stepped room gone)
    finished room gone).2

/-- While the id dangles in every state of the run, its deadline stays the first one. -/
theorem lease_run (holds : Representation first) (start : phase first id = .dangling deadline)
    (dangles : ∀ state ∈ Lib.visited Ledger.step first events,
      ∃ expiresAt, phase state id = .dangling expiresAt) : phase last id = .dangling deadline := by
  induction events generalizing first with
  | nil =>
    simp only [Lib.run_nil, Option.some.injEq] at finished
    exact finished ▸ start
  | cons event rest ih =>
    obtain ⟨next, stepped, finished⟩ := (Lib.run_cons _ _ _ _ _).mp finished
    have bound := run_allocated_le finished
    have roomNext : next.allocated < 2 ^ 64 - 1 := by omega
    rw [Lib.visited_cons _ _ _ _ _ stepped] at dangles
    have tail := fun state mem => dangles state (mem_cons_of_mem _ mem)
    refine ih finished (holds.step next event stepped roomNext) ?_ tail
    obtain ⟨more, shape⟩ := Lib.visited_head Ledger.step next rest
    obtain ⟨expiresAt, here⟩ := tail next (by rw [shape]; exact mem_cons_self)
    have moved := phase_step holds stepped roomNext id
    rw [start, here] at moved
    cases moved
    exact here

end Runs

/-- The life of one id between two states of a run. -/
structure Lifecycle (id : TunnelId) (first last : Ledger) (states : List Ledger) : Prop where
  /-- every step follows the diagram -/
  path : states.IsChain fun state next => (phase state id).Next (phase next id)
  /-- owner, session, kind, listener, rate state and inspect flag are fixed for life -/
  identity : ∀ old new, first.registry.tunnels.lookup id = some old →
    last.registry.tunnels.lookup id = some new → SameIdentity old new
  /-- a tunnel that left the table is gone -/
  removed : ∀ old, first.registry.tunnels.lookup id = some old →
    last.registry.tunnels.lookup id = none → phase last id = .gone
  /-- and an id that is gone is forgotten ever after -/
  forgotten : phase first id = .gone → Forgotten last id
  /-- repeated disconnects do not extend a lease -/
  lease : ∀ deadline, phase first id = .dangling deadline →
    (∀ state ∈ states, ∃ expiresAt, phase state id = .dangling expiresAt) →
    phase last id = .dangling deadline

theorem tunnel_lifecycle (pool : PortPool) (nonzero : 0 ∉ pool.ports) (first last : Ledger)
    (events : List Ledger.Event) (reached : first.Reachable pool)
    (finished : Lib.run Ledger.step first events = some last)
    (room : last.allocated < 2 ^ 64 - 1) (id : TunnelId) :
    Lifecycle id first last (Lib.visited Ledger.step first events) := by
  have bound := run_allocated_le finished
  have holds := Representation.reachable pool nonzero reached (by omega)
  have holdsLast := (holds.run_invariant (fun _ => True) (fun _ _ _ _ _ _ _ => trivial)
    finished room trivial).1
  refine ⟨phases_chain events finished room id holds, ?_, ?_, ?_, ?_⟩
  · intro old new found present
    rcases identity_run events finished room id holds old found with ⟨kept, stored, same⟩ | gone
    · rw [present] at stored
      cases stored
      exact same
    · rw [phase_gone_lookup gone] at present
      cases present
  · intro old found absent
    rcases identity_run events finished room id holds old found with ⟨kept, stored, _⟩ | gone
    · rw [absent] at stored
      cases stored
    · exact gone
  · intro gone
    exact forgotten_of_gone holdsLast (gone_run events finished room id holds gone)
  · intro deadline start dangles
    exact lease_run events finished room id holds start dangles

section Example

private def carol : PubKey := ⟨.replicate 32 3⟩

private def carolSession : SessionId := ⟨.replicate 16 3⟩

private def carolTunnel : TunnelInfo where
  id := ⟨1⟩
  owner := carol
  sessionId := carolSession
  kind := .http "blog"
  state := .live ⟨0⟩ none
  tcpListener := none
  rate := ⟨0⟩
  inspect := false

private def registered : Ledger where
  registry := ((TunnelRegistry.new ⟨7000, 7000⟩).allocateHttp "blog").2.insert carolTunnel
  now := 0
  inFlight := []
  abandoned := []
  allocated := 1

/-- Dropped, resumed on a second connection, unregistered; then the label is taken anew. -/
private def wholeLife : List Ledger.Event :=
  [.markDangling carol 60, .tick 10, .markDangling carol 60,
    .tryResume [⟨1⟩] "blog" carolSession carol ⟨1⟩, .remove ⟨1⟩, .allocateHttp "blog"]

private def afterwards : Ledger where
  registry :=
    { TunnelRegistry.new ⟨7000, 7000⟩ with nextId := 3, usedLabels := {"blog"} }
  now := 10
  inFlight := [⟨⟨2⟩, .http "blog"⟩]
  abandoned := []
  allocated := 2

theorem tunnel_lifecycle_whole : afterwards.allocated < 2 ^ 64 - 1 ∧
    Lib.run Ledger.step registered wholeLife = some afterwards ∧
    phase (Lib.final Ledger.step registered (wholeLife.take 1)) ⟨1⟩ = .dangling 60 ∧
    Lifecycle ⟨1⟩ registered afterwards (Lib.visited Ledger.step registered wholeLife) :=
  ⟨by decide, rfl, rfl, tunnel_lifecycle ⟨7000, 7000⟩ (by decide) registered afterwards wholeLife
    ⟨0, [.allocateHttp "blog", .insert ⟨⟨1⟩, .http "blog"⟩ carolTunnel], rfl⟩ rfl
    (by decide) ⟨1⟩⟩

end Example

end KrotRelay.Guarantees
