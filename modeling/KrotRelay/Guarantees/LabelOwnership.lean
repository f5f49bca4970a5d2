import KrotRelay.Guarantees.CollisionCheck
import KrotRelay.Guarantees.StageMoves
import KrotRelay.Source.Federation

/-!
Labels across two relays. Each relay asks the other before it claims a label, and the claim
becomes visible to the other only with the insert. Two registrations of one label that ask
before either has inserted both succeed; the relays agree as long as no query falls into such
a window of the other relay.
-/
namespace KrotRelay.Guarantees
open Source Lib TunnelRegistry Server
open Function (update update_self update_of_ne)

variable {label : String} {request : Call} {choice : Choice} {conn : Connection}
  {middle : Server} {owner : PubKey} {session : Session} {stage : CheckStage}
  {frame : ClientFrame} {later : Connection → CheckStage}

/-- The identity has the label in the table. -/
def HasLabel (registry : TunnelRegistry) (label : String) (owner : PubKey) : Prop :=
  ∃ id info, registry.tunnels.lookup id = some info ∧ info.kind = .http label ∧ info.owner = owner

/-- No label is held by different identities on the two relays. -/
def OneOwner (pair : FederatedPair) : Prop :=
  ∀ label here there, HasLabel (pair.relay .east).registry label here →
    HasLabel (pair.relay .west).registry label there → here = there

section Condition
variable (apex : Side → String)

/-- The task is about to claim the label for another identity, and has asked `asker` before. -/
def claiming (asker label : String) (pubkey : PubKey) : Task → Bool
  | .dispatching session _ (.call request _) =>
    session.pubkey != pubkey && match request with
      | .findOwner peer wanted => peer != asker && wanted == label
      | .allocateHttp wanted => wanted == label
      | .insert info => info.kind == .http label
      | _ => false
  | _ => false

/-- A relay asks the other about a label only while no different identity is about to claim it
there. -/
def uncontested (pair : FederatedPair) : Side × Event → Bool
  | (side, .call connection _) =>
    match (pair.relay side).tasks connection with
    | .dispatching session _ (.call (.findOwner peer label) _) =>
      peer != apex side.other || !(pair.accepted side.other).any fun other =>
          claiming (apex side) label session.pubkey ((pair.relay side.other).tasks other)
    | _ => true
  | _ => true

end Condition

section Table

/-- Each label has at most one entry, is marked as used, and is not reserved at the same time. -/
structure LabelTable (registry : TunnelRegistry) (pending : String → Prop) : Prop where
  unique : ∀ label first second left right, registry.tunnels.lookup first = some left →
    registry.tunnels.lookup second = some right → left.kind = .http label →
    right.kind = .http label → first = second
  used : ∀ label id info, registry.tunnels.lookup id = some info → info.kind = .http label →
    label ∈ registry.usedLabels
  waiting : ∀ label, pending label → label ∈ registry.usedLabels
  apart : ∀ label id info, pending label → registry.tunnels.lookup id = some info →
    info.kind ≠ .http label

/-- Entries go, and with them only their own labels. -/
structure Fewer (registry next : TunnelRegistry) : Prop where
  descends : ∀ id, Descends registry next id
  freed : ∀ label ∈ registry.usedLabels, label ∉ next.usedLabels →
    ∃ id info, registry.tunnels.lookup id = some info ∧ info.kind = .http label ∧
      next.tunnels.lookup id = none

variable {registry next : TunnelRegistry} {pending later : String → Prop}

theorem Fewer.of_sameIndex (same : registry.SameIndex next)
    (descends : ∀ id, Descends registry next id) : Fewer registry next where
  descends := descends
  freed := by
    intro label used unused
    rw [same.usedLabels] at unused
    exact absurd used unused

theorem Fewer.refl (registry : TunnelRegistry) : Fewer registry registry :=
  .of_sameIndex (.refl registry) fun _ => descends_of_lookup fun _ found => found

theorem Fewer.trans {last : TunnelRegistry} (first : Fewer registry next)
    (second : Fewer next last) : Fewer registry last where
  descends := by
    intro id info found
    obtain ⟨middle, present, kind, owner⟩ := second.descends id info found
    obtain ⟨old, there, kind', owner'⟩ := first.descends id middle present
    exact ⟨old, there, kind.trans kind', owner.trans owner'⟩
  freed := by
    intro label used unused
    by_cases kept : label ∈ next.usedLabels
    · obtain ⟨id, info, found, kind, gone⟩ := second.freed label kept unused
      obtain ⟨old, there, same, _⟩ := first.descends id info found
      exact ⟨id, old, there, same.symm.trans kind, gone⟩
    · obtain ⟨id, info, found, kind, gone⟩ := first.freed label used kept
      refine ⟨id, info, found, kind, ?_⟩
      cases present : last.tunnels.lookup id with
      | none => rfl
      | some entry =>
        obtain ⟨middle, there, _⟩ := second.descends id entry present
        rw [gone] at there
        cases there

theorem fewer_removeLocked (registry : TunnelRegistry) (id : TunnelId) :
    Fewer registry (registry.removeLocked id) where
  descends := removeLocked_descends registry id
  freed := by
    intro label used unused
    cases found : registry.tunnels.lookup id with
    | none =>
      rw [registry.removeLocked_absent id found] at unused
      exact absurd used unused
    | some info =>
      have still := registry.removeLocked_reserved id info found (.http label)
      refine ⟨id, info, found, ?_, ?_⟩
      · by_contra differs
        exact unused (still.mpr ⟨fun same => differs same.symm, used⟩)
      · rw [lookup_removeLocked, if_pos rfl]

theorem fewer_sweep (ids : List TunnelId) (registry : TunnelRegistry) :
    Fewer registry (ids.foldl TunnelRegistry.removeLocked registry) := by
  induction ids generalizing registry with
  | nil => exact .refl registry
  | cons id _ ih => exact (fewer_removeLocked registry id).trans (ih _)

theorem fewer_disposeTunnels (server : Server) (pubkey : PubKey)
    (result : Except ServerError SessionOutcome) :
    Fewer server.registry (server.disposeTunnels pubkey result) := by
  have descends := disposeTunnels_descends server pubkey result
  rcases result with _ | (_ | _ | _)
  · exact fewer_sweep _ _
  · exact fewer_sweep _ _
  · exact .of_sameIndex (server.registry.markDangling_sameIndex ..) descends
  · exact fewer_sweep _ _

namespace LabelTable
variable (holds : LabelTable registry pending)
include holds

theorem fewer (less : Fewer registry next) (subset : ∀ label, later label → pending label) :
    LabelTable next later where
  unique := by
    intro label first second left right found present one two
    obtain ⟨old, there, kind, _⟩ := less.descends first left found
    obtain ⟨older, here, kind', _⟩ := less.descends second right present
    exact holds.unique label first second old older there here (kind.symm.trans one)
      (kind'.symm.trans two)
  used := by
    intro label id info found kind
    obtain ⟨old, there, same, _⟩ := less.descends id info found
    by_contra unused
    obtain ⟨gone, entry, present, named, removed⟩ :=
      less.freed label (holds.used label id old there (same.symm.trans kind)) unused
    obtain rfl := holds.unique label id gone old entry there present (same.symm.trans kind) named
    rw [removed] at found
    cases found
  waiting := by
    intro label waits
    by_contra unused
    obtain ⟨id, info, found, kind, _⟩ :=
      less.freed label (holds.waiting label (subset label waits)) unused
    exact holds.apart label id info (subset label waits) found kind
  apart := by
    intro label id info waits found kind
    obtain ⟨old, there, same, _⟩ := less.descends id info found
    exact holds.apart label id old (subset label waits) there (same.symm.trans kind)

theorem granted {alloc : Alloc} (grants : registry.Grants next alloc)
    (grows : ∀ label, later label → pending label ∨ alloc.kind = .http label) :
    LabelTable next later where
  unique := by
    rw [grants.tunnels]
    exact holds.unique
  used := by
    intro label id info found kind
    rw [grants.tunnels] at found
    exact (grants.reserved (.http label)).mpr (.inr (holds.used label id info found kind))
  waiting := by
    intro label waits
    refine (grants.reserved (.http label)).mpr ?_
    rcases grows label waits with before | new
    · exact .inr (holds.waiting label before)
    · exact .inl new.symm
  apart := by
    intro label id info waits found kind
    rw [grants.tunnels] at found
    rcases grows label waits with before | new
    · exact holds.apart label id info before found kind
    · have free := grants.free
      rw [new] at free
      exact free (holds.used label id info found kind)

theorem insert {info : TunnelInfo} (claimed : ∀ label, info.kind = .http label → pending label)
    (rest : ∀ label, later label → pending label ∧ info.kind ≠ .http label) :
    LabelTable (registry.insert info) later where
  unique := by
    intro label first second left right found present one two
    rw [lookup_insert] at found present
    split at found
    · split at present
      · rename_i same other
        rw [same, other]
      · cases found
        exact absurd two (holds.apart label second right (claimed label one) present)
    · split at present
      · cases present
        exact absurd one (holds.apart label first left (claimed label two) found)
      · exact holds.unique label first second left right found present one two
  used := by
    intro label id entry found kind
    rw [lookup_insert] at found
    split at found
    · cases found
      exact holds.waiting label (claimed label kind)
    · exact holds.used label id entry found kind
  waiting := fun label waits => holds.waiting label (rest label waits).1
  apart := by
    intro label id entry waits found
    rw [lookup_insert] at found
    split at found
    · cases found
      exact (rest label waits).2
    · exact holds.apart label id entry (rest label waits).1 found

theorem findOwner (has : HasLabel registry label owner) :
    registry.findOwner label = .found owner := by
  obtain ⟨id, info, found, kind, rfl⟩ := has
  have stored : registry.labelOwner label = some info.owner :=
    labelOwner_eq found kind fun other entry present named =>
      holds.unique label other id entry info present found named kind
  simp only [TunnelRegistry.findOwner, stored]

end LabelTable

end Table

section Calls
variable {other : String} {session : Session}

/-- Only `allocate_http` reserves. -/
theorem checkNext_reserved {reply : request.Reply} {id : TunnelId}
    (asks : ∀ wanted, request ≠ .allocateHttp wanted)
    (reserved : checkNext other session stage request reply = .reserved id label) :
    stage = .reserved id label := by
  cases request with
  | allocateHttp wanted => exact absurd rfl (asks wanted)
  | peersSnapshot =>
    simp only [checkNext] at reserved
    split at reserved
    · exact reserved
    · cases reserved
  | findOwner =>
    simp only [checkNext] at reserved
    split at reserved
    · cases reserved
    · split at reserved
      · cases reserved
      · exact reserved
  | insert => cases reserved
  | _ => exact reserved

/-- Only an answer of the other relay clears. -/
theorem checkNext_cleared {reply : request.Reply}
    (allowed : checkAllows other session stage request)
    (cleared : checkNext other session stage request reply = .cleared label) :
    ∃ peer, request = .findOwner peer label ∧ (peer = other ∨ stage = .cleared label) := by
  have resting (rests : stage.Rests) (same : stage = .cleared label) : False := by
    subst same
    exact rests.not_cleared
  cases request with
  | findOwner peer wanted =>
    simp only [checkNext] at cleared
    split at cleared
    · cases cleared
    · split at cleared
      · rename_i same
        cases cleared
        exact ⟨peer, rfl, .inl same⟩
      · rcases allowed with rests | same
        · exact (resting rests cleared).elim
        · rw [same] at cleared
          cases cleared
          exact ⟨peer, rfl, .inr same⟩
  | allocateHttp =>
    cases reply <;> cases cleared
  | peersSnapshot =>
    simp only [checkNext] at cleared
    split at cleared
    · exact (resting allowed cleared).elim
    · cases cleared
  | insert => cases cleared
  | _ => exact (resting allowed cleared).elim

/-- What a call of a dispatch does to the labels. -/
inductive LabelMove (session : Session) (registry : TunnelRegistry) (stage : CheckStage) :
    Call → TunnelRegistry → CheckStage → Prop where
  | fewer (request : Call) (next : TunnelRegistry) (later : CheckStage) (less : Fewer registry next)
      (stays : ∀ id label, later = .reserved id label → stage = .reserved id label) :
      LabelMove session registry stage request next later
  | granted (id : TunnelId) (label : String) (next : TunnelRegistry)
      (grants : registry.Grants next ⟨id, .http label⟩) :
      LabelMove session registry stage (.allocateHttp label) next (.reserved id label)
  | inserted (info) (claimed : ∀ label, info.kind = .http label → stage = .reserved info.id label ∧
        info.owner = session.pubkey)
      (plain : ∀ id label, stage = .reserved id label → info.kind = .http label) :
      LabelMove session registry stage (.insert info) (registry.insert info) .open

theorem answer_labels {server : Server} {reply : request.Reply}
    (allowed : checkAllows other session stage request)
    (answered : server.answer conn choice request = some (reply, middle)) :
    LabelMove session server.registry stage request middle.registry
      (checkNext other session stage request reply) := by
  have same {asked : Call} {told : asked.Reply} (asks : ∀ wanted, asked ≠ .allocateHttp wanted) :
      LabelMove session server.registry stage asked server.registry
        (checkNext other session stage asked told) :=
    .fewer _ _ _ (.refl _) fun _ _ => checkNext_reserved asks
  have less {asked : Call} {told : asked.Reply} {next : TunnelRegistry}
      (asks : ∀ wanted, asked ≠ .allocateHttp wanted) (fewer : Fewer server.registry next) :
      LabelMove session server.registry stage asked next
        (checkNext other session stage asked told) :=
    .fewer _ _ _ fewer fun _ _ => checkNext_reserved asks
  cases answer_cases answered with
  | question _ _ asks =>
    refine same fun wanted => ?_
    rintro rfl
    cases asks
  | resumed label sessionId pubkey attached =>
    refine less (by rintro _ ⟨⟩) (.of_sameIndex (server.registry.tryResume_sameIndex ..) ?_)
    intro id
    rcases server.registry.tryResume_cases choice.order label sessionId pubkey attached with
      same | same | ⟨found, info, expiresAt, present, _, _, _, effect⟩
    · rw [same]
      exact descends_of_lookup fun _ found => found
    · rw [same]
      exact descends_of_lookup fun _ found => found
    · rw [effect]
      exact reattach_descends server.registry found id info _ present
  | grantedHttp label id registry result =>
    exact .granted id label registry (allocateHttp_ok _ _ _ _ result)
  | refusedHttp => exact .fewer _ _ _ (.refl _) (by rintro _ _ ⟨⟩)
  | grantedTcp _ id _ _ result =>
    have grants := allocateTcp_ok _ _ _ _ _ result
    refine less (by rintro _ ⟨⟩) ⟨fun id => descends_of_lookup fun _ found => ?_, ?_⟩
    · rwa [grants.tunnels] at found
    · intro label used unused
      exact absurd ((grants.reserved (.http label)).mpr (.inr used)) unused
  | inserted info =>
    refine .inserted info ?_ ?_
    · intro label kind
      simp only [checkAllows, kind] at allowed
      exact allowed
    · intro id label reserved
      cases kind : info.kind with
      | http =>
        simp only [checkAllows, kind] at allowed
        rw [allowed.1] at reserved
        cases reserved
        rfl
      | tcp =>
        simp only [checkAllows, kind] at allowed
        rw [reserved] at allowed
        exact allowed.not_reserved.elim
  | removed id => exact less (by rintro _ ⟨⟩) (fewer_removeLocked server.registry id)
  | handled id newAbort =>
    exact less (by rintro _ ⟨⟩) (.of_sameIndex (server.registry.setTcpAbort_sameIndex ..)
      fun queried => setTcpAbort_descends server.registry id queried newAbort)
  | refusedTcp | fetched | appended | unparsed | written | unwritten | bound | unbound | located
  | unlocated | spawned => exact same (by rintro _ ⟨⟩)

end Calls

section Relay

/-- Labels reserved by registrations that have not inserted yet. -/
def Pending (stages : Connection → CheckStage) (label : String) : Prop :=
  ∃ connection id, stages connection = .reserved id label

/-- One relay of the pair, whose peer is known as `other`. -/
structure Sided (other : String) (server : Server) (stages : Connection → CheckStage) : Prop where
  tracked : Tracked (checking other) server stages
  listed : other ∈ server.peers
  named : ∀ connection session, (server.tasks connection).session? = some session →
    other ∈ session.entry.federation
  checked : ∀ connection, stages connection ≠ .unlisted
  table : LabelTable server.registry (Pending stages)
  single : ∀ first second left right label, stages first = .reserved left label →
    stages second = .reserved right label → first = second

/-- The stages after a step, as far as reservations and the list of peers go. -/
theorem pending_of_stays {stages : Connection → CheckStage}
    (stays : ∀ conn id label, later conn = .reserved id label →
      stages conn = .reserved id label) (label : String) (waits : Pending later label) :
    Pending stages label := by
  obtain ⟨conn, id, reserved⟩ := waits
  exact ⟨conn, id, stays conn id label reserved⟩

namespace Sided
variable {other : String} {server next : Server} {stages : Connection → CheckStage} {event : Event}
  (holds : Sided other server stages) (stepped : server.step event = some next)
include holds stepped

theorem peers (kept : ∀ peers, event = .setPeers peers → other ∈ peers) : other ∈ next.peers := by
  by_cases sets : ∃ peers, event = .setPeers peers
  · obtain ⟨peers, rfl⟩ := sets
    cases stepped
    exact kept peers rfl
  · rw [step_peers (fun peers same => sets ⟨peers, same⟩) stepped]
    exact holds.listed

theorem sessions (starts : ∀ conn ok, event = .subscribe conn →
      server.tasks conn = .authenticated ok → other ∈ ok.entry.federation)
    (conn : Connection) (session : Session)
    (present : (next.tasks conn).session? = some session) : other ∈ session.entry.federation := by
  by_cases subscribes : ∃ target, event = .subscribe target
  · obtain ⟨target, rfl⟩ := subscribes
    simp only [Server.step] at stepped
    split at stepped <;> cases stepped
    rename_i ok task
    obtain ⟨rate, tasks, _⟩ := server.startSession_tasks target ok
    rw [tasks] at present
    by_cases own : conn = target
    · subst own
      rw [update_self] at present
      cases present
      exact starts conn ok rfl task
    · rw [update_of_ne own] at present
      exact holds.named conn session present
  · exact holds.named conn session
      (step_session (fun target same => subscribes ⟨target, same⟩) stepped conn session present)

omit stepped in
/-- Reservations after a step that makes none. -/
theorem kept (tracked : Tracked (checking other) next later) (listed : other ∈ next.peers)
    (named : ∀ conn session, (next.tasks conn).session? = some session →
      other ∈ session.entry.federation) (less : Fewer server.registry next.registry)
    (stays : ∀ conn id label, later conn = .reserved id label → stages conn = .reserved id label)
    (checked : ∀ conn, later conn ≠ .unlisted) : Sided other next later where
  tracked := tracked
  listed := listed
  named := named
  checked := checked
  table := holds.table.fewer less (pending_of_stays stays)
  single := fun first second left right label one two =>
    holds.single first second left right label (stays first left label one)
      (stays second right label two)

omit stepped in
/-- The stage after a call: the peer is on the list, so it was asked. -/
theorem next_checked {reply : request.Reply}
    (answered : server.answer conn choice request = some (reply, middle)) :
    checkNext other session (stages conn) request reply ≠ .unlisted := by
  intro unlisted
  have before := holds.checked conn
  cases request with
  | peersSnapshot =>
    cases answered
    simp only [checkNext, if_pos holds.listed] at unlisted
    exact before unlisted
  | findOwner =>
    simp only [checkNext] at unlisted
    split at unlisted
    · cases unlisted
    · split at unlisted
      · cases unlisted
      · exact before unlisted
  | allocateHttp => cases reply <;> cases unlisted
  | insert => cases unlisted
  | _ => exact before unlisted

omit stepped in
/-- A call of a dispatch. -/
theorem called {reply : request.Reply} {task : Task}
    (allowed : checkAllows other session (stages conn) request)
    (answered : server.answer conn choice request = some (reply, middle))
    (tracked : Tracked (checking other) (middle.setTask conn task) (update stages conn
        (checkNext other session (stages conn) request reply)))
    (listed : other ∈ middle.peers)
    (named : ∀ asked session, ((middle.setTask conn task).tasks asked).session? =
      some session → other ∈ session.entry.federation) :
    Sided other (middle.setTask conn task) (update stages conn
      (checkNext other session (stages conn) request reply)) := by
  have checked : ∀ asked, update stages conn
      (checkNext other session (stages conn) request reply) asked ≠ .unlisted := by
    intro asked
    by_cases own : asked = conn
    · subst own
      rw [update_self]
      exact holds.next_checked answered
    · rw [update_of_ne own]
      exact holds.checked asked
  have moves := answer_labels allowed answered
  have frame : (middle.setTask conn task).registry = middle.registry := rfl
  generalize middle.registry = registry at moves frame
  generalize checkNext other session (stages conn) request reply = after at *
  cases moves with
  | fewer _ _ _ less stays =>
    refine holds.kept tracked listed named (frame ▸ less) (fun asked id label reserved => ?_) checked
    by_cases own : asked = conn
    · subst own
      rw [update_self] at reserved
      exact stays id label reserved
    · rwa [update_of_ne own] at reserved
  | granted _ label _ grants =>
    -- a reserved label is used, and the granted one was free
    have fresh (asked : Connection) (before : TunnelId) :
        stages asked ≠ .reserved before label := fun reserved =>
      grants.free (holds.table.waiting label ⟨asked, before, reserved⟩)
    refine ⟨tracked, listed, named, checked, ?_, ?_⟩
    · rw [frame]
      refine holds.table.granted grants fun wanted waits => ?_
      obtain ⟨asked, before, reserved⟩ := waits
      by_cases own : asked = conn
      · subst own
        rw [update_self] at reserved
        cases reserved
        exact .inr rfl
      · rw [update_of_ne own] at reserved
        exact .inl ⟨asked, before, reserved⟩
    · intro first second left right wanted one two
      by_cases own : first = conn
      · subst own
        rw [update_self] at one
        cases one
        by_contra differs
        rw [update_of_ne fun same => differs same.symm] at two
        exact fresh second right two
      · rw [update_of_ne own] at one
        by_cases here : second = conn
        · subst here
          rw [update_self] at two
          cases two
          exact absurd one (fresh first left)
        · rw [update_of_ne here] at two
          exact holds.single first second left right wanted one two
  | inserted info claimed =>
    have others {asked : Connection} {id : TunnelId} {label : String}
        (reserved : update stages conn .open asked = .reserved id label) :
        asked ≠ conn ∧ stages asked = .reserved id label := by
      by_cases own : asked = conn
      · subst own
        rw [update_self] at reserved
        cases reserved
      · rw [update_of_ne own] at reserved
        exact ⟨own, reserved⟩
    refine ⟨tracked, listed, named, checked, ?_, ?_⟩
    · rw [frame]
      refine holds.table.insert (fun label kind => ⟨conn, info.id, (claimed label kind).1⟩) ?_
      rintro label ⟨asked, id, reserved⟩
      obtain ⟨differs, before⟩ := others reserved
      refine ⟨⟨asked, id, before⟩, fun kind => differs ?_⟩
      exact holds.single _ _ _ _ label before (claimed label kind).1
    · intro first second left right label one two
      exact holds.single first second left right label (others one).2 (others two).2

theorem step (kept : ∀ peers, event = .setPeers peers → other ∈ peers)
    (starts : ∀ conn ok, event = .subscribe conn →
      server.tasks conn = .authenticated ok → other ∈ ok.entry.federation) :
    Sided other next ((checking other).after server stages event) := by
  have listed := holds.peers stepped kept
  have named := holds.sessions stepped starts
  have tracked := holds.tracked.step (dispatch_checks other) stepped
  have moved := dispatch_event_move holds.tracked stepped
  generalize (checking other).after server stages event = later at tracked moved ⊢
  cases moved with
  | rested _ _ _ same stays =>
    refine holds.kept tracked listed named (same.registry ▸ .refl _) ?_ ?_
    · intro conn id label reserved
      rcases stays conn with unchanged | ⟨_, reset⟩
      · rwa [unchanged] at reserved
      · rw [reset] at reserved
        cases reserved
    · intro conn
      rcases stays conn with unchanged | ⟨_, reset⟩
      · rw [unchanged]
        exact holds.checked conn
      · rw [reset]
        rintro ⟨⟩
  | reaped =>
    exact holds.kept tracked listed named (fewer_sweep _ _) (fun _ _ _ reserved => reserved)
      holds.checked
  | advanced _ _ _ _ _ _ _ _ _ allowed answered =>
    exact holds.called allowed answered tracked listed named
  | cleaned =>
    exact holds.kept tracked listed named (fewer_disposeTunnels _ _ _)
      (fun _ _ _ reserved => reserved) holds.checked

end Sided

/-- A registration of the identity has the other relay's consent and has not inserted yet. -/
def InFlight (other : String) (server : Server) (stages : Connection → CheckStage)
    (label : String) (owner : PubKey) : Prop :=
  ∃ connection session frame request rest,
    server.tasks connection = .dispatching session frame (.call request rest) ∧
    session.pubkey = owner ∧ request ≠ .findOwner other label ∧
    (stages connection = .cleared label ∨ ∃ id, stages connection = .reserved id label)

/-- The identity has the label, or is about to. -/
def Claims (other : String) (server : Server) (stages : Connection → CheckStage)
    (label : String) (owner : PubKey) : Prop :=
  HasLabel server.registry label owner ∨ InFlight other server stages label owner

/-- The event answers the identity's query, and the answer does not stop it. -/
def Consents (other : String) (server : Server) (event : Event) (label : String)
    (owner : PubKey) : Prop :=
  ∃ connection choice session frame rest, event = .call connection choice ∧
    server.tasks connection = .dispatching session frame (.call (.findOwner other label) rest) ∧
    session.pubkey = owner ∧ isConflict owner choice.owner = false

theorem hasLabel_descends {before after : TunnelRegistry}
    (descends : ∀ id, Descends before after id) (has : HasLabel after label owner) :
    HasLabel before label owner := by
  obtain ⟨id, info, found, kind, own⟩ := has
  obtain ⟨old, present, same, kept⟩ := descends id info found
  exact ⟨id, old, present, same.symm.trans kind, kept.symm.trans own⟩

namespace Sided
variable {other : String} {server next : Server} {stages : Connection → CheckStage} {event : Event}
  (holds : Sided other server stages)
include holds

omit holds in
/-- The table after a call: an inserted tunnel was in flight. -/
theorem called_has {rest : request.Reply → Prog relayInterface (Except ServerError DispatchOutcome)}
    {reply : request.Reply}
    (task : server.tasks conn = .dispatching session frame (.call request rest))
    (allowed : checkAllows other session (stages conn) request)
    (answered : server.answer conn choice request = some (reply, middle))
    (has : HasLabel middle.registry label owner) : Claims other server stages label owner := by
  have moves := answer_labels allowed answered
  generalize middle.registry = registry at moves has
  generalize checkNext other session (stages conn) request reply = after at moves
  cases moves with
  | fewer _ _ _ less => exact .inl (hasLabel_descends less.descends has)
  | granted id _ _ grants =>
    obtain ⟨id, info, found, named⟩ := has
    rw [grants.tunnels] at found
    exact .inl ⟨id, info, found, named⟩
  | inserted info claimed =>
    obtain ⟨id, entry, found, kind, own⟩ := has
    rw [lookup_insert] at found
    split at found
    · cases found
      obtain ⟨reserved, mine⟩ := claimed label kind
      exact .inr ⟨conn, session, frame, .insert info, rest, task, mine.symm.trans own,
        by rintro ⟨⟩, .inr ⟨info.id, reserved⟩⟩
    · exact .inl ⟨id, entry, found, kind, own⟩

/-- The registration itself after a call: it was in flight, or it just got the consent. -/
theorem called_flight
    {rest : request.Reply → Prog relayInterface (Except ServerError DispatchOutcome)}
    {reply : request.Reply}
    (task : server.tasks conn = .dispatching session frame (.call request rest))
    (allowed : checkAllows other session (stages conn) request)
    (answered : server.answer conn choice request = some (reply, middle))
    (flying : checkNext other session (stages conn) request reply = .cleared label ∨
      ∃ id, checkNext other session (stages conn) request reply = .reserved id label) :
    InFlight other server stages label session.pubkey ∨
      Consents other server (.call conn choice) label session.pubkey := by
  have named := holds.named conn session (by rw [task]; rfl)
  rcases flying with cleared | ⟨id, reserved⟩
  · obtain ⟨peer, rfl, asked⟩ := checkNext_cleared allowed cleared
    by_cases own : peer = other
    · subst own
      cases answered
      refine .inr ⟨conn, choice, session, frame, rest, rfl, task, rfl, ?_⟩
      by_contra conflict
      simp only [checkNext, Bool.not_eq_false] at cleared conflict
      rw [if_pos conflict] at cleared
      cases cleared
    · refine .inl ⟨conn, session, frame, .findOwner peer label, rest, task, rfl, ?_,
        .inl (asked.resolve_left own)⟩
      rintro ⟨⟩
      exact own rfl
  · by_cases claims : ∃ wanted, request = .allocateHttp wanted
    · obtain ⟨wanted, rfl⟩ := claims
      cases reply with
      | error => cases reserved
      | ok =>
        cases reserved
        refine .inl ⟨conn, session, frame, .allocateHttp label, rest, task, rfl,
          by rintro ⟨⟩, .inl ?_⟩
        rcases allowed with unlisted | cleared | ⟨_, unnamed⟩
        · exact absurd unlisted (holds.checked conn)
        · exact cleared
        · exact absurd named unnamed
    · have before := checkNext_reserved (fun wanted same => claims ⟨wanted, same⟩) reserved
      refine .inl ⟨conn, session, frame, request, rest, task, rfl, ?_, .inr ⟨id, before⟩⟩
      rintro rfl
      rw [before] at allowed
      rcases allowed with rests | ⟨⟨⟩⟩
      exact rests.not_reserved

/-- A new claim comes with the consent of the other relay. -/
theorem claims_step (stepped : server.step event = some next)
    (claims : Claims other next ((checking other).after server stages event) label owner) :
    Claims other server stages label owner ∨ Consents other server event label owner := by
  have moved := dispatch_event_move holds.tracked stepped
  generalize (checking other).after server stages event = later at moved claims
  cases moved with
  | rested _ _ _ same _ dispatches =>
    rcases claims with has | ⟨conn, session, frame, request, rest, task, own, differs, stage⟩
    · rw [same.registry] at has
      exact .inl (.inl has)
    · rcases dispatches conn session frame _ task with ⟨reset, _⟩ | ⟨unchanged, before⟩
      · rw [reset] at stage
        rcases stage with ⟨⟨⟩⟩ | ⟨_, ⟨⟩⟩
      · rw [unchanged] at stage
        exact .inl (.inr ⟨conn, session, frame, request, rest, before, own, differs, stage⟩)
  | reaped =>
    exact .inl (claims.imp_left (hasLabel_descends (reapExpired_descends server.registry server.now)))
  | cleaned conn ended result =>
    rcases claims with has | ⟨target, session, frame, request, rest, there, flight⟩
    · exact .inl (.inl (hasLabel_descends (disposeTunnels_descends server ended.pubkey result) has))
    · rw [setTask_tasks] at there
      by_cases own : target = conn
      · subst own
        rw [update_self] at there
        cases there
      · rw [update_of_ne own] at there
        exact .inl (.inr ⟨target, session, frame, request, rest, there, flight⟩)
  | advanced conn _ _ _ _ _ _ _ task allowed answered =>
    rcases claims with has | ⟨target, acting, asked, pending, remaining, there, own, differs, stage⟩
    · exact .inl (called_has task allowed answered has)
    · rw [setTask_tasks, (answer_frame answered).1] at there
      by_cases here : target = conn
      · subst here
        rw [update_self] at there stage
        obtain ⟨rfl, rfl, _⟩ := afterDispatch_dispatching there
        subst own
        exact (holds.called_flight task allowed answered stage).imp_left .inr
      · rw [update_of_ne here] at there stage
        exact .inl (.inr ⟨target, acting, asked, pending, remaining, there, own, differs, stage⟩)

/-- A registration in flight is visible to the condition. -/
theorem flight_claiming {pubkey : PubKey} (flight : InFlight other server stages label owner)
    (differs : owner ≠ pubkey) : ∃ conn, server.tasks conn ≠ .absent ∧
      claiming other label pubkey (server.tasks conn) = true := by
  obtain ⟨conn, session, frame, request, rest, task, rfl, unasked, stage⟩ := flight
  have allowed : checkAllows other session (stages conn) request :=
    (holds.tracked.follows conn session frame _ task).1
  refine ⟨conn, by rw [task]; rintro ⟨⟩, ?_⟩
  have rests {stage : CheckStage} (rests : stage.Rests)
      (flying : stage = .cleared label ∨ ∃ id, stage = .reserved id label) : False := by
    rcases flying with rfl | ⟨id, rfl⟩
    · exact rests.not_cleared
    · exact rests.not_reserved
  rw [task]
  cases request with
  | findOwner peer =>
    rcases allowed with idle | cleared
    · exact (rests idle stage).elim
    · rw [cleared] at stage
      rcases stage with ⟨⟨⟩⟩ | ⟨_, ⟨⟩⟩
      have elsewhere : peer ≠ other := by
        rintro rfl
        exact unasked rfl
      simp [claiming, differs, elsewhere]
  | allocateHttp =>
    rcases allowed with unlisted | cleared | ⟨opened, _⟩
    · exact absurd unlisted (holds.checked conn)
    · rw [cleared] at stage
      rcases stage with ⟨⟨⟩⟩ | ⟨_, ⟨⟩⟩
      simp [claiming, differs]
    · exact (rests (.inl opened) stage).elim
  | insert info =>
    cases kind : info.kind with
    | tcp =>
      simp only [checkAllows, kind] at allowed
      exact (rests allowed stage).elim
    | http =>
      simp only [checkAllows, kind] at allowed
      rw [allowed.1] at stage
      rcases stage with ⟨⟨⟩⟩ | ⟨_, ⟨⟩⟩
      simp [claiming, differs, kind]
  | _ => exact (rests allowed stage).elim

end Sided

end Relay

section Pair

@[simp] theorem other_other (side : Side) : side.other.other = side := by cases side <;> rfl

theorem other_ne (side : Side) : side.other ≠ side := by cases side <;> rintro ⟨⟩

/-- Claims to one label agree across the relays. -/
structure Agreeing (apex : Side → String) (pair : FederatedPair)
    (stages : Side → Connection → CheckStage) : Prop where
  sided : ∀ side, Sided (apex side.other) (pair.relay side) (stages side)
  accepted : ∀ side connection, (pair.relay side).tasks connection ≠ .absent →
    connection ∈ pair.accepted side
  agree : ∀ side label here there,
    Claims (apex side.other) (pair.relay side) (stages side) label here →
    Claims (apex side) (pair.relay side.other) (stages side.other) label there → here = there

namespace Agreeing
variable {apex : Side → String} {pair next : FederatedPair}
  {stages : Side → Connection → CheckStage} (holds : Agreeing apex pair stages)
include holds

theorem oneOwner : OneOwner pair := fun label here there east west =>
  holds.agree .east label here there (.inl east) (.inl west)

/-- A consent is given only to an identity that agrees with what the other relay has. -/
theorem consent {side : Side} {event : Event} {mine theirs : PubKey}
    (met : uncontested apex pair (side, event) = true)
    (admitted : pair.federated apex side event = true)
    (consents : Consents (apex side.other) (pair.relay side) event label mine)
    (claims : Claims (apex side) (pair.relay side.other) (stages side.other) label theirs) :
    mine = theirs := by
  obtain ⟨conn, choice, session, frame, rest, rfl, task, rfl, agreed⟩ := consents
  have there := holds.sided side.other
  rw [other_other] at there
  rcases claims with has | flight
  · -- the answer was the owner the other relay has
    simp only [FederatedPair.federated, task, bne_self_eq_false, Bool.false_or, beq_iff_eq]
      at admitted
    rw [there.table.findOwner has] at admitted
    rw [admitted] at agreed
    simp only [isConflict, bne_eq_false_iff_eq] at agreed
    exact agreed.symm
  · by_contra differs
    obtain ⟨claimant, present, claims⟩ :=
      there.flight_claiming flight fun same => differs same.symm
    simp only [uncontested, task, bne_self_eq_false, Bool.false_or, Bool.not_eq_true',
      List.any_eq_false] at met
    exact met claimant (holds.accepted side.other claimant present) claims

theorem step {turn : Side × Event} (met : uncontested apex pair turn = true)
    (stepped : pair.step apex turn = some next) : ∃ later, Agreeing apex next later := by
  obtain ⟨side, event⟩ := turn
  simp only [FederatedPair.step] at stepped
  split at stepped
  case isFalse => cases stepped
  rename_i admitted
  obtain ⟨server, moved, rfl⟩ := Option.map_eq_some_iff.mp stepped
  have sided := (holds.sided side).step moved (by
      rintro peers rfl
      simpa [FederatedPair.federated] using admitted)
    (by
      rintro conn ok rfl task
      simpa [FederatedPair.federated, task] using admitted)
  have cross {label : String} {mine theirs : PubKey} (new : Claims (apex side.other) server
        ((checking (apex side.other)).after (pair.relay side) (stages side) event) label mine)
      (old : Claims (apex side) (pair.relay side.other) (stages side.other) label theirs) :
      mine = theirs := by
    rcases (holds.sided side).claims_step moved new with before | consents
    · exact holds.agree side label mine theirs before old
    · exact holds.consent met admitted consents old
  have apart : side.other ≠ side := other_ne side
  refine ⟨update stages side
    ((checking (apex side.other)).after (pair.relay side) (stages side) event), ?_, ?_, ?_⟩
  · intro asked
    by_cases own : asked = side
    · subst own
      simpa using sided
    · simpa [own] using holds.sided asked
  · intro asked conn present
    dsimp only at present ⊢
    by_cases own : asked = side
    · subst own
      rw [update_self] at present ⊢
      by_cases absent : (pair.relay asked).tasks conn = .absent
      · obtain rfl := step_absent moved absent present
        exact List.mem_append_right _ (List.mem_singleton.mpr rfl)
      · have before := holds.accepted asked conn absent
        cases event with
        | accept => exact List.mem_append_left _ before
        | _ => exact before
    · rw [update_of_ne own] at present ⊢
      exact holds.accepted asked conn present
  · intro asked label here there one two
    dsimp only at one two
    by_cases own : asked = side
    · subst own
      rw [update_self, update_self] at one
      rw [update_of_ne apart, update_of_ne apart] at two
      exact cross one two
    · obtain rfl : asked = side.other := by
        cases asked <;> cases side <;> first | rfl | exact absurd rfl own
      rw [update_of_ne apart, update_of_ne apart] at one
      rw [other_other] at one two
      rw [update_self, update_self] at two
      exact (cross two one).symm

end Agreeing

theorem agreeing_init (apex : Side → String) (config : Side → Config) (pool : Side → PortPool)
    (entries : Side → HashMap PubKey AuthorizedEntry) (peers : Side → List String)
    (now : Side → Instant) (listed : ∀ side, apex side.other ∈ peers side) :
    Agreeing apex (.init fun side => Server.init (config side) (pool side) (entries side)
      (peers side) (now side)) fun _ _ => .open where
  sided := fun side =>
    { tracked := tracked_init (checking (apex side.other)) (.inl rfl) _ _ _ _ _
      listed := listed side
      named := by
        intro conn session present
        cases present
      checked := by rintro _ ⟨⟩
      table := by
        refine ⟨?_, ?_, ?_, ?_⟩
        · intro label first second left right found
          cases found
        · intro label id info found
          cases found
        · rintro label ⟨conn, id, ⟨⟩⟩
        · rintro label id info ⟨conn, _, ⟨⟩⟩
      single := by rintro _ _ _ _ _ ⟨⟩ }
  accepted := fun _ _ present => absurd rfl present
  agree := by
    rintro side label here there (⟨id, info, found, _⟩ | ⟨conn, session, frame, request, rest, task, _⟩)
    · cases found
    · cases task

/-- In every run in which no relay asks about a label that a different identity is about to
claim on the other, no label is held by different identities on the two relays. -/
theorem label_ownership (apex : Side → String) (config : Side → Config) (pool : Side → PortPool)
    (entries : Side → HashMap PubKey AuthorizedEntry) (peers : Side → List String)
    (now : Side → Instant) (listed : ∀ side, apex side.other ∈ peers side)
    (turns : List (Side × Event)) (pair : FederatedPair)
    (met : Meets (FederatedPair.step apex) (fun state turn => uncontested apex state turn = true)
      (.init fun side => Server.init (config side) (pool side) (entries side) (peers side)
        (now side)) turns)
    (finished : run (FederatedPair.step apex)
      (.init fun side => Server.init (config side) (pool side) (entries side) (peers side)
        (now side)) turns = some pair) : OneOwner pair := by
  have start := agreeing_init apex config pool entries peers now listed
  obtain ⟨stages, holds⟩ := run_meets
    (fun state => ∃ stages, Agreeing apex state stages)
    (fun _ _ _ ⟨_, holds⟩ met stepped => holds.step met stepped) ⟨_, start⟩ met finished
  exact holds.oneOwner

end Pair

section TwoRelays

def apexOf : Side → String
  | .east => "east.example"
  | .west => "west.example"

/-- dave and erin may publish on both relays. -/
def federatedKeys : HashMap PubKey AuthorizedEntry :=
  let entry := { anyHttp with federation := ["east.example", "west.example"] }
  AList.insert dave entry (AList.insert erin entry ∅)

def twoRelays : FederatedPair :=
  .init fun side => Server.init { domainConfig with mode := .domain (apexOf side) } ⟨7000, 7001⟩
    federatedKeys [apexOf side.other] 0

def onSide (side : Side) (events : List Event) : List (Side × Event) :=
  events.map fun event => (side, event)

/-- dave signs in on the east relay, erin on the west relay. -/
def bothSignIn : List (Side × Event) :=
  onSide .east (signIn ⟨0⟩ dave ⟨.replicate 16 1⟩) ++
    onSide .west (signIn ⟨0⟩ erin ⟨.replicate 16 2⟩)

/-- A registration up to the answer of the other relay. -/
def askFor (label : String) (owner : PeerLookupOutcome) : List Event :=
  [.frame ⟨0⟩ (.registerTunnel label .http none false), .call ⟨0⟩ {}, .call ⟨0⟩ { owner := owner }]

/-- erin asks when dave has the label. -/
def oneAfterTheOther : List (Side × Event) :=
  bothSignIn ++ onSide .east (askFor "shop" .notFound ++ List.replicate 3 (.call ⟨0⟩ {})) ++
    onSide .west (askFor "shop" (.found dave) ++ [.call ⟨0⟩ {}])

/-- Both ask, then both claim. -/
def crossing : List (Side × Event) :=
  bothSignIn ++ onSide .east (askFor "shop" .notFound) ++ onSide .west (askFor "shop" .notFound) ++
    onSide .east [.call ⟨0⟩ {}, .call ⟨0⟩ {}] ++ onSide .west [.call ⟨0⟩ {}, .call ⟨0⟩ {}]

theorem label_ownership_dave :
    HasLabel ((final (FederatedPair.step apexOf) twoRelays oneAfterTheOther).relay .east).registry
      "shop" dave ∧
    OneOwner (final (FederatedPair.step apexOf) twoRelays oneAfterTheOther) :=
  ⟨⟨⟨1⟩, _, rfl, rfl, rfl⟩, label_ownership apexOf
    (fun side => { domainConfig with mode := .domain (apexOf side) }) (fun _ => ⟨7000, 7001⟩)
    (fun _ => federatedKeys) (fun side => [apexOf side.other]) (fun _ => 0)
    (fun _ => List.mem_singleton.mpr rfl) oneAfterTheOther _ (by decide +kernel)
    (run_final (by decide +kernel))⟩

/-- Each relay is asked before the other has claimed, and both claims succeed. -/
theorem crossing_queries_split_label : run (FederatedPair.step apexOf) twoRelays crossing =
      some (final (FederatedPair.step apexOf) twoRelays crossing) ∧
    ¬ OneOwner (final (FederatedPair.step apexOf) twoRelays crossing) := by
  refine ⟨run_final (by decide +kernel), fun unique => ?_⟩
  have same : dave = erin := unique "shop" dave erin ⟨⟨1⟩, _, rfl, rfl, rfl⟩ ⟨⟨1⟩, _, rfl, rfl, rfl⟩
  exact absurd same (by decide)

end TwoRelays

end KrotRelay.Guarantees
