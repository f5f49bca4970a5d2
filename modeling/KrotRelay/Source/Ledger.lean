import KrotRelay.Lib.Run
import KrotRelay.Source.RegistryEffects

/-!
The registry under any number of concurrent callers, at the granularity of one lock
acquisition. `allocate_*` and `insert` are two critical sections of one caller; an
allocation that was returned and not yet inserted is in flight. A caller that gives
up between the two abandons it: the registry is not told. The caller side is only
what registry.rs relies on: an insertion uses an allocation that is in flight, and a
TCP insertion carries the listener that was bound for the allocated port.
-/
namespace KrotRelay.Source
open TunnelRegistry

/-- A reservation handed out by `allocate_tcp` or `allocate_http`. -/
structure Alloc where
  id : TunnelId
  kind : RegisteredKind
  deriving DecidableEq

structure Ledger where
  registry : TunnelRegistry
  now : Instant
  inFlight : List Alloc
  abandoned : List Alloc
  /-- ids handed out so far -/
  allocated : Nat

namespace Ledger

def init (pool : PortPool) (now : Instant) : Ledger where
  registry := .new pool
  now := now
  inFlight := []
  abandoned := []
  allocated := 0

/-- The tunnel a caller publishes for an allocation: same id, Live, same label; for
TCP the port the bound listener reports, which is the one asked for unless that was 0. -/
def Fits (alloc : Alloc) (info : TunnelInfo) : Bool :=
  info.id == alloc.id && !info.state.isDangling && match alloc.kind with
    | .http label => info.kind == .http label
    | .tcp port =>
      match info.tcpListener with
      | none => false
      | some listener =>
        info.kind == .tcp listener.localPort && (port == 0 || listener.localPort == port)

inductive Event where
  | tick (elapsed : Duration)
  | allocateTcp (allowlist : Option (List UInt16))
  | allocateHttp (label : String)
  | insert (alloc : Alloc) (info : TunnelInfo)
  | abandon (alloc : Alloc)
  | remove (id : TunnelId)
  | removeAllOwnedBy (owner : PubKey)
  | markDangling (owner : PubKey) (grace : Duration)
  | reapExpired
  | tryResume (order : List TunnelId) (label : String) (sessionId : SessionId) (pubkey : PubKey)
      (connection : Connection)
  | setTcpAbort (id : TunnelId) (newAbort : AbortHandle)

/-- Record what an allocation returned. -/
def granted (ledger : Ledger) (registry : TunnelRegistry) (alloc : Alloc) : Ledger :=
  { ledger with
    registry := registry
    inFlight := alloc :: ledger.inFlight
    allocated := ledger.allocated + 1 }

def step (ledger : Ledger) : Event → Option Ledger
  | .tick elapsed => some { ledger with now := ledger.now + elapsed }
  | .allocateTcp allowlist =>
    match ledger.registry.allocateTcp allowlist with
    | (.error _, registry) => some { ledger with registry := registry }
    | (.ok (id, port), registry) => some (ledger.granted registry ⟨id, .tcp port⟩)
  | .allocateHttp label =>
    match ledger.registry.allocateHttp label with
    | (.error _, registry) => some { ledger with registry := registry }
    | (.ok id, registry) => some (ledger.granted registry ⟨id, .http label⟩)
  | .insert alloc info =>
    if alloc ∈ ledger.inFlight ∧ Fits alloc info = true then
      some { ledger with
        registry := ledger.registry.insert info
        inFlight := ledger.inFlight.erase alloc }
    else none
  | .abandon alloc =>
    if alloc ∈ ledger.inFlight then
      some { ledger with
        inFlight := ledger.inFlight.erase alloc
        abandoned := alloc :: ledger.abandoned }
    else none
  | .remove id => some { ledger with registry := ledger.registry.remove id }
  | .removeAllOwnedBy owner =>
    some { ledger with registry := ledger.registry.removeAllOwnedBy owner }
  | .markDangling owner grace =>
    some { ledger with registry := ledger.registry.markDangling owner grace ledger.now }
  | .reapExpired => some { ledger with registry := (ledger.registry.reapExpired ledger.now).2 }
  | .tryResume order label sessionId pubkey connection =>
    some { ledger with
      registry := (ledger.registry.tryResume order label sessionId pubkey connection).2 }
  | .setTcpAbort id newAbort =>
    some { ledger with registry := ledger.registry.setTcpAbort id newAbort }

def Reachable (pool : PortPool) (ledger : Ledger) : Prop :=
  ∃ now, Lib.Reachable step (init pool now) ledger

/-- Everything one event can do to the table entry of one id. -/
inductive Change (now : Instant) (id : TunnelId) :
    Event → Option TunnelInfo → Option TunnelInfo → Prop where
  | keep (event entry) : Change now id event entry entry
  | inserted (alloc info old) (own : info.id = id) (fits : Fits alloc info = true) :
      Change now id (.insert alloc info) old (some info)
  | removed (info) : Change now id (.remove id) (some info) none
  | swept (info) : Change now id (.removeAllOwnedBy info.owner) (some info) none
  | dangled (info connection abort grace) (wasLive : info.state = .live connection abort) :
      Change now id (.markDangling info.owner grace) (some info)
        (some { info with state := .dangling (now + grace) })
  | reaped (info expiresAt)
      (wasDangling : info.state = .dangling expiresAt) (due : expiresAt ≤ now) :
      Change now id .reapExpired (some info) none
  | resumed (info expiresAt order label connection) (wasDangling : info.state = .dangling expiresAt) :
      Change now id (.tryResume order label info.sessionId info.owner connection) (some info)
        (some { info with state := .live connection none })
  | handled (info connection abort newAbort) (wasLive : info.state = .live connection abort) :
      Change now id (.setTcpAbort id newAbort) (some info)
        (some { info with state := .live connection (some newAbort) })

theorem allocateTcp_tunnels (registry : TunnelRegistry) (allowlist : Option (List UInt16)) :
    (registry.allocateTcp allowlist).2.tunnels = registry.tunnels := by
  unfold TunnelRegistry.allocateTcp
  split <;> rfl

theorem allocateHttp_tunnels (registry : TunnelRegistry) (label : String) :
    (registry.allocateHttp label).2.tunnels = registry.tunnels := by
  unfold TunnelRegistry.allocateHttp
  split <;> rfl

theorem change_removed (now : Instant) (id asked : TunnelId) (registry : TunnelRegistry) :
    Change now asked (.remove id) (registry.tunnels.lookup asked)
      ((registry.remove id).tunnels.lookup asked) := by
  rw [TunnelRegistry.remove, lookup_removeLocked]
  by_cases same : asked = id
  · subst same
    rw [if_pos rfl]
    cases registry.tunnels.lookup asked with
    | none => exact .keep _ _
    | some info => exact .removed info
  · rw [if_neg same]
    exact .keep _ _

theorem change_swept (now : Instant) (asked : TunnelId) (owner : PubKey)
    (registry : TunnelRegistry) :
    Change now asked (.removeAllOwnedBy owner) (registry.tunnels.lookup asked)
      ((registry.removeAllOwnedBy owner).tunnels.lookup asked) := by
  rw [lookup_removeAllOwnedBy]
  cases registry.tunnels.lookup asked with
  | none => exact .keep _ _
  | some info =>
    by_cases owned : info.owner = owner
    · subst owned
      simpa [Option.filter] using (Change.swept info : Change now asked _ _ _)
    · simpa [Option.filter, owned] using
        (Change.keep (.removeAllOwnedBy owner) (some info) : Change now asked _ _ _)

theorem change_dangled (now : Instant) (asked : TunnelId) (owner : PubKey)
    (grace : Duration) (registry : TunnelRegistry) :
    Change now asked (.markDangling owner grace) (registry.tunnels.lookup asked)
      ((registry.markDangling owner grace now).tunnels.lookup asked) := by
  rw [lookup_markDangling]
  cases registry.tunnels.lookup asked with
  | none => exact .keep _ _
  | some info =>
    by_cases owned : info.owner = owner
    · subst owned
      cases state : info.state with
      | live conn abort =>
        simpa [TunnelRegistry.dangled, state, TunnelState.isDangling] using
          (Change.dangled info conn abort grace state : Change now asked _ _ _)
      | dangling =>
        simpa [TunnelRegistry.dangled, state, TunnelState.isDangling] using
          (Change.keep (.markDangling info.owner grace) (some info) : Change now asked _ _ _)
    · simpa [owned] using
        (Change.keep (.markDangling owner grace) (some info) : Change now asked _ _ _)

theorem change_reaped (now : Instant) (asked : TunnelId) (registry : TunnelRegistry) :
    Change now asked .reapExpired (registry.tunnels.lookup asked)
      ((registry.reapExpired now).2.tunnels.lookup asked) := by
  rw [lookup_reapExpired]
  cases registry.tunnels.lookup asked with
  | none => exact .keep _ _
  | some info =>
    cases state : info.state with
    | live =>
      simpa [Option.filter, TunnelRegistry.expired, state] using
        (Change.keep .reapExpired (some info) : Change now asked _ _ _)
    | dangling expiresAt =>
      by_cases due : expiresAt ≤ now
      · simpa [Option.filter, TunnelRegistry.expired, state, due] using
          (Change.reaped info expiresAt state due : Change now asked _ _ _)
      · simpa [Option.filter, TunnelRegistry.expired, state, due] using
          (Change.keep .reapExpired (some info) : Change now asked _ _ _)

theorem change_resumed (now : Instant) (asked : TunnelId) (order : List TunnelId)
    (label : String) (sessionId : SessionId) (pubkey : PubKey) (conn : Connection)
    (registry : TunnelRegistry) : Change now asked (.tryResume order label sessionId pubkey conn)
      (registry.tunnels.lookup asked)
      ((registry.tryResume order label sessionId pubkey conn).2.tunnels.lookup asked) := by
  rcases registry.tryResume_cases order label sessionId pubkey conn with
    same | same | ⟨id, info, expiresAt, found, state, session, owner, effect⟩
  · rw [same]
    exact .keep _ _
  · rw [same]
    exact .keep _ _
  · rw [effect]
    dsimp only
    rw [lookup_tableInsert]
    by_cases same : asked = id
    · subst same session owner
      rw [if_pos rfl, found]
      exact .resumed info expiresAt order label conn state
    · rw [if_neg same]
      exact .keep _ _

theorem change_handled (now : Instant) (id asked : TunnelId) (newAbort : AbortHandle)
    (registry : TunnelRegistry) :
    Change now asked (.setTcpAbort id newAbort) (registry.tunnels.lookup asked)
      ((registry.setTcpAbort id newAbort).tunnels.lookup asked) := by
  rw [lookup_setTcpAbort]
  cases registry.tunnels.lookup asked with
  | none => exact .keep _ _
  | some info =>
    cases state : info.state with
    | live conn abort =>
      by_cases same : asked = id
      · subst same
        simpa [state] using (Change.handled info conn abort newAbort state : Change now asked _ _ _)
      · simpa [state, same] using
          (Change.keep (.setTcpAbort id newAbort) (some info) : Change now asked _ _ _)
    | dangling =>
      simpa [state] using
        (Change.keep (.setTcpAbort id newAbort) (some info) : Change now asked _ _ _)

/-- The single inversion of the step function that every history argument uses. -/
theorem step_change {ledger next : Ledger} {event : Event} (stepped : ledger.step event = some next)
    (id : TunnelId) : Change ledger.now id event (ledger.registry.tunnels.lookup id)
      (next.registry.tunnels.lookup id) := by
  cases event with
  | tick =>
    cases stepped
    exact .keep _ _
  | allocateTcp allowlist =>
    have table := allocateTcp_tunnels ledger.registry allowlist
    simp only [step] at stepped
    split at stepped <;> rename_i result <;> cases stepped <;>
      · rw [result] at table
        dsimp only at table
        simp only [granted, table]
        exact .keep _ _
  | allocateHttp label =>
    have table := allocateHttp_tunnels ledger.registry label
    simp only [step] at stepped
    split at stepped <;> rename_i result <;> cases stepped <;>
      · rw [result] at table
        dsimp only at table
        simp only [granted, table]
        exact .keep _ _
  | insert alloc info =>
    simp only [step] at stepped
    split at stepped
    · rename_i guard
      cases stepped
      rw [lookup_insert]
      by_cases same : id = info.id
      · rw [if_pos same]
        exact .inserted alloc info _ same.symm guard.2
      · rw [if_neg same]
        exact .keep _ _
    · cases stepped
  | abandon =>
    simp only [step] at stepped
    split at stepped
    · cases stepped
      exact .keep _ _
    · cases stepped
  | remove =>
    cases stepped
    exact change_removed _ _ _ _
  | removeAllOwnedBy =>
    cases stepped
    exact change_swept _ _ _ _
  | markDangling =>
    cases stepped
    exact change_dangled _ _ _ _ _
  | reapExpired =>
    cases stepped
    exact change_reaped _ _ _
  | tryResume =>
    cases stepped
    exact change_resumed _ _ _ _ _ _ _ _
  | setTcpAbort =>
    cases stepped
    exact change_handled _ _ _ _ _

end Ledger
end KrotRelay.Source
