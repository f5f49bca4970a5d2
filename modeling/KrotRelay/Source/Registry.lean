import Mathlib.Algebra.Group.Nat.Defs
import Mathlib.Data.Finset.Basic
import Mathlib.Data.List.AList
import KrotRelay.Source.Wire

/-!
# Tunnel registry (krot-server/src/registry.rs)

One function per operation of `TunnelRegistry`, on the state its mutex guards. An
operation takes the lock once, so each function here is one atomic step of any
interleaving. `HashMap` is Mathlib's `AList` and `HashSet` is `Finset`; where the
source iterates over the map and the visiting order can matter (`try_resume`), the
order is an argument. `Instant::now()` is an argument too. `AbortHandle::abort` is
the only effect outside the guarded state and is recorded in `aborted`.
-/
namespace KrotRelay.Source

variable {K V : Type}

/-- A transport connection; clones share the identity. -/
structure Connection where
  handle : Nat
  deriving DecidableEq

/-- The abort handle of one spawned listener task. -/
structure AbortHandle where
  task : Nat
  deriving DecidableEq

/-- A bound listener behind its `Arc`; `localPort` is what `local_addr` reports. -/
structure TcpListener where
  socket : Nat
  localPort : UInt16
  deriving DecidableEq

/-- The shared `Arc<RateLimitState>` of an identity. -/
structure RateHandle where
  cell : Nat
  deriving DecidableEq

inductive ServerError where
  | io (detail : String)
  | transport (detail : String)
  | keys (detail : String)
  | adminToken (detail : String)
  | portPoolExhausted
  deriving DecidableEq

inductive RegisteredKind where
  | tcp (publicPort : UInt16)
  | http (label : String)
  deriving DecidableEq

inductive TunnelState where
  | live (connection : Connection) (abort : Option AbortHandle)
  | dangling (expiresAt : Instant)
  deriving DecidableEq

structure TunnelInfo where
  id : TunnelId
  owner : PubKey
  sessionId : SessionId
  kind : RegisteredKind
  state : TunnelState
  tcpListener : Option TcpListener
  rate : RateHandle
  inspect : Bool
  deriving DecidableEq

/-- `RangeInclusive<u16>`. -/
structure PortPool where
  first : UInt16
  last : UInt16
  deriving DecidableEq

/-- The ports of the pool, in the order its iterator yields them. -/
def PortPool.ports (pool : PortPool) : List UInt16 :=
  (List.range' pool.first.toNat (pool.last.toNat + 1 - pool.first.toNat)).map UInt16.ofNat

abbrev HashMap (K V : Type) := AList fun _ : K => V

/-- A hash map visits its keys in an order of its own: any permutation of them. -/
def HashMap.visitOrder {K V : Type} [DecidableEq K] (map : HashMap K V) (order : List K) : List K :=
  if order.isPerm map.keys then order else map.keys

theorem HashMap.mem_visitOrder [DecidableEq K] (map : HashMap K V) (order : List K) (key : K) :
    key ∈ HashMap.visitOrder map order ↔ (map.lookup key).isSome = true := by
  rw [AList.lookup_isSome, AList.mem_keys, visitOrder]
  split
  · rename_i permutation
    exact (List.isPerm_iff.mp permutation).mem_iff
  · exact Iff.rfl

/-- `HashMap::retain`. -/
def HashMap.retain {K V : Type} [DecidableEq K] (map : HashMap K V) (keep : K → V → Bool) :
    HashMap K V where
  entries := map.entries.filter fun entry => keep entry.1 entry.2
  nodupKeys := map.nodupKeys.sublist List.filter_sublist

theorem HashMap.lookup_retain [DecidableEq K] (map : HashMap K V) (keep : K → V → Bool) (key : K) :
    (HashMap.retain map keep).lookup key = (map.lookup key).filter (keep key) := by
  ext value
  rw [← Option.mem_def, AList.mem_lookup_iff, Option.filter_eq_some_iff, ← Option.mem_def,
    AList.mem_lookup_iff]
  exact List.mem_filter

structure TunnelRegistry where
  portPool : PortPool
  nextId : Nat
  usedPorts : Finset UInt16
  usedLabels : Finset String
  tunnels : HashMap TunnelId TunnelInfo
  labels : HashMap String TunnelId
  aborted : List AbortHandle

structure ResolvedTunnel where
  id : TunnelId
  connection : Connection
  rate : RateHandle
  inspect : Bool
  deriving DecidableEq

inductive ResumedInfo where
  | http (label : String)
  | tcp (publicPort : UInt16) (listener : TcpListener)
  deriving DecidableEq

inductive ResumeOutcome where
  | reattached (tunnelId : TunnelId) (info : ResumedInfo) (inspect : Bool)
  | unknown
  | identityMismatch
  deriving DecidableEq

def TunnelState.isDangling : TunnelState → Bool
  | .live _ _ => false
  | .dangling _ => true

def RegisteredKind.isTcp : RegisteredKind → Bool
  | .tcp _ => true
  | .http _ => false

def pickFreePort (pool : PortPool) (used : Finset UInt16) (allowlist : Option (List UInt16)) :
    Option UInt16 :=
  pool.ports.find? fun port =>
    if port ∈ used then false
    else
      match allowlist with
      | some list => list.contains port
      | none => true

namespace TunnelRegistry

def new (portPool : PortPool) : TunnelRegistry where
  portPool := portPool
  nextId := 1
  usedPorts := ∅
  usedLabels := ∅
  tunnels := ∅
  labels := ∅
  aborted := []

/-- `u64::checked_add(1)`, wrapping to 1 when the counter is at its maximum. -/
def freshId (registry : TunnelRegistry) : TunnelId × TunnelRegistry :=
  (⟨registry.nextId⟩, { registry with
      nextId := if registry.nextId + 1 < 2 ^ 64 then registry.nextId + 1 else 1 })

def allocateTcp (registry : TunnelRegistry) (allowlist : Option (List UInt16)) :
    Except ServerError (TunnelId × UInt16) × TunnelRegistry :=
  match pickFreePort registry.portPool registry.usedPorts allowlist with
  | none => (.error .portPoolExhausted, registry)
  | some port =>
    let (id, registry) := freshId { registry with usedPorts := insert port registry.usedPorts }
    (.ok (id, port), registry)

def allocateHttp (registry : TunnelRegistry) (label : String) :
    Except ServerError TunnelId × TunnelRegistry :=
  if label ∈ registry.usedLabels then (.error (.keys ("label taken: " ++ label)), registry)
  else
    let (id, registry) := freshId { registry with usedLabels := insert label registry.usedLabels }
    (.ok id, registry)

def insert (registry : TunnelRegistry) (info : TunnelInfo) : TunnelRegistry :=
  { registry with
    labels :=
      match info.kind with
      | .http label => registry.labels.insert label info.id
      | .tcp _ => registry.labels
    tunnels := registry.tunnels.insert info.id info }

def resolveLabel (registry : TunnelRegistry) (label : String) : Option ResolvedTunnel := do
  let id ← registry.labels.lookup label
  let info ← registry.tunnels.lookup id
  match info.state with
  | .live connection _ =>
    some { id, connection, rate := info.rate, inspect := info.inspect }
  | .dangling _ => none

/-- Fire the abort handle of a state that is being given up. -/
def abortTask (registry : TunnelRegistry) : TunnelState → TunnelRegistry
  | .live _ (some handle) => { registry with aborted := registry.aborted ++ [handle] }
  | _ => registry

def removeLocked (registry : TunnelRegistry) (id : TunnelId) : TunnelRegistry :=
  match registry.tunnels.lookup id with
  | none => registry
  | some info =>
    let registry := { registry with tunnels := registry.tunnels.erase id }
    let registry :=
      match info.kind with
      | .tcp publicPort => { registry with usedPorts := registry.usedPorts.erase publicPort }
      | .http label =>
        { registry with
          usedLabels := registry.usedLabels.erase label
          labels := registry.labels.erase label }
    registry.abortTask info.state

def remove (registry : TunnelRegistry) (id : TunnelId) : TunnelRegistry :=
  registry.removeLocked id

/-- The ids the source collects before it starts to modify the table. -/
def idsWhere (registry : TunnelRegistry) (select : TunnelInfo → Bool) : List TunnelId :=
  registry.tunnels.entries.filterMap fun entry => if select entry.2 then some entry.1 else none

def removeAllOwnedBy (registry : TunnelRegistry) (owner : PubKey) : TunnelRegistry :=
  (registry.idsWhere fun info => info.owner == owner).foldl removeLocked registry

/-- The loop body of `mark_dangling`: a tunnel already dangling keeps its deadline. -/
def dangle (expiresAt : Instant) (registry : TunnelRegistry) (id : TunnelId) : TunnelRegistry :=
  match registry.tunnels.lookup id with
  | none => registry
  | some info =>
    if info.state.isDangling then registry
    else
      let old := info.state
      let registry :=
        { registry with
          tunnels := registry.tunnels.insert id { info with state := .dangling expiresAt } }
      registry.abortTask old

def markDangling (registry : TunnelRegistry) (owner : PubKey) (grace : Duration) (now : Instant) :
    TunnelRegistry :=
  (registry.idsWhere fun info => info.owner == owner).foldl (dangle (now + grace)) registry

def expired (now : Instant) (info : TunnelInfo) : Bool :=
  match info.state with
  | .dangling expiresAt => expiresAt ≤ now
  | .live _ _ => false

def reapExpired (registry : TunnelRegistry) (now : Instant) : Nat × TunnelRegistry :=
  let ids := registry.idsWhere (expired now)
  (ids.length, ids.foldl removeLocked registry)

/-- The candidate of `try_resume`: the label's tunnel, else a dangling TCP tunnel of
the session, the first one the iteration meets. -/
def resumeCandidate (registry : TunnelRegistry) (order : List TunnelId) (label : String)
    (sessionId : SessionId) : Option TunnelId :=
  match registry.labels.lookup label with
  | some id => some id
  | none =>
    (HashMap.visitOrder registry.tunnels order).find? fun id =>
      match registry.tunnels.lookup id with
      | none => false
      | some info => info.sessionId == sessionId && info.state.isDangling && info.kind.isTcp

/-- What the caller is told about a tunnel whose state was just set to Live. A TCP
tunnel without a listener is reported as unknown although it is Live by then. -/
def reportResumed (id : TunnelId) (info : TunnelInfo) : ResumeOutcome :=
  match info.kind with
  | .http label => .reattached id (.http label) info.inspect
  | .tcp publicPort =>
    match info.tcpListener with
    | none => .unknown
    | some listener => .reattached id (.tcp publicPort listener) info.inspect

def tryResume (registry : TunnelRegistry) (order : List TunnelId) (label : String)
    (sessionId : SessionId) (pubkey : PubKey) (connection : Connection) :
    ResumeOutcome × TunnelRegistry :=
  match registry.resumeCandidate order label sessionId with
  | none => (.unknown, registry)
  | some id =>
    match registry.tunnels.lookup id with
    | none => (.unknown, registry)
    | some info =>
      if !info.state.isDangling then (.unknown, registry)
      else if info.sessionId ≠ sessionId then (.unknown, registry)
      else if info.owner ≠ pubkey then (.identityMismatch, registry)
      else
        (reportResumed id info, { registry with
            tunnels := registry.tunnels.insert id { info with state := .live connection none } })

def setTcpAbort (registry : TunnelRegistry) (id : TunnelId) (newAbort : AbortHandle) :
    TunnelRegistry :=
  match registry.tunnels.lookup id with
  | none => registry
  | some info =>
    match info.state with
    | .live connection _ =>
      { registry with
        tunnels := registry.tunnels.insert id
          { info with state := .live connection (some newAbort) } }
    | .dangling _ => registry

def countOwnedBy (registry : TunnelRegistry) (owner : PubKey) : Nat :=
  (registry.tunnels.entries.filter fun entry => entry.2.owner == owner).length

end TunnelRegistry

/-- `is_ascii_lowercase` or `is_ascii_digit`. -/
def isAlnum (byte : UInt8) : Bool :=
  (97 ≤ byte && byte ≤ 122) || (48 ≤ byte && byte ≤ 57)

/-- The §7.2 label grammar, over the UTF-8 bytes of the string. -/
def isValidLabel (label : String) : Bool :=
  if label == "admin" then false
  else
    let bytes := label.toUTF8.data.toList
    let len := bytes.length
    if !(1 ≤ len && len ≤ 63) then false
    else if !isAlnum (bytes.getD 0 0) || !isAlnum (bytes.getD (len - 1) 0) then false
    else if len < 3 then true
    else ((bytes.drop 1).take (len - 2)).all fun byte => isAlnum byte || byte == 45

end KrotRelay.Source
