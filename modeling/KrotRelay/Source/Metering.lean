import KrotRelay.Source.Rates
import KrotRelay.Source.ServerEffects

/-!
# The relay with its rate states (krot-server/src/server.rs, rate.rs)

`SharedState::rates` maps a key to an `Arc<RateLimitState>`; the relay of `Server` keeps
the handle and this layer the state behind it. A session start that finds no state for its
key creates one from its entry, and the data paths charge the states between any two steps
of the relay. `declared` only observes: the entry each key's state was created from.
-/
namespace KrotRelay.Source

variable {cell : RateLimitState} {change : RateLimitState → RateLimitState} {handle : RateHandle}
  {place : Nat}

structure MeteredServer where
  server : Server
  bwPartitions : Nat
  /-- the states behind the handles, by position -/
  cells : List RateLimitState
  declared : PubKey → Option AuthorizedEntry

namespace MeteredServer

inductive Event where
  | relay (event : Source.Event)
  /-- a data path charges a state -/
  | charge (handle : RateHandle) (noticed : Instant) (tunnelId : TunnelId) (n : UInt64)

def init (server : Server) (bwPartitions : Nat) : MeteredServer where
  server := server
  bwPartitions := bwPartitions
  cells := []
  declared := fun _ => none

/-- `ensure_rate_state`: `or_insert_with` on the entry of the key. -/
def ensureRateState (metered : MeteredServer) (pubkey : PubKey) (entry : AuthorizedEntry) :
    MeteredServer :=
  match metered.server.rates.lookup pubkey with
  | some _ => metered
  | none =>
    { metered with
      cells := metered.cells ++
        [.fromEntry entry.bw entry.quota metered.bwPartitions metered.server.now]
      declared := Function.update metered.declared pubkey (some entry) }

/-- The states after the start of a session, before its sender is attached. -/
def begun (metered : MeteredServer) (connection : Connection) (ok : HandshakeOk) : MeteredServer :=
  { metered.ensureRateState ok.pubkey ok.entry with
    server := metered.server.startSession connection ok }

def updateCell (metered : MeteredServer) (handle : RateHandle)
    (change : RateLimitState → RateLimitState) : MeteredServer :=
  { metered with cells := metered.cells.modify handle.cell change }

/-- What an event of the relay does to the states: a session start ensures and attaches,
the end of `handle_connection` detaches. -/
def around (metered : MeteredServer) : Source.Event → MeteredServer
  | .subscribe connection =>
    match metered.server.tasks connection with
    | .authenticated ok =>
      let rate := (metered.server.ensureRateState ok.pubkey).1
      (metered.ensureRateState ok.pubkey ok.entry).updateCell rate (·.attachCtrl connection)
    | _ => metered
  | .cleanup connection =>
    match metered.server.tasks connection with
    | .ended session _ => metered.updateCell session.rate (·.detachCtrl)
    | _ => metered
  | _ => metered

def step (metered : MeteredServer) : Event → Option MeteredServer
  | .relay event =>
    (metered.server.step event).map fun next => { metered.around event with server := next }
  | .charge handle noticed tunnelId n =>
    some (metered.updateCell handle fun cell =>
      (cell.charge metered.server.now noticed tunnelId n).2.2)

@[simp] theorem updateCell_server (metered : MeteredServer) (handle : RateHandle)
    (change : RateLimitState → RateLimitState) :
    (metered.updateCell handle change).server = metered.server := rfl

theorem updateCell_other {metered : MeteredServer} (differs : handle.cell ≠ place) :
    (metered.updateCell handle change).cells[place]? = metered.cells[place]? := by
  rw [updateCell, List.getElem?_modify]
  simp [differs]

theorem updateCell_own {metered : MeteredServer} (found : metered.cells[handle.cell]? = some cell) :
    (metered.updateCell handle change).cells[handle.cell]? = some (change cell) := by
  rw [updateCell, List.getElem?_modify, found]
  simp

/-- A new state goes behind those there are. -/
theorem ensureRateState_cell {metered : MeteredServer} (found : metered.cells[place]? = some cell)
    (pubkey : PubKey) (entry : AuthorizedEntry) :
    (metered.ensureRateState pubkey entry).cells[place]? = some cell := by
  unfold ensureRateState
  split
  · exact found
  · rw [List.getElem?_append_left (List.getElem?_eq_some_iff.mp found).1]
    exact found

end MeteredServer
end KrotRelay.Source
