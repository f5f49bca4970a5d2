import KrotRelay.Lib.Run
import KrotRelay.Source.Rates

/-!
# Concurrent charges (krot-server/src/rate.rs, `RateLimitState::charge`)

`charge` is not atomic: the roll-over holds the deadline's lock, `fetch_add` is one atomic
step, and the comparison works on the value it returned. Here any number of calls take
these steps in any order. What is added is kept beside the state, one list for each stretch
between two roll-overs; the state never reads it.
-/
namespace KrotRelay.Source

/-- One `fetch_add`: whose it was, how much it added, and what it returned. -/
structure Addition where
  call : Nat
  n : UInt64
  prev : UInt64
  deriving DecidableEq

/-- How far one call of `charge` has come. -/
inductive ChargeStage where
  | idle
  | rolled (n : UInt64)
  | added (prev n : UInt64)
  | returned (result : Charge)
  deriving DecidableEq

structure ConcurrentCharge where
  limit : RateLimitState
  cap : UInt64
  calls : Nat → ChargeStage
  /-- what was added before each roll-over, and since the last -/
  closed : List (List Addition)
  current : List Addition
  /-- when the counter was rolled over -/
  rollOvers : List Instant

inductive ChargeEvent where
  /-- the block under the lock, with the clock as it reads it -/
  | roll (call : Nat) (n : UInt64) (now : Instant)
  | add (call : Nat)
  | compare (call : Nat) (noticed : Instant)
  deriving DecidableEq

namespace ConcurrentCharge

/-- `from_entry` with a quota, before any charge. -/
def new (bw : Option RatePer) (quota : RatePer) (bwPartitions : Nat) (now : Instant) :
    ConcurrentCharge where
  limit := .fromEntry bw (some quota) bwPartitions now
  cap := quota.bytes
  calls := fun _ => .idle
  closed := []
  current := []
  rollOvers := []

def setCall (state : ConcurrentCharge) (call : Nat) (stage : ChargeStage) : ConcurrentCharge :=
  { state with calls := Function.update state.calls call stage }

def step (state : ConcurrentCharge) : ChargeEvent → Option ConcurrentCharge
  | .roll call n now =>
    match state.calls call with
    | .idle =>
      let calls := Function.update state.calls call (.rolled n)
      let limit := state.limit.rollOver now
      if state.limit.quotaResetAt ≤ now then
        some { state with
          limit := limit
          calls := calls
          closed := state.closed ++ [state.current]
          current := []
          rollOvers := state.rollOvers ++ [now] }
      else some { state with limit := limit, calls := calls }
    | _ => none
  | .add call =>
    match state.calls call with
    | .rolled n =>
      let prev := state.limit.quotaUsed
      some { state.setCall call (.added prev n) with
        limit := { state.limit with quotaUsed := prev + n }
        current := state.current ++ [⟨call, n, prev⟩] }
    | _ => none
  | .compare call noticed =>
    match state.calls call with
    | .added prev n =>
      let result : Charge :=
        if state.cap < prev + n then .quotaExceeded (state.limit.retryAfterMs noticed) else .ok
      some (state.setCall call (.returned result))
    | _ => none

/-- A call whose steps nothing comes between is a call of `charge`. -/
theorem run_alone (n : UInt64) (now noticed : Instant)
    (tunnelId : TunnelId) (idle : state.calls call = .idle)
    (capped : state.limit.quotaCap = some state.cap) :
    (Lib.run step state [.roll call n now, .add call, .compare call noticed]).map
        (fun last => (last.calls call, last.limit)) =
      some (.returned (state.limit.charge now noticed tunnelId n).1,
        (state.limit.charge now noticed tunnelId n).2.2) := by
  by_cases due : state.limit.quotaResetAt ≤ now <;>
    by_cases breach : state.cap < (state.limit.rollOver now).quotaUsed + n <;>
    simp [Lib.run, step, setCall, idle, due, RateLimitState.charge, capped, breach]

end ConcurrentCharge
end KrotRelay.Source
