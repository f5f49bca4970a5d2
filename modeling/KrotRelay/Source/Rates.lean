import KrotRelay.Source.Keys

/-!
# Per-identity rate limits (krot-server/src/rate.rs)

`RateLimitState` as its lock and atomics leave it between calls. A bandwidth bucket of
`governor` is represented by the rate it was built with: waiting for tokens delays a copy
and changes nothing else. Clock readings are arguments. The metrics counter is left out.
-/
namespace KrotRelay.Source
open Option

namespace Period

def asSecs : Period → Nat
  | .second => 1
  | .minute => 60
  | .hour => 60 * 60
  | .day => 24 * 60 * 60
  | .week => 7 * 24 * 60 * 60
  | .month => 30 * 24 * 60 * 60

def asDuration (period : Period) : Duration :=
  period.asSecs * 1000000000

end Period

/-- `u64::div_ceil`. -/
def divCeil (bytes secs : UInt64) : UInt64 :=
  if bytes % secs = 0 then bytes / secs else bytes / secs + 1

def RatePer.asBytesPerSecond (rate : RatePer) : UInt64 :=
  let secs := max (UInt64.ofNat rate.period.asSecs) 1
  divCeil rate.bytes secs

inductive Charge where
  | ok
  | quotaExceeded (retryAfterMs : UInt32)
  deriving DecidableEq

structure RateLimitState where
  /-- the per-second rate of each worker's bucket -/
  bw : Option (List UInt32)
  quotaCap : Option UInt64
  quotaPeriod : Period
  quotaUsed : UInt64
  quotaResetAt : Instant
  /-- the session whose control loop forwards the notices -/
  ctrlTx : Option Connection
  deriving DecidableEq

namespace RateLimitState

/-- The buckets `from_entry_with_metrics` builds, one for each worker. -/
def bucketsOf (bwPartitions : Nat) (bw : Option RatePer) : Option (List UInt32) :=
  let partitions := max bwPartitions 1
  bw.bind fun rate =>
    let totalBps := min rate.asBytesPerSecond 4294967295
    let perCoreBps := (max (totalBps / UInt64.ofNat partitions) 1).toUInt32
    if perCoreBps = 0 then none else some (List.replicate partitions perCoreBps)

def fromEntry (bw quota : Option RatePer) (bwPartitions : Nat) (now : Instant) : RateLimitState :=
  let (quotaCap, quotaPeriod) : Option UInt64 × Period :=
    match quota with
    | some rate => (some rate.bytes, rate.period)
    | none => (none, .month)
  { bw := bucketsOf bwPartitions bw
    quotaCap := quotaCap
    quotaPeriod := quotaPeriod
    quotaUsed := 0
    quotaResetAt := now + quotaPeriod.asDuration
    ctrlTx := none }

def attachCtrl (state : RateLimitState) (connection : Connection) : RateLimitState :=
  { state with ctrlTx := some connection }

def detachCtrl (state : RateLimitState) : RateLimitState :=
  { state with ctrlTx := none }

/-- The roll-over at the head of `charge`, under the deadline's lock. -/
def rollOver (state : RateLimitState) (now : Instant) : RateLimitState :=
  if state.quotaResetAt ≤ now then
    { state with quotaUsed := 0, quotaResetAt := now + state.quotaPeriod.asDuration }
  else state

def retryAfterMs (state : RateLimitState) (now : Instant) : UInt32 :=
  UInt32.ofNat (min ((state.quotaResetAt - now) / 1000000) 4294967295)

/-- `charge`, with the notice it queues. `noticed` is the clock when the breach is reported. -/
def charge (state : RateLimitState) (now noticed : Instant) (tunnelId : TunnelId) (n : UInt64) :
    Charge × Option (Connection × ServerFrame) × RateLimitState :=
  match state.quotaCap with
  | none => (.ok, none, state)
  | some cap =>
    let state := state.rollOver now
    let prev := state.quotaUsed
    let state := { state with quotaUsed := prev + n }
    if cap < prev + n then
      let retry := state.retryAfterMs noticed
      (.quotaExceeded retry,
        state.ctrlTx.map fun session => (session, .rateLimit (some tunnelId) retry), state)
    else (.ok, none, state)

/-- What a state enforces, whatever was charged so far. -/
def limits (state : RateLimitState) : Option (List UInt32) × Option UInt64 × Period :=
  (state.bw, state.quotaCap, state.quotaPeriod)

@[simp] theorem rollOver_limits (state : RateLimitState) (now : Instant) :
    (state.rollOver now).limits = state.limits := by
  unfold rollOver
  split <;> rfl

@[simp] theorem charge_limits (state : RateLimitState) (now noticed : Instant)
    (tunnelId : TunnelId) (n : UInt64) :
    (state.charge now noticed tunnelId n).2.2.limits = state.limits := by
  unfold charge
  split
  · rfl
  · dsimp only
    split <;> exact rollOver_limits state now

@[simp] theorem rollOver_ctrlTx (state : RateLimitState) (now : Instant) :
    (state.rollOver now).ctrlTx = state.ctrlTx := by
  unfold rollOver
  split <;> rfl

@[simp] theorem charge_ctrlTx (state : RateLimitState) (now noticed : Instant)
    (tunnelId : TunnelId) (n : UInt64) :
    (state.charge now noticed tunnelId n).2.2.ctrlTx = state.ctrlTx := by
  unfold charge
  split
  · rfl
  · dsimp only
    split <;> exact rollOver_ctrlTx state now

/-- A charge over the quota has a notice for whoever is attached. -/
theorem charge_notice (state : RateLimitState) (now noticed : Instant) (tunnelId : TunnelId)
    (n : UInt64) (retry : UInt32)
    (exceeded : (state.charge now noticed tunnelId n).1 = .quotaExceeded retry) :
    (state.charge now noticed tunnelId n).2.1 =
      state.ctrlTx.map fun session => (session, .rateLimit (some tunnelId) retry) := by
  unfold charge at exceeded ⊢
  split at exceeded
  · cases exceeded
  · dsimp only at exceeded ⊢
    split at exceeded
    · rename_i exceeds
      cases exceeded
      rw [if_pos exceeds, rollOver_ctrlTx]
    · cases exceeded

/-- A charge within the quota has none. -/
theorem charge_ok_notice (state : RateLimitState) (now noticed : Instant) (tunnelId : TunnelId)
    (n : UInt64) (within : (state.charge now noticed tunnelId n).1 = .ok) :
    (state.charge now noticed tunnelId n).2.1 = none := by
  unfold charge at within ⊢
  split at within
  · rfl
  · dsimp only at within ⊢
    split at within
    · cases within
    · rename_i under
      rw [if_neg under]

/-- The limits an entry declares. -/
def limitsOf (bwPartitions : Nat) (bw quota : Option RatePer) :
    Option (List UInt32) × Option UInt64 × Period :=
  (bucketsOf bwPartitions bw, quota.map RatePer.bytes, (quota.map RatePer.period).getD .month)

theorem fromEntry_limits (bw quota : Option RatePer) (bwPartitions : Nat) (now : Instant) :
    (fromEntry bw quota bwPartitions now).limits = limitsOf bwPartitions bw quota := by
  cases quota <;> simp only [fromEntry, limits, limitsOf, map_some, map_none, getD_some, getD_none]

end RateLimitState
end KrotRelay.Source
