import Mathlib.Algebra.BigOperators.Group.List.Basic
import Mathlib.Algebra.Order.Ring.Nat
import KrotRelay.Source.ConcurrentCharge

/-!
# What the limits of an identity bound

The quota holds whatever the schedule of the charges: every addition finds in the counter
the sum of those before it since the last roll-over, so the accepted ones fit the cap and
nothing is accepted behind a refused one. The bandwidth of the buckets is compared with the
declared rate in whole numbers.
-/
namespace KrotRelay.Guarantees
open Source Lib List

/-! ## The quota -/

/-- The bytes of some additions. -/
def addedBytes (additions : List Addition) : Nat := (additions.map (·.n.toNat)).sum

/-- The comparison behind this addition refuses the charge. -/
def Breaches (cap : UInt64) (addition : Addition) : Bool := cap < addition.prev + addition.n

def acceptedOf (cap : UInt64) (additions : List Addition) : List Addition :=
  additions.filter fun addition => !Breaches cap addition

/-- Every addition found the sum of the ones before it. -/
def Counted (additions : List Addition) : Prop :=
  ∀ front addition back, additions = front ++ addition :: back →
    addition.prev.toNat = addedBytes front

variable {additions front back : List Addition} {addition : Addition} {cap : UInt64}

@[simp] theorem addedBytes_append (front back : List Addition) :
    addedBytes (front ++ back) = addedBytes front + addedBytes back := by
  simp [addedBytes]

theorem addedBytes_filter_le {p q : Addition → Bool}
    (implied : ∀ addition ∈ additions, p addition = true → q addition = true) :
    addedBytes (additions.filter p) ≤ addedBytes (additions.filter q) := by
  induction additions with
  | nil => exact le_rfl
  | cons addition rest ih =>
    have tail := ih fun later mem => implied later (mem_cons_of_mem _ mem)
    have head := implied addition mem_cons_self
    rw [filter_cons, filter_cons]
    split_ifs <;> simp_all [addedBytes]
    omega

theorem Counted.concat (counted : Counted additions)
    (found : addition.prev.toNat = addedBytes additions) : Counted (additions ++ [addition]) := by
  intro front last back whole
  rcases eq_nil_or_concat back with rfl | ⟨back, other, rfl⟩
  · obtain ⟨rfl, same⟩ := append_inj' whole rfl
    cases same
    exact found
  · rw [concat_eq_append, ← cons_append, ← append_assoc] at whole
    exact counted front last back (append_inj' whole rfl).1

/-- Within one stretch whose bytes fit the counter, an addition is refused exactly when it
brings the sum above the cap. -/
theorem Counted.refused_iff (counted : Counted additions) (small : addedBytes additions < 2 ^ 64)
    (whole : additions = front ++ addition :: back) :
    Breaches cap addition = true ↔ cap.toNat < addedBytes (front ++ [addition]) := by
  have found := counted front addition back whole
  have sum : addedBytes (front ++ [addition]) = addedBytes front + addition.n.toNat := by
    simp [addedBytes]
  have fits : addition.prev.toNat + addition.n.toNat < 2 ^ 64 := by
    have : addedBytes additions = addedBytes front + (addition.n.toNat + addedBytes back) := by
      rw [whole, addedBytes_append]
      simp [addedBytes]
    omega
  rw [Breaches, decide_eq_true_iff, UInt64.lt_iff_toNat_lt, UInt64.toNat_add,
    Nat.mod_eq_of_lt fits, sum, found]

theorem Counted.accepted_le (counted : Counted additions) (small : addedBytes additions < 2 ^ 64) :
    addedBytes (acceptedOf cap additions) ≤ cap.toNat := by
  -- the sum of what is accepted is at most the whole sum up to the last accepted addition
  have upTo : ∀ front back, additions = front ++ back →
      addedBytes (acceptedOf cap front) ≤ min cap.toNat (addedBytes front) := by
    intro front
    induction front using List.reverseRecOn with
    | nil => simp [acceptedOf, addedBytes]
    | append_singleton front addition ih =>
      intro back whole
      rw [append_assoc] at whole
      have before := ih _ whole
      have sum : addedBytes (front ++ [addition]) = addedBytes front + addition.n.toNat := by
        simp [addedBytes]
      have verdict : Breaches cap addition = true ↔ _ := counted.refused_iff small whole
      rw [acceptedOf, filter_append, addedBytes_append]
      change addedBytes (acceptedOf cap front) + _ ≤ _
      cases refused : Breaches cap addition with
      | true =>
        simp only [filter_singleton, refused]
        simp [addedBytes] at *
        omega
      | false =>
        rw [refused] at verdict
        simp only [filter_singleton, refused]
        simp [addedBytes] at *
        omega
  have all := upTo additions [] (by simp)
  omega

/-- Nothing is accepted behind a refused addition. -/
theorem Counted.refused_after (counted : Counted additions) (small : addedBytes additions < 2 ^ 64)
    {middle : List Addition} {first second : Addition}
    (whole : additions = front ++ first :: (middle ++ second :: back))
    (refused : Breaches cap first = true) : Breaches cap second = true := by
  have exceeds := (counted.refused_iff small whole).mp refused
  have whole' : additions = (front ++ first :: middle) ++ second :: back := by simp [whole]
  refine (counted.refused_iff small whole').mpr ?_
  simp only [addedBytes, map_append, map_cons, sum_append, sum_cons] at exceeds ⊢
  omega

/-- The stretches between roll-overs, the open one last. -/
def stretches (state : ConcurrentCharge) : List (List Addition) :=
  state.closed ++ [state.current]

/-- The result of a charge is the verdict on its addition. -/
def AnswersTo (cap : UInt64) (stage : ChargeStage) (addition : Addition) : Prop :=
  stage = .added addition.prev addition.n ∨
    ∃ result, stage = .returned result ∧ (result = .ok ↔ Breaches cap addition = false)

/-- The counter is the sum of the open stretch, and the deadline a period behind every
roll-over. -/
structure Charging (cap : UInt64) (period : Period) (state : ConcurrentCharge) : Prop where
  sameCap : state.cap = cap
  samePeriod : state.limit.quotaPeriod = period
  used : addedBytes state.current < 2 ^ 64 → state.limit.quotaUsed.toNat = addedBytes state.current
  counted : ∀ stretch ∈ stretches state, addedBytes stretch < 2 ^ 64 → Counted stretch
  answers : ∀ stretch ∈ stretches state, ∀ addition ∈ stretch,
    AnswersTo cap (state.calls addition.call) addition
  paired : state.closed.length = state.rollOvers.length
  apart : state.rollOvers.Pairwise fun earlier later => earlier + period.asDuration ≤ later
  due : ∀ time ∈ state.rollOvers, time + period.asDuration ≤ state.limit.quotaResetAt

namespace Charging
variable {period : Period} {state next : ConcurrentCharge} {call : Nat}

theorem new (bw : Option RatePer) (quota : RatePer) (bwPartitions : Nat) (now : Instant) :
    Charging quota.bytes quota.period (.new bw quota bwPartitions now) where
  sameCap := rfl
  samePeriod := rfl
  used := fun _ => rfl
  counted := by
    intro stretch mem _ front addition back whole
    rw [mem_singleton.mp mem] at whole
    cases front <;> cases whole
  answers := by
    intro stretch mem addition added
    rw [mem_singleton.mp mem] at added
    cases added
  paired := rfl
  apart := .nil
  due := nofun

/-- A call that has added nothing moves; what the others answer stays. -/
theorem answers_update (held : Charging cap period state) (call : Nat) (stage : ChargeStage)
    (fresh : ∀ addition, ¬ AnswersTo cap (state.calls call) addition) :
    ∀ stretch ∈ stretches state, ∀ addition ∈ stretch,
      AnswersTo cap (Function.update state.calls call stage addition.call) addition := by
  intro stretch mem addition added
  have answers := held.answers stretch mem addition added
  rw [Function.update_of_ne]
  · exact answers
  · intro same
    exact fresh addition (same ▸ answers)

theorem roll (held : Charging cap period state) {n : UInt64} {now : Instant}
    (step : state.step (.roll call n now) = some next) : Charging cap period next := by
  simp only [ConcurrentCharge.step] at step
  split at step
  · rename_i idle
    have answers := held.answers_update call (.rolled n)
      (by rintro addition (isAdded | ⟨_, isReturned, _⟩) <;> simp_all)
    split at step <;> rename_i isDue <;> cases step
    · -- the open stretch is closed and the counter starts again
      have rolled : state.limit.rollOver now = { state.limit with
          quotaUsed := 0, quotaResetAt := now + state.limit.quotaPeriod.asDuration } := if_pos isDue
      refine ⟨held.sameCap, ?_, fun _ => ?_, ?_, ?_, ?_, ?_, ?_⟩
      · rw [rolled]
        exact held.samePeriod
      · rw [rolled]
        rfl
      · intro stretch mem small
        rcases mem_append.mp mem with old | new
        · exact held.counted stretch old small
        · intro front addition back whole
          rw [mem_singleton.mp new] at whole
          cases front <;> cases whole
      · intro stretch mem addition added
        rcases mem_append.mp mem with old | new
        · exact answers stretch old addition added
        · rw [mem_singleton.mp new] at added
          cases added
      · simp [held.paired]
      · refine pairwise_append.mpr ⟨held.apart, pairwise_singleton _ _, ?_⟩
        intro earlier mem later here
        rw [mem_singleton.mp here]
        exact (held.due earlier mem).trans isDue
      · intro time mem
        rw [rolled, ← held.samePeriod]
        rcases mem_append.mp mem with old | new
        · have before := (held.due time old).trans isDue
          rw [← held.samePeriod] at before
          exact before.trans (Nat.le_add_right _ _)
        · rw [mem_singleton.mp new]
    · have same : state.limit.rollOver now = state.limit := if_neg isDue
      rw [same]
      exact ⟨held.sameCap, held.samePeriod, held.used, held.counted, answers, held.paired,
        held.apart, held.due⟩
  · cases step

theorem add (held : Charging cap period state)
    (step : state.step (.add call) = some next) : Charging cap period next := by
  simp only [ConcurrentCharge.step] at step
  split at step
  · rename_i n rolled
    cases step
    have answers := held.answers_update call (.added state.limit.quotaUsed n)
      (by rintro addition (isAdded | ⟨_, isReturned, _⟩) <;> simp_all)
    refine ⟨held.sameCap, held.samePeriod, fun small => ?_, ?_, ?_, held.paired, held.apart,
      held.due⟩
    · have before : addedBytes state.current + n.toNat < 2 ^ 64 := by
        simpa [addedBytes] using small
      have used := held.used (by omega)
      simp only [addedBytes_append]
      rw [UInt64.toNat_add, used, Nat.mod_eq_of_lt before]
      simp [addedBytes]
    · intro stretch mem small
      rcases mem_append.mp mem with old | new
      · exact held.counted stretch (mem_append_left _ old) small
      · rw [mem_singleton.mp new] at small ⊢
        rw [addedBytes_append] at small
        have before : addedBytes state.current < 2 ^ 64 := by omega
        exact (held.counted _ (by simp [stretches]) before).concat (held.used before)
    · intro stretch mem addition added
      rcases mem_append.mp mem with old | new
      · exact answers stretch (mem_append_left _ old) addition added
      · rw [mem_singleton.mp new] at added
        rcases mem_append.mp added with before | here
        · exact answers _ (by simp [stretches]) addition before
        · rw [mem_singleton.mp here]
          exact .inl (Function.update_self ..)
  · cases step

theorem compare (held : Charging cap period state) {noticed : Instant}
    (step : state.step (.compare call noticed) = some next) : Charging cap period next := by
  simp only [ConcurrentCharge.step] at step
  split at step
  · rename_i prev n added
    cases step
    refine ⟨held.sameCap, held.samePeriod, held.used, held.counted, ?_, held.paired, held.apart,
      held.due⟩
    intro stretch mem addition counted
    have answers := held.answers stretch mem addition counted
    dsimp only [ConcurrentCharge.setCall]
    by_cases own : addition.call = call
    · rw [own] at answers ⊢
      rw [Function.update_self]
      rcases answers with here | ⟨result, returned, _⟩
      · rw [added] at here
        cases here
        refine .inr ⟨_, rfl, ?_⟩
        rw [held.sameCap, Breaches]
        split <;> simp_all
      · rw [added] at returned
        cases returned
    · rw [Function.update_of_ne own]
      exact answers
  · cases step

end Charging

/-- What the quota promises, whatever the schedule. -/
structure QuotaSafe (quota : RatePer) (state : ConcurrentCharge) : Prop where
  /-- a stretch for each roll-over, and the open one -/
  paired : state.closed.length = state.rollOvers.length
  within : ∀ stretch ∈ stretches state,
    addedBytes (stretch.filter fun addition => state.calls addition.call = .returned .ok) ≤
      quota.bytes.toNat
  apart : state.rollOvers.Pairwise fun earlier later =>
    earlier + quota.period.asDuration ≤ later
  verdict : ∀ stretch ∈ stretches state, ∀ addition ∈ stretch, ∀ result,
    state.calls addition.call = .returned result →
      (result = .ok ↔ Breaches quota.bytes addition = false)
  refusedAfter : ∀ stretch ∈ stretches state, ∀ front first middle second back,
    stretch = front ++ first :: (middle ++ second :: back) →
      Breaches quota.bytes first = true → Breaches quota.bytes second = true

/-- Any number of charges in any order of their steps: between two roll-overs, which are at
least a period apart, what is accepted fits the quota, and nothing is accepted behind an
addition that is refused. -/
theorem quota_safe (bw : Option RatePer) (quota : RatePer) (bwPartitions : Nat) (now : Instant)
    (events : List ChargeEvent) (state : ConcurrentCharge)
    (finished : run ConcurrentCharge.step (.new bw quota bwPartitions now) events = some state)
    (few : ∀ stretch ∈ stretches state, addedBytes stretch < 2 ^ 64) : QuotaSafe quota state := by
  have held : Charging quota.bytes quota.period state := by
    refine run_invariant _ ?_ (.new bw quota bwPartitions now) finished
    intro state event next held stepped
    cases event with
    | roll => exact held.roll stepped
    | add => exact held.add stepped
    | compare => exact held.compare stepped
  have verdict : ∀ stretch ∈ stretches state, ∀ addition ∈ stretch, ∀ result,
      state.calls addition.call = .returned result →
        (result = .ok ↔ Breaches quota.bytes addition = false) := by
    intro stretch member addition added result returned
    rcases held.answers stretch member addition added with pending | ⟨other, same, agrees⟩
    · rw [returned] at pending
      cases pending
    · rw [returned] at same
      cases same
      exact agrees
  refine ⟨held.paired, fun stretch member => ?_, held.apart, verdict, ?_⟩
  · have counted := held.counted stretch member (few stretch member)
    refine le_trans (addedBytes_filter_le fun addition added returned => ?_)
      (counted.accepted_le (few stretch member))
    have accepted := (verdict stretch member addition added .ok (of_decide_eq_true returned)).mp rfl
    simp [accepted]
  · intro stretch member front first middle second back whole refused
    exact (held.counted stretch member (few stretch member)).refused_after (few stretch member)
      whole refused

/-- Ten bytes a second; two charges of six overlap, a third comes a second later. -/
def tenASecond : RatePer := ⟨10, .second⟩

def overlapping : List ChargeEvent :=
  [.roll 0 6 0, .roll 1 6 0, .add 1, .add 0, .compare 0 1, .compare 1 1,
    .roll 2 6 1000000001, .add 2, .compare 2 1000000002]

theorem quota_safe_overlapping :
    ∃ state, run ConcurrentCharge.step (.new none tenASecond 1 0) overlapping = some state ∧
      state.calls 0 = .returned (.quotaExceeded 999) ∧ state.calls 1 = .returned .ok ∧
      state.calls 2 = .returned .ok ∧ QuotaSafe tenASecond state := by
  refine ⟨final ConcurrentCharge.step (.new none tenASecond 1 0) overlapping, ?_, ?_, ?_, ?_,
    quota_safe none tenASecond 1 0 overlapping _ (run_final ?_) ?_⟩
  · exact run_final (by decide +kernel)
  all_goals decide +kernel

/-! ## The bandwidth -/

/-- No cast changes a value, and no divisor is zero. -/
structure ExactRates (rate : RatePer) (partitions : UInt64) : Prop where
  secs : (UInt64.ofNat rate.period.asSecs).toNat = rate.period.asSecs
  divisor : max (UInt64.ofNat rate.period.asSecs) 1 ≠ 0
  perSecond : rate.asBytesPerSecond.toNat =
    (rate.bytes.toNat + rate.period.asSecs - 1) / rate.period.asSecs
  workers : (UInt64.ofNat (max partitions.toNat 1)).toNat = max partitions.toNat 1 ∧
    UInt64.ofNat (max partitions.toNat 1) ≠ 0
  perCore : (max (min rate.asBytesPerSecond 4294967295 /
      UInt64.ofNat (max partitions.toNat 1)) 1).toUInt32.toNat =
    max (min ((rate.bytes.toNat + rate.period.asSecs - 1) / rate.period.asSecs) 4294967295 /
      max partitions.toNat 1) 1

/-- The buckets together stay within the declared rate. -/
def CapRespected (rate : RatePer) (buckets : List UInt32) : Prop :=
  (buckets.map UInt32.toNat).sum * rate.period.asSecs ≤ rate.bytes.toNat

/-- The rounding up is undone: the workers are not more than the whole bytes a second, and
the rate is a whole number, is clamped, or does not divide evenly among them. -/
def RoundsDown (rate : RatePer) (workers : Nat) : Prop :=
  let whole := rate.bytes.toNat / rate.period.asSecs
  workers ≤ whole ∧
    (rate.period.asSecs ∣ rate.bytes.toNat ∨ 4294967295 ≤ whole ∨ ¬ workers ∣ whole + 1)

theorem ceil_eq {bytes secs : Nat} (some_ : 0 < secs) :
    (bytes + secs - 1) / secs = if secs ∣ bytes then bytes / secs else bytes / secs + 1 := by
  have whole := Nat.div_add_mod' bytes secs
  have short := Nat.mod_lt bytes some_
  split
  · rename_i divides
    have none := Nat.mod_eq_zero_of_dvd divides
    refine Nat.div_eq_of_lt_le (by omega) ?_
    rw [Nat.succ_mul]
    omega
  · rename_i rest
    have some_ : bytes % secs ≠ 0 := fun none => rest (Nat.dvd_of_mod_eq_zero none)
    refine Nat.div_eq_of_lt_le ?_ ?_ <;> rw [Nat.succ_mul]
    · omega
    · rw [Nat.succ_mul]
      omega

/-- The arithmetic of `from_entry_with_metrics`, in natural numbers. -/
theorem rounds_down_iff {bytes secs workers : Nat} (some_ : 0 < secs) (one : 0 < workers) :
    workers * max (min ((bytes + secs - 1) / secs) 4294967295 / workers) 1 * secs ≤ bytes ↔
      workers ≤ bytes / secs ∧
        (secs ∣ bytes ∨ 4294967295 ≤ bytes / secs ∨ ¬ workers ∣ bytes / secs + 1) := by
  rw [← Nat.le_div_iff_mul_le some_, ceil_eq some_]
  generalize bytes / secs = whole
  generalize total : min (if secs ∣ bytes then whole else whole + 1) 4294967295 = rate
  rcases Nat.lt_or_ge rate workers with fewer | enough
  · -- one byte a second for each worker
    rw [Nat.div_eq_of_lt fewer, Nat.max_eq_right (Nat.zero_le 1), Nat.mul_one]
    refine ⟨fun within => ⟨within, ?_⟩, And.left⟩
    split at total <;> omega
  · have each : 1 ≤ rate / workers := (Nat.one_le_div_iff one).mpr enough
    have shared := Nat.div_add_mod rate workers
    have most : workers ≤ workers * (rate / workers) := Nat.le_mul_of_pos_right _ each
    have evenly : workers ∣ rate ↔ rate % workers = 0 := Nat.dvd_iff_mod_eq_zero
    rw [Nat.max_eq_left each]
    split at total
    · rename_i divides
      exact iff_of_true (by omega) ⟨by omega, .inl divides⟩
    · rename_i rest
      by_cases clamped : 4294967295 ≤ whole
      · exact iff_of_true (by omega) ⟨by omega, .inr (.inl clamped)⟩
      · obtain rfl : rate = whole + 1 := by omega
        simp only [rest, clamped, false_or, evenly]
        omega

private theorem toNat_max (a b : UInt64) : (max a b).toNat = max a.toNat b.toNat := by
  show (if a ≤ b then b else a).toNat = _
  split <;> rename_i order <;> rw [UInt64.le_iff_toNat_le] at order <;> omega

private theorem toNat_min (a b : UInt64) : (min a b).toNat = min a.toNat b.toNat := by
  show (if a ≤ b then a else b).toNat = _
  split <;> rename_i order <;> rw [UInt64.le_iff_toNat_le] at order <;> omega

theorem asBytesPerSecond_toNat (rate : RatePer) : rate.asBytesPerSecond.toNat =
      (rate.bytes.toNat + rate.period.asSecs - 1) / rate.period.asSecs := by
  have secs : (max (UInt64.ofNat rate.period.asSecs) 1).toNat = rate.period.asSecs := by
    cases rate.period <;> rfl
  have some_ : 0 < rate.period.asSecs := by cases rate.period <;> decide
  rw [ceil_eq some_, RatePer.asBytesPerSecond, divCeil]
  simp only [← UInt64.toNat_inj, UInt64.toNat_mod, secs, UInt64.toNat_zero,
    ← Nat.dvd_iff_mod_eq_zero]
  split
  · rw [UInt64.toNat_div, secs]
  · rename_i rest
    -- what is left over makes the quotient smaller than the number of bytes
    have less : rate.bytes.toNat / rate.period.asSecs < rate.bytes.toNat := by
      refine Nat.div_lt_self ?_ ?_
      · exact Nat.pos_of_ne_zero fun zero => rest (by simp [zero])
      · exact Nat.one_lt_iff_ne_zero_and_ne_one.mpr ⟨some_.ne', fun one => rest (by simp [one])⟩
    have bound := rate.bytes.toNat_lt
    rw [UInt64.toNat_add, UInt64.toNat_div, secs, UInt64.toNat_one, Nat.mod_eq_of_lt (by omega)]

theorem exactRates (rate : RatePer) (partitions : UInt64) : ExactRates rate partitions := by
  have workers : (UInt64.ofNat (max partitions.toNat 1)).toNat = max partitions.toNat 1 := by
    have := partitions.toNat_lt
    exact UInt64.toNat_ofNat_of_lt' (show max partitions.toNat 1 < 2 ^ 64 by omega)
  refine ⟨?_, ?_, asBytesPerSecond_toNat rate, ⟨workers, ?_⟩, ?_⟩
  · cases rate.period <;> rfl
  · cases rate.period <;> decide
  · intro zero
    rw [zero] at workers
    simp at workers
    omega
  · have small : min ((rate.bytes.toNat + rate.period.asSecs - 1) / rate.period.asSecs) 4294967295 /
        max partitions.toNat 1 ≤ 4294967295 :=
      (Nat.div_le_self _ _).trans (Nat.min_le_right _ _)
    rw [UInt64.toNat_toUInt32, toNat_max, UInt64.toNat_div, toNat_min, workers,
      asBytesPerSecond_toNat]
    exact Nat.mod_eq_of_lt (by simp; omega)

/-- Every number in the computation is the one that is meant, and the buckets of an identity
stay within its declared bandwidth exactly when the two divisions lose at least as much as
the rounding up has added. -/
theorem bandwidth_cap_iff (rate : RatePer) (partitions : UInt64) : ExactRates rate partitions ∧
    ∃ buckets, RateLimitState.bucketsOf partitions.toNat (some rate) = some buckets ∧
      buckets.length = max partitions.toNat 1 ∧
      (CapRespected rate buckets ↔ RoundsDown rate (max partitions.toNat 1)) := by
  have exact_ := exactRates rate partitions
  have perCore := exact_.perCore
  have secs : 0 < rate.period.asSecs := by cases rate.period <;> decide
  refine ⟨exact_, List.replicate (max partitions.toNat 1) _, if_neg ?_, length_replicate, ?_⟩
  · intro zero
    rw [zero] at perCore
    simp at perCore
    omega
  · rw [CapRespected, map_replicate, sum_replicate_nat, perCore]
    exact rounds_down_iff secs (by omega)

/-- A million bytes a minute are rounded up to 16667 bytes a second. -/
def millionAMinute : RatePer := ⟨1000000, .minute⟩

theorem rounded_rate_exceeds_cap :
    ∃ buckets, RateLimitState.bucketsOf 1 (some millionAMinute) = some buckets ∧
      ¬ CapRespected millionAMinute buckets := by
  refine ⟨[16667], by decide +kernel, ?_⟩
  unfold CapRespected
  decide

end KrotRelay.Guarantees
