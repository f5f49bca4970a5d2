import KrotRelay.Guarantees.Transparency

/-!
Metering of the application bytes. A shovel writes a chunk only after `charge` has answered
`Ok` for it, so that all a TCP connection relays is charged before. The HTTP routers write
the head they have buffered without a charge: what they replay is relayed, whatever is left
of the owner's quota.
-/
namespace KrotRelay.Guarantees
open Source Lib List

variable {n : UInt64} {now : Instant} {rate : RateLimitState} {events : List ConnEvent}
  {path : EntryPath} {start : DataConn}

/-- The part of a charged chunk that is still to be written. -/
def inHand : ShovelStage → List UInt8
  | .writing _ rest => rest
  | _ => []

/-- All that was relayed, and what is about to be, was charged before. -/
def Precharged (flow : Flow) : Prop := flow.charged = flow.relayed ++ inHand flow.stage

/-- A read returns at least one byte and at most the buffer. -/
def ChunkFits : ShovelStage → Prop
  | .throttling chunk => 0 < chunk.length ∧ chunk.length ≤ shovelBuffer
  | _ => True

/-- The step writes bytes of a request head or of a `ClientHello`. -/
def writesHead (conn : DataConn) : ConnEvent → Bool
  | .wrote .toClient _ =>
    match conn.phase with
    | .setup (part :: _) _ => part.application
    | _ => false
  | _ => false

/-- When the step charges the owner, and how many bytes. -/
def chargeOf (conn : DataConn) : ConnEvent → Option (Instant × UInt64)
  | .charge direction now _ =>
    match (conn.flow direction).stage with
    | .throttling chunk => some (now, UInt64.ofNat chunk.length)
    | _ => none
  | .otherCharge now _ _ n => some (now, n)
  | _ => none

/-- The counter of the quota does not wrap around. -/
def counterFits (conn : DataConn) (event : ConnEvent) : Bool :=
  (chargeOf conn event).all fun (_, n) => conn.rate.quotaUsed.toNat + n.toNat < 2 ^ 64

def chargesFirst (conn : DataConn) (event : ConnEvent) : Bool :=
  !writesHead conn event && counterFits conn event

section Flows
variable {flow next : Flow} {bytes : List UInt8}

theorem FlowMove.precharged (move : FlowMove flow next bytes) (precharged : Precharged flow) :
    Precharged next := by
  unfold Precharged at precharged ⊢
  rw [move.charged_eq, precharged]
  cases move with
  | wait _ idle => obtain idle | ⟨before, idle⟩ := idle <;> simp only [idle, inHand]
  | eof _ waiting | take _ _ waiting | close _ waiting => simp only [waiting, inHand]
  | write size n rest writing _ _ =>
    rw [writing]
    dsimp only
    split
    · rename_i whole
      simp only [inHand, whole, take_length, append_nil]
    · simp only [inHand, append_assoc, take_append_drop]

theorem Precharged.charge {chunk : List UInt8} (precharged : Precharged flow)
    (waiting : flow.stage = .throttling chunk) (outcome : Charge) :
    Precharged (flow.charge chunk outcome) := by
  unfold Precharged at precharged
  rw [waiting] at precharged
  cases outcome with
  | ok =>
    change flow.charged ++ chunk = flow.relayed ++ chunk
    simp only [precharged, inHand, append_nil]
  | quotaExceeded => exact precharged

theorem FlowMove.chunkFits (move : FlowMove flow next bytes) : ChunkFits next.stage := by
  cases move with
  | take _ n _ _ _ enough =>
    have length : (flow.source.take n).length = n := length_take_of_le enough
    exact ⟨by rwa [length], by rwa [length]⟩
  | write size n rest writing _ _ =>
    dsimp only
    split <;> trivial
  | _ => trivial

end Flows

section Steps
variable {domain : Domain} {publicBytes clientBytes : List UInt8} {conn next : DataConn}
  {event : ConnEvent}

theorem precharged_step (precharged : ∀ dir, Precharged (conn.flow dir))
    (step : conn.step domain event = some next) (charged : writesHead conn event = false)
    (dir : Direction) : Precharged (next.flow dir) := by
  cases (step_move step).flow_step dir with
  | same unchanged => exact unchanged ▸ precharged dir
  | routed _ _ _ read =>
    rw [read]
    exact precharged .toClient
  | setup part _ _ _ waiting _ asked wrote =>
    have framing : part.application = false := by
      rw [asked, writesHead, waiting] at charged
      exact charged
    rw [wrote, framing, if_neg Bool.false_ne_true, append_nil]
    exact precharged .toClient
  | moved _ move => exact move.precharged (precharged dir)
  | charged _ _ _ _ _ waiting answered =>
    rw [answered]
    exact (precharged dir).charge waiting _

theorem chunkFits_step (fits : ∀ dir, ChunkFits (conn.flow dir).stage)
    (step : conn.step domain event = some next) (dir : Direction) :
    ChunkFits (next.flow dir).stage := by
  cases (step_move step).flow_step dir with
  | same unchanged => exact unchanged ▸ fits dir
  | routed _ _ _ read =>
    rw [read]
    exact fits .toClient
  | setup _ _ _ _ _ _ _ wrote =>
    rw [wrote]
    exact fits .toClient
  | moved _ move => exact move.chunkFits
  | charged tunnelId now noticed chunk asked waiting answered =>
    rw [answered]
    cases (conn.rate.charge now noticed tunnelId (UInt64.ofNat chunk.length)).1 <;> trivial

/-- A step that is no charge leaves the owner's state. -/
theorem rate_step (step : conn.step domain event = some next) :
    next.rate = conn.rate ∨ ∃ now noticed tunnelId n, chargeOf conn event = some (now, n) ∧
      next.rate = (conn.rate.charge now noticed tunnelId n).2.2 := by
  cases step_move step with
  | flow _ _ dir => cases dir <;> exact .inl rfl
  | charge tunnelId dir now noticed chunk _ waiting =>
    refine .inr ⟨now, noticed, tunnelId, UInt64.ofNat chunk.length, ?_, ?_⟩
    · simp only [chargeOf, waiting]
    · cases dir <;> rfl
  | finish _ dir =>
    cases dir <;> exact .inl rfl
  | other now noticed tunnelId n => exact .inr ⟨now, noticed, tunnelId, n, rfl, rfl⟩
  | _ => exact .inl rfl

end Steps

/-! ### After the quota is used up -/

/-- No byte fits into what is left of the period's quota. -/
def Exhausted (rate : RateLimitState) : Prop :=
  ∃ cap, rate.quotaCap = some cap ∧ cap ≤ rate.quotaUsed

/-- The clock of a charge. -/
def chargeClock : ConnEvent → Option Instant
  | .charge _ now _ | .otherCharge now _ _ _ => some now
  | _ => none

theorem chargeClock_of_charge {conn : DataConn} {event : ConnEvent}
    (charges : chargeOf conn event = some (now, n)) : chargeClock event = some now := by
  unfold chargeOf at charges
  split at charges
  · split at charges <;> cases charges
    rfl
  · cases charges
    rfl
  · cases charges

/-- Within the period, a charge to an exhausted state leaves it so, and no byte passes. -/
theorem charge_exhausted (exhausted : Exhausted rate) (early : now < rate.quotaResetAt)
    (fits : rate.quotaUsed.toNat + n.toNat < 2 ^ 64) (noticed : Instant) (tunnelId : TunnelId) :
    Exhausted (rate.charge now noticed tunnelId n).2.2 ∧
    (rate.charge now noticed tunnelId n).2.2.quotaResetAt = rate.quotaResetAt ∧
    (0 < n.toNat → ∃ retry, (rate.charge now noticed tunnelId n).1 = .quotaExceeded retry) := by
  obtain ⟨cap, capped, spent⟩ := exhausted
  have same : rate.rollOver now = rate := if_neg (Nat.not_le_of_lt early)
  have sum : (rate.quotaUsed + n).toNat = rate.quotaUsed.toNat + n.toNat := by
    rw [UInt64.toNat_add, Nat.mod_eq_of_lt fits]
  rw [UInt64.le_iff_toNat_le] at spent
  have still : cap ≤ rate.quotaUsed + n := by
    rw [UInt64.le_iff_toNat_le, sum]
    omega
  unfold RateLimitState.charge
  split
  · rename_i uncapped
    cases capped.symm.trans uncapped
  · rename_i _ found
    cases capped.symm.trans found
    dsimp only
    rw [same]
    split
    · exact ⟨⟨cap, capped, still⟩, rfl, fun _ => ⟨_, rfl⟩⟩
    · rename_i passes
      refine ⟨⟨cap, capped, still⟩, rfl, fun some_ => absurd ?_ passes⟩
      rw [UInt64.lt_iff_toNat_lt, sum]
      omega

section Period
variable {domain : Domain} {publicBytes clientBytes : List UInt8} {conn next : DataConn}
  {event : ConnEvent}

/-- From `start` on nothing more is charged. -/
structure Stalled (start conn : DataConn) : Prop where
  exhausted : Exhausted conn.rate
  resetAt : conn.rate.quotaResetAt = start.rate.quotaResetAt
  chunks : ∀ direction, ChunkFits (conn.flow direction).stage
  charged : ∀ direction, (conn.flow direction).charged = (start.flow direction).charged

theorem counterFits_charge (fits : counterFits conn event = true)
    (charges : chargeOf conn event = some (now, n)) :
    conn.rate.quotaUsed.toNat + n.toNat < 2 ^ 64 := by
  unfold counterFits at fits
  rw [charges, Option.all_some, decide_eq_true_eq] at fits
  exact fits

theorem charged_step (stalled : Stalled start conn) (step : conn.step domain event = some next)
    (fits : counterFits conn event = true)
    (early : ∀ now, chargeClock event = some now → now < start.rate.quotaResetAt)
    (dir : Direction) : (next.flow dir).charged = (start.flow dir).charged := by
  rw [← stalled.charged dir]
  cases (step_move step).flow_step dir with
  | same unchanged => rw [unchanged]
  | routed _ _ up read =>
    rw [read, up]
    rfl
  | setup _ _ _ _ _ up _ wrote =>
    rw [wrote, up]
    rfl
  | moved _ move => exact move.charged_eq
  | charged tunnelId now noticed chunk asked waiting answered =>
    have charges : chargeOf conn event = some (now, UInt64.ofNat chunk.length) := by
      simp only [asked, chargeOf, waiting]
    have chunkFits := stalled.chunks dir
    rw [waiting] at chunkFits
    obtain ⟨some_, room⟩ := chunkFits
    have length : (UInt64.ofNat chunk.length).toNat = chunk.length := by
      rw [shovelBuffer] at room
      rw [UInt64.toNat_ofNat', Nat.mod_eq_of_lt (by omega)]
    have inTime := early now (chargeClock_of_charge charges)
    rw [← stalled.resetAt] at inTime
    obtain ⟨-, -, refused⟩ := charge_exhausted stalled.exhausted inTime
      (counterFits_charge fits charges) noticed tunnelId
    obtain ⟨retry, refused⟩ := refused (by rwa [length])
    rw [answered, refused]
    rfl

theorem stalled_step (stalled : Stalled start conn) (step : conn.step domain event = some next)
    (fits : counterFits conn event = true)
    (early : ∀ now, chargeClock event = some now → now < start.rate.quotaResetAt) :
    Stalled start next := by
  have rates : Exhausted next.rate ∧ next.rate.quotaResetAt = start.rate.quotaResetAt := by
    obtain same | ⟨now, noticed, tunnelId, n, charges, after⟩ := rate_step step
    · exact same ▸ ⟨stalled.exhausted, stalled.resetAt⟩
    · have inTime := early now (chargeClock_of_charge charges)
      rw [← stalled.resetAt] at inTime
      obtain ⟨exhausted, resetAt, -⟩ := charge_exhausted stalled.exhausted inTime
        (counterFits_charge fits charges) noticed tunnelId
      rw [after]
      exact ⟨exhausted, resetAt.trans stalled.resetAt⟩
  exact ⟨rates.1, rates.2, chunkFits_step stalled.chunks step, charged_step stalled step fits early⟩

end Period

section Run
variable {domain : Domain} {publicBytes clientBytes : List UInt8} {conn : DataConn}

/-- What the sending side of a direction sends. -/
def sentBy (publicBytes clientBytes : List UInt8) : Direction → List UInt8
  | .toClient => publicBytes
  | .toPublic => clientBytes

theorem inHand_held (stage : ShovelStage) : inHand stage <+: held stage := by
  cases stage <;> first | exact prefix_rfl | exact nil_prefix

/-- What was charged had been read. -/
theorem Balanced.charged_taken (balanced : Balanced domain publicBytes clientBytes conn)
    (precharged : ∀ dir, Precharged (conn.flow dir)) (dir : Direction) :
    ∃ taken, taken ++ (conn.flow dir).source = sentBy publicBytes clientBytes dir ∧
      (conn.flow dir).charged <+: taken := by
  have own := precharged dir
  cases dir with
  | toClient =>
    obtain ⟨taken, whole, covers⟩ := balanced.up.taken
    refine ⟨taken, whole, ?_⟩
    change conn.up.charged = conn.up.relayed ++ inHand conn.up.stage at own
    change conn.up.charged <+: taken
    rw [own]
    -- a router that holds bytes has not started the shovel
    cases relay : isRelay conn.phase with
    | false =>
      have idle := (balanced.unused relay).1.stage
      simp only [idle, inHand, held, append_nil] at covers ⊢
      exact (prefix_append _ _).trans covers
    | true =>
      have none_ : headLeft conn.phase = [] := by
        cases phase : conn.phase with
        | ended outcome => cases outcome <;> first | rfl | (rw [phase] at relay; cases relay)
        | relaying => rfl
        | _ => rw [phase] at relay; cases relay
      rw [none_, append_nil] at covers
      exact ((prefix_append_right_inj _).mpr (inHand_held _)).trans covers
  | toPublic =>
    obtain ⟨taken, whole, covers⟩ := balanced.down.taken
    refine ⟨taken, whole, ?_⟩
    change conn.down.charged = conn.down.relayed ++ inHand conn.down.stage at own
    change conn.down.charged <+: taken
    rw [own]
    rw [append_nil] at covers
    exact ((prefix_append_right_inj _).mpr (inHand_held _)).trans covers

theorem precharged_run
    (ran : run (DataConn.step domain) (.accept path publicBytes clientBytes rate) events =
      some conn)
    (met : Meets (DataConn.step domain) (fun conn event => chargesFirst conn event = true)
      (.accept path publicBytes clientBytes rate) events) :
    ∀ dir, Precharged (conn.flow dir) := by
  refine run_meets (fun conn => ∀ dir, Precharged (conn.flow dir)) ?_ ?_ met ran
  · intro conn event next precharged charges step
    obtain ⟨charged, -⟩ := Bool.and_eq_true_iff.mp charges
    exact precharged_step precharged step (Bool.not_eq_true' _ ▸ charged)
  · intro dir
    cases dir <;> rfl

theorem chunkFits_run
    (ran : run (DataConn.step domain) (.accept path publicBytes clientBytes rate) events =
      some conn) : ∀ dir, ChunkFits (conn.flow dir).stage := by
  refine run_invariant (fun conn => ∀ dir, ChunkFits (conn.flow dir).stage)
    (fun conn event next fits step => chunkFits_step fits step) ?_ ran
  intro dir
  cases dir <;> trivial

/-- Within the period of an exhausted quota nothing more is charged. -/
theorem stalled_run {middle : DataConn} {later : List ConnEvent} (exhausted : Exhausted middle.rate)
    (chunks : ∀ dir, ChunkFits (middle.flow dir).stage)
    (met : Meets (DataConn.step domain) (fun conn event => chargesFirst conn event = true)
      middle later)
    (early : ∀ event ∈ later, ∀ now, chargeClock event = some now → now < middle.rate.quotaResetAt)
    (further : run (DataConn.step domain) middle later = some conn) : Stalled middle conn := by
  have inTime := meets_of_mem (DataConn.step domain)
    (fun _ event => ∀ now, chargeClock event = some now → now < middle.rate.quotaResetAt)
    later (fun event mem _ => early event mem) middle
  refine run_meets (Stalled middle) ?_
    ⟨exhausted, rfl, chunks, fun _ => rfl⟩ (meets_and met inTime) further
  rintro conn event next stalled ⟨charges, before⟩ step
  exact stalled_step stalled step (Bool.and_eq_true_iff.mp charges).2 before

/-- On a run that replays no buffered head, all that was relayed had been charged, and
once the quota is exhausted nothing read later in the period is relayed. -/
theorem relayed_bytes_charged (domain : Domain) (path : EntryPath)
    (publicBytes clientBytes : List UInt8) (rate : RateLimitState)
    (events later : List ConnEvent) (middle conn : DataConn)
    (ran : run (DataConn.step domain) (.accept path publicBytes clientBytes rate) events =
      some middle)
    (further : run (DataConn.step domain) middle later = some conn)
    (met : Meets (DataConn.step domain) (fun conn event => chargesFirst conn event = true)
      (.accept path publicBytes clientBytes rate) (events ++ later)) :
    (∀ direction, (conn.flow direction).relayed <+: (conn.flow direction).charged) ∧
    (∀ head, conn.opening = some head →
      conn.toClient <+: head ++ conn.up.charged ∧ conn.toPublic <+: conn.down.charged) ∧
    (Exhausted middle.rate →
      (∀ event ∈ later, ∀ now, chargeClock event = some now → now < middle.rate.quotaResetAt) →
      ∀ direction, ∃ taken,
        taken ++ (middle.flow direction).source = sentBy publicBytes clientBytes direction ∧
        (conn.flow direction).relayed <+: taken) := by
  have whole := (run_append _ _ _ _ _).mpr ⟨middle, ran, further⟩
  have balanced := balanced_run whole
  have charged : ∀ direction, (conn.flow direction).relayed <+: (conn.flow direction).charged :=
    fun direction => ⟨_, (precharged_run whole met direction).symm⟩
  refine ⟨charged, fun head opening => ⟨?_, ?_⟩, fun exhausted early direction => ?_⟩
  · exact (balanced.opened head opening).received.trans
      ((prefix_append_right_inj head).mpr (charged .toClient))
  · rw [balanced.public_eq opening]
    exact charged .toPublic
  · obtain ⟨before, after⟩ := (meets_append _ _ _ _ _).mp met
    have stalled := stalled_run exhausted (chunkFits_run ran) (after middle ran) early further
    obtain ⟨taken, all, covers⟩ :=
      (balanced_run ran).charged_taken (precharged_run ran before) direction
    refine ⟨taken, all, (charged direction).trans ?_⟩
    rw [stalled.charged direction]
    exact covers

end Run

/-! ### TCP tunnels -/

/-- On the path of a TCP tunnel nothing is ever buffered. -/
def Unbuffered : ConnPhase → Prop
  | .opening _ _ _ _ buffered => buffered = none
  | .setup parts _ => ∀ part ∈ parts, part.application = false
  | .relaying _ | .ended _ => True
  | _ => False

section Tcp
variable {domain : Domain} {conn next : DataConn} {event : ConnEvent}

theorem unbuffered_afterSetup {parts : List SetupPart} (after : Except String TunnelId)
    (framing : ∀ part ∈ parts, part.application = false) :
    Unbuffered (DataConn.afterSetup parts after) := by
  obtain ⟨tunnelId, -, -, next⟩ | ⟨detail, -, -, next⟩ | next := afterSetup_cases parts after
  · rw [next]
    trivial
  · rw [next]
    trivial
  · rw [next]
    intro part mem
    exact framing part ((dropWhile_sublist _).mem mem)

theorem unbuffered_step (unbuffered : Unbuffered conn.phase)
    (step : conn.step domain event = some next) : Unbuffered next.phase := by
  cases step_move step with
  | head _ phase routed =>
    have routing := routed.routing
    cases before : conn.phase <;> rw [before] at unbuffered routing <;>
      first | exact unbuffered.elim | cases routing
  | opened _ _ _ _ _ _ _ waiting =>
    rw [waiting] at unbuffered
    cases unbuffered
    dsimp only
    refine unbuffered_afterSetup _ fun part member => ?_
    obtain rfl | member := mem_cons.mp member
    · rfl
    · rw [mem_singleton.mp member]
  | unframed =>
    dsimp only
    refine unbuffered_afterSetup _ fun part member => ?_
    rw [mem_singleton.mp member]
  | setup part _ _ _ waiting =>
    rw [waiting] at unbuffered
    dsimp only
    refine unbuffered_afterSetup _ fun other member => ?_
    obtain rfl | member := mem_cons.mp member
    · exact unbuffered part mem_cons_self
    · exact unbuffered other (mem_cons_of_mem _ member)
  | reply _ _ waiting =>
    rw [waiting] at unbuffered
    exact unbuffered.elim
  | flow =>
    rwa [DataConn.setFlow_phase, DataConn.deliver_phase]
  | charge =>
    rwa [DataConn.setFlow_phase]
  | other => exact unbuffered
  | _ => trivial

theorem writesHead_unbuffered (unbuffered : Unbuffered conn.phase) (event : ConnEvent) :
    writesHead conn event = false := by
  unfold writesHead
  split
  · split
    · rename_i part rest after phase
      rw [phase] at unbuffered
      exact unbuffered part mem_cons_self
    · rfl
  · rfl

/-- A TCP tunnel relays no byte it has not charged, in either direction and on every run:
what its client gets is the header and a part of the charged bytes. -/
theorem tcp_relays_charged (tunnelId : TunnelId) (inspect : Bool)
    (publicBytes clientBytes : List UInt8) (rate : RateLimitState) (events : List ConnEvent)
    (ran : run (DataConn.step domain) (.accept (.tcp tunnelId inspect) publicBytes clientBytes rate)
      events = some conn) :
    (∀ dir, (conn.flow dir).relayed <+: (conn.flow dir).charged) ∧
    ∀ head, conn.opening = some head →
      conn.toClient <+: head ++ conn.up.charged ∧ conn.toPublic <+: conn.down.charged := by
  have precharged : Unbuffered conn.phase ∧ ∀ dir, Precharged (conn.flow dir) := by
    refine run_invariant (fun conn => Unbuffered conn.phase ∧ ∀ dir, Precharged (conn.flow dir))
      ?_ ?_ ran
    · rintro conn event next ⟨unbuffered, precharged⟩ step
      exact ⟨unbuffered_step unbuffered step,
        precharged_step precharged step (writesHead_unbuffered unbuffered event)⟩
    · refine ⟨rfl, fun dir => ?_⟩
      cases dir <;> rfl
  have charged : ∀ dir, (conn.flow dir).relayed <+: (conn.flow dir).charged :=
    fun dir => ⟨_, (precharged.2 dir).symm⟩
  have balanced := balanced_run ran
  refine ⟨charged, fun head opening => ⟨?_, ?_⟩⟩
  · exact (balanced.opened head opening).received.trans
      ((prefix_append_right_inj head).mpr (charged .toClient))
  · rw [balanced.public_eq opening]
    exact charged .toPublic

end Tcp

section Example

/-- Five bytes a day. -/
def smallQuota : RateLimitState := .fromEntry none (some ⟨5, .day⟩) 1 0

def smallConn : DataConn := .accept (.tcp ⟨1⟩ false) [1, 2, 3, 4] [5, 6] smallQuota

/-- The quota lasts for three bytes up and two down. -/
def upToTheQuota : List ConnEvent :=
  [.opened 0, .wrote .toClient 9, .begin .toClient, .begin .toPublic, .read .toClient 3,
    .charge .toClient 10 10, .wrote .toClient 3, .read .toPublic 2, .charge .toPublic 11 11]

def beyondTheQuota : List ConnEvent :=
  [.wrote .toPublic 2, .read .toClient 1, .charge .toClient 12 12, .shut .toClient]

def atTheQuota : DataConn := final (DataConn.step shopDomain) smallConn upToTheQuota

theorem tcp_relays_charged_small :
    (∀ dir, (atTheQuota.flow dir).relayed <+: (atTheQuota.flow dir).charged) ∧
      atTheQuota.toPublic <+: atTheQuota.down.charged := by
  have facts := tcp_relays_charged ⟨1⟩ false [1, 2, 3, 4] [5, 6] smallQuota upToTheQuota
    (run_final (show (run (DataConn.step shopDomain) smallConn upToTheQuota).isSome = true by
      decide +kernel))
  exact ⟨facts.1, (facts.2 (DataHeader.mk .dataTcp ⟨1⟩).toBytes (by decide +kernel)).2⟩

theorem relayed_bytes_charged_tcp : Exhausted atTheQuota.rate ∧ ∀ direction, ∃ taken,
      taken ++ (atTheQuota.flow direction).source = sentBy [1, 2, 3, 4] [5, 6] direction ∧
      ((final (DataConn.step shopDomain) atTheQuota beyondTheQuota).flow direction).relayed <+:
        taken := by
  have exhausted : Exhausted atTheQuota.rate := ⟨5, by decide +kernel, by decide +kernel⟩
  refine ⟨exhausted, ?_⟩
  exact (relayed_bytes_charged shopDomain (.tcp ⟨1⟩ false) [1, 2, 3, 4] [5, 6] smallQuota
    upToTheQuota beyondTheQuota atTheQuota _ (run_final (by decide +kernel))
    (run_final (by decide +kernel)) (by decide +kernel)).2.2 exhausted (by decide +kernel)

/-- The owner of the shop has used the whole quota; then a request arrives. -/
def usedUp : RateLimitState := { smallQuota with quotaUsed := 5 }

def lateVisit : DataConn :=
  final (DataConn.step shopDomain) (.accept .http shopRequest [] usedUp)
    [.read .toClient shopRequest.length, .opened 0, .wrote .toClient 9,
      .wrote .toClient shopRequest.length]

theorem replayed_head_uncharged :
    run (DataConn.step shopDomain) (.accept .http shopRequest [] usedUp)
      [.read .toClient shopRequest.length, .opened 0, .wrote .toClient 9,
        .wrote .toClient shopRequest.length] = some lateVisit ∧
    Exhausted usedUp ∧ lateVisit.rate = usedUp ∧ lateVisit.up.charged = [] ∧
    lateVisit.toClient = (DataHeader.mk .dataHttp ⟨1⟩).toBytes ++ shopRequest ∧
    lateVisit.up.relayed = shopRequest ∧
    ¬ lateVisit.up.relayed <+: lateVisit.up.charged := by
  refine ⟨run_final (by decide +kernel), ⟨5, rfl, by decide⟩, ?_⟩
  decide +kernel

end Example
end KrotRelay.Guarantees
