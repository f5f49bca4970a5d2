import KrotRelay.Lib.Run
import KrotRelay.Source.Inspector
import KrotRelay.Source.Proxy

/-!
# Whose request is this? The entries of the inspector

A prelude waits in one slot that all streams share until some `record_request` takes it.
Entries carry the metadata of their own stream as long as no stream comes between the two
calls of another and the calls come in the order `record_accept`, `record_request`. Auth
buffers the request and reports it first, and a passthrough stream has its entry before.
-/
namespace KrotRelay.Guarantees
open Source Lib List Option
open InspectorHost (called)
open InspectedStream (requestRead preludeRead headRequest)

variable {after stream : ProxyStream} {n : Nat} {fails : Bool} {event : ProxyEvent}
  {phase : ProxyPhase} {prelude : InspectionPrelude}

/-! ## One stream -/

/-- How far a task has come: 0 before the prelude is read, 1 before it dials, 2 in a write to
the target, 3 in `peek_request`, 4 behind it. -/
def reportPlace : ProxyPhase → Nat
  | .header _ | .prelude _ _ => 0
  | .firstByte _ | .headers _ _ | .loginBody _ _ _ _ _ _ _ | .deciding _ _ _ _ _ => 1
  | .responding _ | .stopping | .dialing _ _ _ => 1
  | .forwarding _ _ => 2
  | .peekRequest _ => 3
  | .peekResponse _ | .returning _ | .relaying _ _ | .ended _ => 4

section Places
variable (crates : ProxyCrates) (config : ProxyConfig)

theorem start_place (kind : StreamKind) : reportPlace (.start config kind) = 1 := by
  unfold ProxyPhase.start
  split <;> rfl

theorem forward_place (rest : List UInt8) (peeks : Bool) :
    reportPlace (.forward rest peeks) = 2 ∨ reportPlace (.forward rest peeks) = 4 := by
  unfold ProxyPhase.forward
  split
  · split <;> exact .inr rfl
  · exact .inl rfl

theorem giveBack_place (rest : List UInt8) : reportPlace (.giveBack rest) = 4 := by
  unfold ProxyPhase.giveBack
  split <;> rfl

theorem loginBody_place (user pass : String) (request : SessionRequest) (buf : List UInt8)
    (completeAt target : Nat) (recorded : Bool) :
    reportPlace (.afterLoginBody user pass request buf completeAt target recorded) = 1 := by
  unfold ProxyPhase.afterLoginBody
  split <;> rfl

theorem decideAuth_place (policy : AuthPolicy) (buf : List UInt8) (completeAt : Nat) :
    reportPlace (.decideAuth crates config policy buf completeAt) = 1 ∨
      reportPlace (.decideAuth crates config policy buf completeAt) = 4 := by
  unfold ProxyPhase.decideAuth
  split
  · exact .inl rfl
  · dsimp only
    split
    · split
      · exact .inr rfl
      · exact .inl rfl
      · exact .inl rfl
    · split
      · exact .inl (loginBody_place _ _ _ _ _ _ _)
      · exact .inl rfl

theorem afterHeaders_place (policy : AuthPolicy) (buf : List UInt8) :
    reportPlace (.afterHeaders crates config policy buf) = 1 ∨
      reportPlace (.afterHeaders crates config policy buf) = 4 := by
  unfold ProxyPhase.afterHeaders
  split
  · exact decideAuth_place crates config policy buf _
  · split <;> exact .inl rfl

theorem afterFirstByte_place (policy : AuthPolicy) (buf : List UInt8) :
    reportPlace (.afterFirstByte crates config policy buf) = 1 ∨
      reportPlace (.afterFirstByte crates config policy buf) = 4 := by
  unfold ProxyPhase.afterFirstByte
  split
  · exact .inl rfl
  · exact afterHeaders_place crates config policy buf

theorem afterDecision_place (buffered : List UInt8) (recorded : Bool) (action : SessionAction) :
    reportPlace (.afterDecision crates buffered recorded action) = 1 := by
  cases action <;> rfl

theorem afterShut_place (up down : CopyBuffer) : reportPlace (.afterShut up down) = 4 := by
  unfold ProxyPhase.afterShut
  split <;> rfl

end Places

/-- `record_request` comes next on this stream, once it has dialled. -/
def requestFollows : ProxyPhase → Bool
  | .dialing kind buffered recorded => kind == .dataHttp && buffered.isEmpty && !recorded
  | _ => false

/-- What an event and the call it makes are to the order of the calls. -/
inductive Reported (inspected : InspectedStream) (fails : Bool) (next : InspectedStream) :
    Option InspectorCall → Prop
  | opening (early : reportPlace inspected.stream.phase = 0)
      (before : reportPlace next.stream.phase = 0 ∨ reportPlace next.stream.phase = 1 ∨
        reportPlace next.stream.phase = 4)
      (accepted : next.accepted = inspected.accepted) : Reported inspected fails next none
  | quiet (settled : 1 ≤ reportPlace inspected.stream.phase)
      (onward : 1 ≤ reportPlace next.stream.phase)
      (low : reportPlace next.stream.phase ≤ 1 → reportPlace inspected.stream.phase ≤ 1)
      (enters : reportPlace next.stream.phase = 3 → reportPlace inspected.stream.phase = 3)
      (leaves : inspected.config.inspector = true → reportPlace inspected.stream.phase = 3 →
        reportPlace next.stream.phase = 3)
      (prelude : next.prelude = inspected.prelude)
      (accepted : next.accepted = inspected.accepted) : Reported inspected fails next none
  | failed (failing : fails = true) (over_ : reportPlace next.stream.phase = 4)
      (prelude : next.prelude = inspected.prelude)
      (accepted : next.accepted = inspected.accepted) : Reported inspected fails next none
  | passes (settled : 1 ≤ reportPlace inspected.stream.phase)
      (ahead : reportPlace inspected.stream.phase ≠ 3) (onward : 2 ≤ reportPlace next.stream.phase)
      (follows : inspected.config.inspector = true → requestFollows inspected.stream.phase = true →
        reportPlace next.stream.phase = 3)
      (prelude : next.prelude = inspected.prelude) (accepted : next.accepted = true) :
      Reported inspected fails next
        (if inspected.config.inspector then inspected.prelude.map .accept else none)
  | requests (method path) (inspector : inspected.config.inspector = true)
      (settled : 1 ≤ reportPlace inspected.stream.phase)
      (own : reportPlace inspected.stream.phase ≤ 1 ∨ reportPlace inspected.stream.phase = 3)
      (onward : 1 ≤ reportPlace next.stream.phase) (left : reportPlace next.stream.phase ≠ 3)
      (low : reportPlace next.stream.phase ≤ 1 → reportPlace inspected.stream.phase ≤ 1)
      (prelude : next.prelude = inspected.prelude)
      (accepted : next.accepted = inspected.accepted) :
      Reported inspected fails next (some (.request method path))

/-- The stream after an event that leaves its task at `after`. -/
def reached (crates : ProxyCrates) (inspected : InspectedStream) (event : ProxyEvent)
    (after : ProxyStream) : InspectedStream :=
  { inspected with
    stream := after
    prelude := (preludeRead crates inspected.stream event).or inspected.prelude
    accepted := inspected.accepted || inspected.passesAccept event }

section Reporting
variable {crates : ProxyCrates} {inspected next : InspectedStream} {event : ProxyEvent}

/-- Most events: the phase stays on its side of `peek_request`. -/
theorem reported_quiet (same : next.stream.phase = phase)
    (prelude : next.prelude = inspected.prelude) (accepted : next.accepted = inspected.accepted)
    (onward : reportPlace inspected.stream.phase ≤ reportPlace phase)
    (opening : reportPlace inspected.stream.phase = 0 → reportPlace phase ≠ 2)
    (enters : reportPlace phase = 3 → reportPlace inspected.stream.phase = 3)
    (leaves : inspected.config.inspector = true → reportPlace inspected.stream.phase = 3 →
      reportPlace phase = 3) : Reported inspected fails next none := by
  subst same
  rcases Nat.eq_zero_or_pos (reportPlace inspected.stream.phase) with early | settled
  · refine .opening early ?_ accepted
    have notTwo := opening early
    have notThree : reportPlace next.stream.phase ≠ 3 := fun isThree => by
      have := enters isThree
      omega
    have bound : reportPlace next.stream.phase ≤ 4 := by
      cases next.stream.phase <;> simp [reportPlace]
    omega
  · exact .quiet settled (Nat.le_trans settled onward) (fun low => Nat.le_trans onward low) enters
      leaves prelude accepted

theorem returns_phase {pending : PendingRead} {queue rest : List UInt8} {closed : Bool}
    (returned : pending.returns queue closed n = some (phase, rest)) :
    phase = if n = 0 then pending.atEnd else pending.next (queue.take n) := by
  unfold PendingRead.returns at returned
  split at returned
  next zero =>
    split at returned <;> cases returned
    rw [if_pos zero]
  next some_ =>
    split at returned <;> cases returned
    rw [if_neg some_]

theorem read_phase {config : ProxyConfig} (step : stream.read crates config n = some after) :
    ∃ pending, stream.phase.remoteRead crates config = some pending ∧
      after.phase = if n = 0 then pending.atEnd else pending.next (stream.inbox.take n) := by
  simp only [ProxyStream.read, bind_eq_bind, bind_eq_some_iff, Prod.exists] at step
  obtain ⟨pending, waits, phase, rest, returned, same⟩ := step
  cases same
  exact ⟨pending, waits, returns_phase returned⟩

theorem localRead_phase (step : stream.localRead n = some after) :
    ∃ pending, stream.phase.localRead = some pending ∧
      after.phase = if n = 0 then pending.atEnd else pending.next (stream.localIn.take n) := by
  simp only [ProxyStream.localRead, bind_eq_bind, bind_eq_some_iff, Prod.exists] at step
  obtain ⟨pending, waits, phase, rest, returned, same⟩ := step
  cases same
  exact ⟨pending, waits, returns_phase returned⟩

theorem afterHeader_place (config : ProxyConfig) (buf : List UInt8) :
    reportPlace (.afterHeader config buf) = 0 ∨ reportPlace (.afterHeader config buf) = 1 ∨
      reportPlace (.afterHeader config buf) = 4 := by
  unfold ProxyPhase.afterHeader
  split
  · exact .inl rfl
  · split
    · exact .inr (.inr rfl)
    · split
      · exact .inr (.inr rfl)
      · split
        · exact .inr (.inr rfl)
        · split
          · exact .inl rfl
          · exact .inr (.inl (start_place _ _))

theorem afterPrelude_place (config : ProxyConfig) (kind : StreamKind) (fed : Fed) :
    reportPlace (.afterPrelude crates config kind fed) = 0 ∨
      reportPlace (.afterPrelude crates config kind fed) = 1 ∨
      reportPlace (.afterPrelude crates config kind fed) = 4 := by
  unfold ProxyPhase.afterPrelude
  split
  · exact .inl rfl
  · exact .inr (.inr rfl)
  · split
    · exact .inr (.inr rfl)
    · exact .inr (.inl (start_place _ _))

theorem headRequest_cases {buf : List UInt8} {call : InspectorCall}
    (made : headRequest crates buf = some call) :
    ∃ method path, call = .request method path := by
  obtain ⟨pos, -, parsed⟩ := bind_eq_some_iff.mp made
  obtain ⟨head, -, rfl⟩ := map_eq_some_iff.mp parsed
  exact ⟨_, _, rfl⟩

theorem call_read (n : Nat) : inspected.call crates (.read n) = if inspected.config.inspector then
      requestRead crates inspected.stream n else none := by
  cases inspector : inspected.config.inspector <;>
    simp [InspectedStream.call, InspectedStream.passesAccept, inspector]

theorem requestRead_cases (made : requestRead crates stream n = some call) :
    1 ≤ reportPlace stream.phase ∧ ∃ method path, call = .request method path := by
  simp only [requestRead] at made
  split at made
  next phase =>
    split at made
    · cases made
    · exact ⟨by simp [phase, reportPlace], headRequest_cases made⟩
  next phase =>
    split at made
    · cases made
    · exact ⟨by simp [phase, reportPlace], headRequest_cases made⟩
  next phase =>
    split at made <;> cases made
    exact ⟨by simp [phase, reportPlace], _, _, rfl⟩
  next => cases made

theorem preludeRead_settled (settled : 1 ≤ reportPlace stream.phase) :
    preludeRead crates stream (.read n) = none := by
  simp only [preludeRead]
  split
  next phase =>
    rw [phase] at settled
    cases settled
  next => rfl

/-- A read of the header or the prelude. -/
theorem read_opening {config : ProxyConfig} (moved : stream.read crates config n = some after)
    (early : reportPlace stream.phase = 0) :
    reportPlace after.phase = 0 ∨ reportPlace after.phase = 1 ∨ reportPlace after.phase = 4 := by
  obtain ⟨pending, waits, same⟩ := read_phase moved
  rw [same]
  cases phase : stream.phase <;> rw [phase] at waits early <;> cases early <;> cases waits
  case header =>
    split
    · exact .inr (.inr rfl)
    · exact afterHeader_place _ _
  case prelude =>
    split
    · exact .inr (.inr rfl)
    · dsimp only
      cases head : (stream.inbox.take n).head? with
      | none => exact .inl rfl
      | some => exact afterPrelude_place _ _ _

/-- A read that ends `peek_request` is the one that reports. -/
theorem read_peeking {config : ProxyConfig} (moved : stream.read crates config n = some after)
    (phase : stream.phase = .peekRequest buf) :
    reportPlace after.phase = 3 ∧ requestRead crates stream n = none ∨
      (reportPlace after.phase = 2 ∨ reportPlace after.phase = 4) ∧
        requestRead crates stream n ≠ none := by
  obtain ⟨pending, waits, same⟩ := read_phase moved
  rw [phase] at waits
  cases waits
  rw [same]
  simp only [requestRead, phase]
  by_cases ends : (n = 0 || ProxyPhase.peekEnds (buf ++ stream.inbox.take n)) = true
  · rw [if_pos ends]
    refine .inr ⟨?_, some_ne_none _⟩
    split
    · exact forward_place _ _
    next some_ =>
      have peeked : ProxyPhase.peekEnds (buf ++ stream.inbox.take n) = true := by
        simpa [some_] using ends
      rw [ProxyPhase.afterPeekRequest, if_pos peeked]
      exact forward_place _ _
  · rw [if_neg ends]
    simp only [Bool.or_eq_true, decide_eq_true_eq, not_or] at ends
    rw [if_neg ends.1, ProxyPhase.afterPeekRequest, if_neg ends.2]
    exact .inl ⟨rfl, rfl⟩

/-- A read behind the prelude. -/
theorem read_settled {config : ProxyConfig} (moved : stream.read crates config n = some after)
    (settled : 1 ≤ reportPlace stream.phase) :
    reportPlace stream.phase = 1 ∧ (reportPlace after.phase = 1 ∨ reportPlace after.phase = 4) ∨
    reportPlace stream.phase = 4 ∧ reportPlace after.phase = 4 ∧
      requestRead crates stream n = none ∨
    reportPlace stream.phase = 3 ∧
      (reportPlace after.phase = 3 ∧ requestRead crates stream n = none ∨
        (reportPlace after.phase = 2 ∨ reportPlace after.phase = 4) ∧
          requestRead crates stream n ≠ none) := by
  obtain ⟨pending, waits, same⟩ := read_phase moved
  cases phase : stream.phase with
  | header | prelude =>
    rw [phase] at settled
    cases settled
  | firstByte =>
    rw [phase] at waits
    cases waits
    rw [same]
    refine .inl ⟨rfl, ?_⟩
    split
    · exact .inl rfl
    · exact afterFirstByte_place _ _ _ _
  | headers =>
    rw [phase] at waits
    cases waits
    rw [same]
    refine .inl ⟨rfl, ?_⟩
    split
    · exact .inl rfl
    · exact afterHeaders_place _ _ _ _
  | loginBody =>
    rw [phase] at waits
    cases waits
    rw [same]
    refine .inl ⟨rfl, .inl ?_⟩
    split
    · rfl
    · exact loginBody_place _ _ _ _ _ _ _
  | peekRequest => exact .inr (.inr ⟨rfl, read_peeking moved phase⟩)
  | relaying =>
    rw [phase] at waits
    simp only [ProxyPhase.remoteRead, CopyBuffer.pending] at waits
    split at waits <;> cases waits
    refine .inr (.inl ⟨rfl, ?_, by rw [requestRead, phase]⟩)
    rw [same]
    split <;> rfl
  | _ =>
    rw [phase] at waits
    cases waits

theorem read_reported (step : inspected.step crates (.read n) = some next) :
    Reported inspected false next (inspected.call crates (.read n)) := by
  obtain ⟨after, moved, rfl⟩ := map_eq_some_iff.mp step
  rw [call_read]
  rcases Nat.eq_zero_or_pos (reportPlace inspected.stream.phase) with early | settled
  · have none_ : requestRead crates inspected.stream n = none :=
      eq_none_iff_forall_ne_some.mpr fun call made => by
        have := (requestRead_cases made).1
        omega
    rw [none_, ite_self]
    exact .opening early (read_opening moved early) (Bool.or_false _)
  · have prelude : (preludeRead crates inspected.stream (.read n)).or
        inspected.prelude = inspected.prelude := by
      rw [preludeRead_settled settled, none_or]
    have accepted := Bool.or_false inspected.accepted
    have places := read_settled moved settled
    by_cases inspector : inspected.config.inspector = true
    · rw [if_pos inspector]
      cases made : requestRead crates inspected.stream n with
      | none =>
        simp only [made, ne_eq, not_true_eq_false, and_false, or_false] at places
        exact .quiet settled (by dsimp only; omega) (by dsimp only; omega) (by dsimp only; omega)
          (by dsimp only; omega) prelude accepted
      | some call =>
        obtain ⟨-, method, path, rfl⟩ := requestRead_cases made
        simp only [made, reduceCtorEq, and_false, false_or] at places
        exact .requests method path inspector settled (by omega) (by dsimp only; omega)
          (by dsimp only; omega) (by dsimp only; omega) prelude accepted
    · rw [if_neg inspector]
      exact .quiet settled (by dsimp only; omega) (by dsimp only; omega) (by dsimp only; omega)
        (fun seen => absurd seen inspector) prelude accepted

section
variable (notRead : ∀ n, event ≠ .read n)
include notRead

theorem call_other (quiet : inspected.passesAccept event = false) :
    inspected.call crates event = none := by
  unfold InspectedStream.call
  split
  · rfl
  · rw [quiet, if_neg Bool.false_ne_true]
    split
    next n => exact absurd rfl (notRead n)
    next => rfl

theorem preludeRead_other (stream : ProxyStream) : preludeRead crates stream event = none := by
  unfold preludeRead
  split
  next n => exact absurd rfl (notRead n)
  next => rfl

/-- An event that is no read and does not pass the line of `record_accept`. -/
theorem reported_other (quiet : inspected.passesAccept event = false)
    (onward : reportPlace inspected.stream.phase ≤ reportPlace after.phase)
    (opening : reportPlace inspected.stream.phase = 0 → reportPlace after.phase ≠ 2)
    (peeks : reportPlace after.phase = 3 ↔ reportPlace inspected.stream.phase = 3) :
    Reported inspected fails (reached crates inspected event after) (inspected.call crates event) := by
  rw [reached, call_other notRead quiet, preludeRead_other notRead, quiet, Bool.or_false, none_or]
  exact reported_quiet rfl rfl rfl onward opening peeks.mp fun _ => peeks.mpr

theorem reported_failure {problem : ClientError}
    (quiet : inspected.passesAccept event = false) : Reported inspected true
      (reached crates inspected event (inspected.stream.fail problem))
      (inspected.call crates event) := by
  rw [reached, call_other notRead quiet, preludeRead_other notRead, quiet, Bool.or_false, none_or]
  exact .failed rfl rfl rfl rfl

/-- The same, where the task stays in its place. -/
theorem reported_still (quiet : inspected.passesAccept event = false)
    (still : reportPlace after.phase = reportPlace inspected.stream.phase) :
    Reported inspected fails (reached crates inspected event after) (inspected.call crates event) :=
  reported_other notRead quiet (Nat.le_of_eq still.symm) (fun early => by rw [still, early]; decide)
    (by rw [still])

/-- An event that passes the line of `record_accept`. -/
theorem reported_passes (passes : inspected.passesAccept event = true)
    (settled : 1 ≤ reportPlace inspected.stream.phase)
    (ahead : reportPlace inspected.stream.phase ≠ 3) (onward : 2 ≤ reportPlace after.phase)
    (follows : inspected.config.inspector = true → requestFollows inspected.stream.phase = true →
      reportPlace after.phase = 3) : Reported inspected fails (reached crates inspected event after) (inspected.call crates event) := by
  have called : inspected.call crates event =
      if inspected.config.inspector then inspected.prelude.map .accept else none := by
    cases inspector : inspected.config.inspector <;> simp [InspectedStream.call, passes, inspector]
  rw [reached, called, preludeRead_other notRead, passes, Bool.or_true, none_or]
  exact .passes settled ahead onward follows rfl rfl

end

theorem dialled_reported (step : inspected.step crates .dialled = some next) :
    Reported inspected false next (inspected.call crates .dialled) := by
  obtain ⟨after, moved, rfl⟩ := map_eq_some_iff.mp step
  simp only [ProxyStream.step] at moved
  split at moved
  next kind buffered recorded phase =>
    cases moved
    have before : reportPlace inspected.stream.phase = 1 := by rw [phase]; rfl
    cases buffered with
    | nil =>
      refine reported_passes (by rintro _ ⟨⟩) ?_ (by omega) (by omega) ?_ ?_
      · simp [InspectedStream.passesAccept, phase]
      · dsimp only [ProxyPhase.afterDial]
        split
        · decide
        · rcases forward_place [] (kind == .dataHttp && inspected.config.inspector && recorded)
            with two | four <;> omega
      · intro inspector follows
        simp only [requestFollows, phase, Bool.and_eq_true, Bool.not_eq_true'] at follows
        simp [ProxyPhase.afterDial, follows.1.1, follows.2, inspector, reportPlace]
    | cons byte rest =>
      have after_ : reportPlace (.afterDial inspected.config kind (byte :: rest) recorded) = 2 := by
        simp [ProxyPhase.afterDial, ProxyPhase.forward, reportPlace]
      refine reported_other (by rintro _ ⟨⟩) ?_ ?_ (by omega) ?_
      · simp [InspectedStream.passesAccept, phase]
      · dsimp only
        omega
      · dsimp only
        omega
  next => cases moved

theorem localWrote_reported (step : inspected.step crates (.localWrote n) = some next) :
    Reported inspected false next (inspected.call crates (.localWrote n)) := by
  obtain ⟨after, moved, rfl⟩ := map_eq_some_iff.mp step
  simp only [ProxyStream.step, ProxyStream.localWrote, bind_eq_bind,
    bind_eq_some_iff, Prod.exists] at moved
  obtain ⟨bytes, later, waits, moved⟩ := moved
  split at moved
  next fits =>
    cases moved
    cases phase : inspected.stream.phase with
    | forwarding _ peeks =>
      rw [phase] at waits
      cases waits
      have before : reportPlace inspected.stream.phase = 2 := by rw [phase]; rfl
      have after_ := forward_place (bytes.drop n) peeks
      by_cases passes : inspected.passesAccept (.localWrote n) = true
      · refine reported_passes (by rintro _ ⟨⟩) passes (by omega) (by omega) (by dsimp only; omega) ?_
        simp [requestFollows, phase]
      · exact reported_other (by rintro _ ⟨⟩) (Bool.eq_false_iff.mpr passes) (by dsimp only; omega)
          (by omega) (by dsimp only; omega)
    | relaying up down =>
      rw [phase] at waits
      cases waits
      have before : reportPlace inspected.stream.phase = 4 := by rw [phase]; rfl
      refine reported_other (by rintro _ ⟨⟩) ?_ (Nat.le_of_eq before) (by omega) ?_
      · simp [InspectedStream.passesAccept, phase]
      · rw [before]
        simp [reportPlace]
    | _ =>
      rw [phase] at waits
      cases waits
  next => cases moved

theorem wrote_place (moved : stream.wrote n = some after) :
    reportPlace after.phase = reportPlace stream.phase := by
  simp only [ProxyStream.wrote, bind_eq_bind, bind_eq_some_iff, Prod.exists] at moved
  obtain ⟨bytes, later, waits, moved⟩ := moved
  split at moved <;> cases moved
  cases phase : stream.phase with
  | responding | relaying =>
    rw [phase] at waits
    cases waits
    rfl
  | returning =>
    rw [phase] at waits
    cases waits
    exact giveBack_place _
  | _ =>
    rw [phase] at waits
    cases waits

theorem localRead_place (moved : stream.localRead n = some after) :
    reportPlace after.phase = reportPlace stream.phase := by
  obtain ⟨pending, waits, same⟩ := localRead_phase moved
  cases phase : stream.phase with
  | peekResponse =>
    rw [phase] at waits
    cases waits
    rw [same]
    split
    · exact giveBack_place _
    · dsimp only [ProxyPhase.afterPeekResponse]
      split
      · exact giveBack_place _
      · rfl
  | relaying =>
    rw [phase] at waits
    simp only [ProxyPhase.localRead, CopyBuffer.pending] at waits
    split at waits <;> cases waits
    rw [same]
    split <;> rfl
  | _ =>
    rw [phase] at waits
    cases waits

theorem shutLocal_place (moved : stream.shutLocal = some after) :
    reportPlace after.phase = reportPlace stream.phase := by
  unfold ProxyStream.shutLocal at moved
  split at moved
  next phase =>
    split at moved <;> cases moved
    rw [phase]
    exact afterShut_place _ _
  next => cases moved

theorem shut_place (moved : stream.shut = some after) :
    reportPlace after.phase = reportPlace stream.phase := by
  unfold ProxyStream.shut at moved
  split at moved
  next phase =>
    split at moved <;> cases moved
    rw [phase]
    exact afterShut_place _ _
  next phase =>
    cases moved
    rw [phase]
    rfl
  next => cases moved

/-- What every event of a stream is to its calls. -/
theorem step_reported (step : inspected.step crates event = some next) :
    Reported inspected event.fails next (inspected.call crates event) := by
  obtain ⟨after, moved, same⟩ := map_eq_some_iff.mp step
  cases event with
  | read => exact read_reported step
  | dialled => exact dialled_reported step
  | localWrote => exact localWrote_reported step
  | arrive | finish | answer | localFinish =>
    subst same
    simp only [ProxyStream.step] at moved
    split at moved <;> cases moved
    exact reported_other (by rintro _ ⟨⟩) rfl (Nat.le_refl _) (by dsimp only; omega) Iff.rfl
  | localRead =>
    subst same
    exact reported_still (by rintro _ ⟨⟩) rfl (localRead_place moved)
  | decide =>
    subst same
    simp only [ProxyStream.step] at moved
    split at moved <;> cases moved
    next phase =>
      refine reported_still (by rintro _ ⟨⟩) rfl ?_
      rw [phase]
      exact afterDecision_place _ _ _ _
  | wrote =>
    subst same
    exact reported_still (by rintro _ ⟨⟩) rfl (wrote_place moved)
  | shutLocal =>
    subst same
    exact reported_still (by rintro _ ⟨⟩) rfl (shutLocal_place moved)
  | shut =>
    subst same
    exact reported_still (by rintro _ ⟨⟩) rfl (shut_place moved)
  | stopped =>
    subst same
    simp only [ProxyStream.step] at moved
    split at moved <;> cases moved
    next phase =>
      refine reported_other (by rintro _ ⟨⟩) rfl ?_ (by simp [phase, reportPlace]) ?_ <;>
        simp [phase, reportPlace]
  | readFailed | localReadFailed | dialFailed | localWriteFailed | writeFailed =>
    subst same
    simp only [ProxyStream.step] at moved
    split at moved <;> cases moved
    exact reported_failure (by rintro _ ⟨⟩) rfl

end Reporting

/-! ## The shared slot -/

def metadataOf (prelude : Option InspectionPrelude) : Option String × Option String :=
  (prelude.map (·.peer), prelude.bind (·.acceptHost))

/-- The prelude a stream has put into the slot and will take out with its request. -/
def awaitsRequest (inspected : InspectedStream) : Option InspectionPrelude :=
  if inspected.config.inspector && reportPlace inspected.stream.phase == 3 then
    inspected.prelude.filter fun prelude => !prelude.isPassthrough
  else none

/-- A prelude finds the slot empty and the request of its stream comes next, or its entry is
made at once; a request finds the slot empty or filled by its own stream; no stream fails
between the two. -/
def inOrder (crates : ProxyCrates) (host : InspectorHost) : InspectorEvent → Bool
  | .proxy index event _ _ =>
    match host.streams[index]? with
    | none => true
    | some inspected =>
      match inspected.call crates event with
      | some (.accept prelude) => host.inspector.pendingAccept.isNone &&
          (prelude.isPassthrough || requestFollows inspected.stream.phase)
      | some (.request _ _) =>
        match inspected.prelude with
        | none => host.inspector.pendingAccept.isNone
        | some prelude => inspected.accepted && !prelude.isPassthrough
      | none => !event.fails || (awaitsRequest inspected).isNone
  | _ => true

structure Placed (inspected : InspectedStream) : Prop where
  ahead : reportPlace inspected.stream.phase ≤ 1 → inspected.accepted = false
  peeking : reportPlace inspected.stream.phase = 3 → inspected.accepted = true

/-- What an entry says of its stream. -/
def entryTag (entry : InspectorEntry) : EntryId × Option String × Option String :=
  (entry.id, entry.peer, entry.host)

structure Attributed (host : InspectorHost) : Prop where
  placed : ∀ (index : Nat) inspected, host.streams[index]? = some inspected → Placed inspected
  slot : ∀ (index : Nat) inspected prelude, host.streams[index]? = some inspected →
    awaitsRequest inspected = some prelude →
    host.inspector.pendingAccept = some prelude.pendingAccept
  unique : ∀ (first second : Nat) one two, host.streams[first]? = some one →
    host.streams[second]? = some two → awaitsRequest one ≠ none → awaitsRequest two ≠ none →
    first = second
  made : ∀ made ∈ host.made, ∃ inspected, host.streams[made.stream]? = some inspected ∧
    1 ≤ reportPlace inspected.stream.phase ∧
    (made.entry.peer, made.entry.host) = metadataOf inspected.prelude
  kept : ∀ (index : Nat) inspected prelude, host.streams[index]? = some inspected →
    inspected.config.inspector = true → inspected.accepted = true →
    inspected.prelude = some prelude →
    (∃ made ∈ host.made, made.stream = index) ∨ awaitsRequest inspected = some prelude
  shown : host.inspector.entries.map entryTag <:+ host.made.map fun made => entryTag made.entry

theorem awaitsRequest_eq_some {inspected : InspectedStream} :
    awaitsRequest inspected = some prelude ↔ inspected.config.inspector = true ∧
      reportPlace inspected.stream.phase = 3 ∧ inspected.prelude = some prelude ∧
      prelude.isPassthrough = false := by
  unfold awaitsRequest
  split
  next both =>
    simp only [Bool.and_eq_true, beq_iff_eq] at both
    simp [both, filter_eq_some_iff]
  next other =>
    simp only [Bool.and_eq_true, beq_iff_eq, not_and] at other
    simp only [reduceCtorEq, false_iff, not_and]
    exact fun inspector place => absurd place (other inspector)

section Host
variable {crates : ProxyCrates} {host : InspectorHost} {inspected next : InspectedStream}
  {index : Nat}

/-- The host after a call of a stream and what it made. -/
def calledHost (host : InspectorHost) (index : Nat) (next : InspectedStream)
    (outcome : Inspector × Option InspectorEntry) : InspectorHost where
  inspector := outcome.1
  streams := host.streams.set index next
  made := host.made ++ (outcome.2.map (MadeEntry.mk index)).toList

theorem Attributed.advance (held : Attributed host)
    (found : host.streams[index]? = some inspected) {inspector : Inspector}
    {entry : Option InspectorEntry} (placed : Placed next)
    (settled : 1 ≤ reportPlace inspected.stream.phase →
      1 ≤ reportPlace next.stream.phase ∧ next.prelude = inspected.prelude)
    (slot : ∀ (asked : Nat) other prelude, asked ≠ index → host.streams[asked]? = some other →
      awaitsRequest other = some prelude → inspector.pendingAccept = some prelude.pendingAccept)
    (own : ∀ prelude, awaitsRequest next = some prelude →
      inspector.pendingAccept = some prelude.pendingAccept ∧
        ∀ (asked : Nat) other, asked ≠ index → host.streams[asked]? = some other →
          awaitsRequest other = none)
    (entry_ : ∀ made, entry = some made → 1 ≤ reportPlace next.stream.phase ∧
      (made.peer, made.host) = metadataOf next.prelude)
    (kept : next.config.inspector = true → next.accepted = true → ∀ prelude,
      next.prelude = some prelude → (∃ made ∈ host.made, made.stream = index) ∨
        entry.isSome = true ∨ awaitsRequest next = some prelude)
    (shown : inspector.entries.map entryTag <:+
      (host.made.map fun made => entryTag made.entry) ++ entry.toList.map entryTag) :
    Attributed (calledHost host index next (inspector, entry)) := by
  have here : ∀ {asked : Nat} {other}, (host.streams.set index next)[asked]? = some other →
      asked = index ∧ other = next ∨ asked ≠ index ∧ host.streams[asked]? = some other := by
    intro asked other there
    rw [getElem?_set] at there
    split at there
    next same =>
      split at there <;> cases there
      exact .inl ⟨same.symm, rfl⟩
    next differs => exact .inr ⟨Ne.symm differs, there⟩
  have there : (host.streams.set index next)[index]? = some next := by
    rw [getElem?_set_self (List.getElem?_eq_some_iff.mp found).1]
  refine ⟨?_, ?_, ?_, ?_, ?_, ?_⟩
  · intro asked other seen
    rcases here seen with ⟨rfl, rfl⟩ | ⟨-, before⟩
    · exact placed
    · exact held.placed asked other before
  · intro asked other prelude seen awaits
    rcases here seen with ⟨rfl, rfl⟩ | ⟨differs, before⟩
    · exact (own prelude awaits).1
    · exact slot asked other prelude differs before awaits
  · intro first second one two seenFirst seenSecond awaitsFirst awaitsSecond
    rcases here seenFirst with ⟨rfl, rfl⟩ | ⟨differentFirst, beforeFirst⟩ <;>
      rcases here seenSecond with ⟨rfl, rfl⟩ | ⟨differentSecond, beforeSecond⟩
    · rfl
    · obtain ⟨prelude, awaits⟩ := ne_none_iff_exists'.mp awaitsFirst
      exact absurd ((own prelude awaits).2 second two differentSecond beforeSecond) awaitsSecond
    · obtain ⟨prelude, awaits⟩ := ne_none_iff_exists'.mp awaitsSecond
      exact absurd ((own prelude awaits).2 first one differentFirst beforeFirst) awaitsFirst
    · exact held.unique first second one two beforeFirst beforeSecond awaitsFirst awaitsSecond
  · intro made mem
    rcases mem_append.mp mem with old | added
    · obtain ⟨other, seen, place, tags⟩ := held.made made old
      by_cases mine : made.stream = index
      · rw [mine] at seen ⊢
        cases found.symm.trans seen
        obtain ⟨onward, same⟩ := settled place
        exact ⟨next, there, onward, by rw [same]; exact tags⟩
      · exact ⟨other, (getElem?_set_ne (Ne.symm mine)).trans seen, place, tags⟩
    · rw [mem_toList] at added
      obtain ⟨created, isEntry, rfl⟩ := map_eq_some_iff.mp added
      exact ⟨next, there, entry_ created isEntry⟩
  · intro asked other prelude seen inspects accepted isPrelude
    rcases here seen with ⟨rfl, rfl⟩ | ⟨-, before⟩
    · rcases kept inspects accepted prelude isPrelude with ⟨made, mem, mine⟩ | created | awaits
      · exact .inl ⟨made, mem_append_left _ mem, mine⟩
      · obtain ⟨fresh, rfl⟩ := isSome_iff_exists.mp created
        exact .inl ⟨⟨asked, fresh⟩, mem_append_right _ (by simp), rfl⟩
      · exact .inr awaits
    · exact (held.kept asked other prelude before inspects accepted isPrelude).imp_left
        fun ⟨made, mem, mine⟩ => ⟨made, mem_append_left _ mem, mine⟩
  · cases entry with
    | none | some => simpa [calledHost] using shown

theorem push_shown {entries : List InspectorEntry} {entry : InspectorEntry}
    {tags : List (EntryId × Option String × Option String)}
    (shown : entries.map entryTag <:+ tags) :
    (Inspector.push entries entry).map entryTag <:+ tags ++ [entryTag entry] := by
  have recent : (if entries.length = historyCap then entries.tail else entries).map entryTag <:+
      tags := by
    split
    · exact ((tail_suffix entries).map entryTag).trans shown
    · exact shown
  obtain ⟨before, rfl⟩ := recent
  exact ⟨before, by simp [Inspector.push]⟩

theorem called_request (inspector : Inspector) (timeMs : Nat) (now : Instant)
    (method path : Option String) :
    ∃ after entry, called inspector timeMs now (some (.request method path)) =
        (after, some entry) ∧ after.pendingAccept = none ∧
      (entry.peer, entry.host) =
        (inspector.pendingAccept.map (·.peer), inspector.pendingAccept.bind (·.host)) ∧
      ∀ tags, inspector.entries.map entryTag <:+ tags →
        after.entries.map entryTag <:+ tags ++ [entryTag entry] := by
  refine ⟨_, _, Prod.ext rfl getLast?_concat, rfl, rfl, fun tags shown => push_shown shown⟩

theorem called_passthrough (inspector : Inspector) (timeMs : Nat) (now : Instant)
    (passthrough : prelude.isPassthrough = true) :
    ∃ after entry, called inspector timeMs now (some (.accept prelude)) =
        (after, some entry) ∧ after.pendingAccept = none ∧
      (entry.peer, entry.host) = metadataOf (some prelude) ∧
      ∀ tags, inspector.entries.map entryTag <:+ tags →
        after.entries.map entryTag <:+ tags ++ [entryTag entry] := by
  simp only [called, Inspector.recordAccept, passthrough, if_true,
    Inspector.flushPendingAcceptLocked]
  exact ⟨_, _, Prod.ext rfl getLast?_concat, rfl, rfl, fun tags shown => push_shown shown⟩

theorem called_pending (inspector : Inspector) (timeMs : Nat) (now : Instant)
    (plain : prelude.isPassthrough = false) :
    called inspector timeMs now (some (.accept prelude)) =
      ({ inspector with pendingAccept := some prelude.pendingAccept }, none) := by
  simp [called, Inspector.recordAccept, plain]

theorem step_config (step : inspected.step crates event = some next) :
    next.config = inspected.config := by
  obtain ⟨after, -, rfl⟩ := map_eq_some_iff.mp step
  rfl

/-- An event without a call, or one whose stream has no prelude to report. -/
theorem Attributed.silent (held : Attributed host)
    (found : host.streams[index]? = some inspected) (placed : Placed next)
    (config : next.config = inspected.config)
    (settled : 1 ≤ reportPlace inspected.stream.phase →
      1 ≤ reportPlace next.stream.phase ∧ next.prelude = inspected.prelude)
    (same : awaitsRequest next = awaitsRequest inspected)
    (kept : next.config.inspector = true → next.accepted = true → ∀ prelude,
      next.prelude = some prelude →
      inspected.accepted = true ∧ inspected.prelude = some prelude) :
    Attributed (calledHost host index next (host.inspector, none)) := by
  refine held.advance found placed settled
    (fun asked other prelude _ => held.slot asked other prelude) ?_ nofun ?_
    (by simpa using held.shown)
  · intro prelude awaits
    rw [same] at awaits
    refine ⟨held.slot index inspected prelude found awaits, fun asked other differs seen => ?_⟩
    by_contra also
    exact differs (held.unique asked index other inspected seen found also
      (by simp [awaits]))
  · intro inspects accepted prelude isPrelude
    obtain ⟨before, had⟩ := kept inspects accepted prelude isPrelude
    rw [config] at inspects
    rw [same]
    exact (held.kept index inspected prelude found inspects before had).imp_right .inr

theorem Attributed.alone_of_empty (held : Attributed host)
    (empty : host.inspector.pendingAccept = none) (asked : Nat) (other : InspectedStream)
    (seen : host.streams[asked]? = some other) : awaitsRequest other = none := by
  rw [eq_none_iff_forall_ne_some]
  intro prelude awaits
  have filled := held.slot asked other prelude seen awaits
  rw [empty] at filled
  cases filled

theorem Placed.step (placed : Placed inspected)
    (step : inspected.step crates event = some next) : Placed next := by
  have reported := step_reported step
  generalize inspected.call crates event = call at reported
  cases reported with
  | opening early before accepted =>
    have unaccepted := placed.ahead (by omega)
    exact ⟨fun _ => accepted.trans unaccepted, fun three => by omega⟩
  | quiet _ _ low enters _ _ accepted =>
    exact ⟨fun place => accepted.trans (placed.ahead (low place)),
      fun three => accepted.trans (placed.peeking (enters three))⟩
  | failed failing over_ prelude accepted => exact ⟨fun place => by omega, fun three => by omega⟩
  | passes settled ahead onward follows prelude accepted =>
    exact ⟨fun place => by omega, fun _ => accepted⟩
  | requests _ _ _ _ _ _ left low _ accepted =>
    exact ⟨fun place => accepted.trans (placed.ahead (low place)), fun three => absurd three left⟩

section Called
variable (held : Attributed host) (found : host.streams[index]? = some inspected)
  (placed : Placed next) (config : next.config = inspected.config)
include held found placed

include config in
/-- A prelude that is reported: its entry is made at once, or it waits for the request. -/
theorem accept_attributed {timeMs : Nat} {now : Instant} {own : InspectionPrelude}
    (empty : host.inspector.pendingAccept = none)
    (moved : 1 ≤ reportPlace next.stream.phase ∧ next.prelude = inspected.prelude)
    (inspects : inspected.config.inspector = true) (isOwn : inspected.prelude = some own)
    (follows : own.isPassthrough = true ∨ reportPlace next.stream.phase = 3) :
    Attributed (calledHost host index next
      (called host.inspector timeMs now (some (.accept own)))) := by
  have alone := held.alone_of_empty empty
  have prelude := moved.2.trans isOwn
  have slot : ∀ {pending} (asked : Nat) other prelude, asked ≠ index →
      host.streams[asked]? = some other → awaitsRequest other = some prelude →
      pending = some prelude.pendingAccept := fun asked other _ _ seen awaits =>
    absurd (alone asked other seen) (by simp [awaits])
  cases passthrough : own.isPassthrough with
  | true =>
    obtain ⟨inspector, entry, called, emptied, tags, shown⟩ :=
      called_passthrough host.inspector timeMs now passthrough
    rw [called]
    refine held.advance found placed (fun _ => moved) slot ?_ ?_ (fun _ _ _ _ => .inr (.inl rfl))
      (shown _ held.shown)
    · intro other awaits
      have facts := awaitsRequest_eq_some.mp awaits
      rw [prelude] at facts
      cases facts.2.2.1
      rw [passthrough] at facts
      cases facts.2.2.2
    · rintro _ ⟨⟩
      exact ⟨moved.1, by rw [prelude]; exact tags⟩
  | false =>
    have awaits : awaitsRequest next = some own := awaitsRequest_eq_some.mpr
      ⟨config ▸ inspects, follows.resolve_left (by simp [passthrough]), prelude, passthrough⟩
    rw [called_pending _ _ _ passthrough]
    refine held.advance found placed (fun _ => moved) slot ?_ nofun ?_
      (by simpa using held.shown)
    · intro other also
      cases awaits.symm.trans also
      exact ⟨rfl, fun asked other _ seen => alone asked other seen⟩
    · intro _ _ other isOther
      cases prelude.symm.trans isOther
      exact .inr (.inr awaits)

/-- A request takes what its own stream left in the slot, or finds it empty. -/
theorem request_attributed {timeMs : Nat} {now : Instant} (method path : Option String)
    (onward : 1 ≤ reportPlace next.stream.phase) (left : reportPlace next.stream.phase ≠ 3)
    (prelude : next.prelude = inspected.prelude)
    (slot : host.inspector.pendingAccept = none ∧ inspected.prelude = none ∨
      ∃ mine, inspected.prelude = some mine ∧ awaitsRequest inspected = some mine) :
    Attributed (calledHost host index next
      (called host.inspector timeMs now (some (.request method path)))) := by
  obtain ⟨later, entry, called, emptied, tags, shown⟩ :=
    called_request host.inspector timeMs now method path
  have taken : (entry.peer, entry.host) = metadataOf inspected.prelude ∧
      ∀ (asked : Nat) other, asked ≠ index → host.streams[asked]? = some other →
        awaitsRequest other = none := by
    rcases slot with ⟨empty, isNone⟩ | ⟨mine, isOwn, awaits⟩
    · rw [tags, empty, isNone]
      exact ⟨rfl, fun asked other _ seen => held.alone_of_empty empty asked other seen⟩
    · rw [tags, held.slot index inspected mine found awaits, isOwn]
      refine ⟨rfl, fun asked other differs seen => ?_⟩
      by_contra also
      exact differs (held.unique asked index other inspected seen found also
        (by simp [awaits]))
  rw [called]
  refine held.advance found placed (fun _ => ⟨onward, prelude⟩) ?_ ?_ ?_
    (fun _ _ _ _ => .inr (.inl rfl)) (shown _ held.shown)
  · exact fun asked other _ differs seen awaits =>
      absurd (taken.2 asked other differs seen) (by simp [awaits])
  · simp [awaitsRequest, left]
  · rintro _ ⟨⟩
    exact ⟨onward, by rw [prelude]; exact taken.1⟩

end Called

theorem proxy_attributed (held : Attributed host)
    (found : host.streams[index]? = some inspected) {timeMs : Nat} {now : Instant}
    (fine : inOrder crates host (.proxy index event timeMs now) = true)
    (step : inspected.step crates event = some next) :
    Attributed (calledHost host index next
      (called host.inspector timeMs now (inspected.call crates event))) := by
  have placed := held.placed index inspected found
  have after := placed.step step
  have config := step_config step
  simp only [inOrder, found] at fine
  have reported := step_reported step
  generalize inspected.call crates event = call at reported fine ⊢
  cases reported with
  | opening early before accepted =>
    have left : reportPlace next.stream.phase ≠ 3 := by omega
    refine held.silent found after config (fun settled => by omega)
      (by simp [awaitsRequest, early, left]) ?_
    intro _ isAccepted
    rw [accepted, placed.ahead (by omega)] at isAccepted
    cases isAccepted
  | quiet _ onward _ enters leaves prelude accepted =>
    refine held.silent found after config (fun _ => ⟨onward, prelude⟩) ?_
      fun _ isAccepted _ isPrelude => ⟨accepted ▸ isAccepted, prelude ▸ isPrelude⟩
    unfold awaitsRequest
    rw [config, prelude]
    cases inspects : inspected.config.inspector with
    | false => rfl
    | true =>
      have peeks : (reportPlace next.stream.phase == 3) =
          (reportPlace inspected.stream.phase == 3) :=
        Bool.eq_iff_iff.mpr (by simpa using ⟨enters, leaves inspects⟩)
      rw [peeks]
  | failed failing over_ prelude accepted =>
    simp only [failing, Bool.not_true, Bool.false_or, isNone_iff_eq_none] at fine
    refine held.silent found after config (fun _ => ⟨by omega, prelude⟩) ?_
      fun _ isAccepted _ isPrelude => ⟨accepted ▸ isAccepted, prelude ▸ isPrelude⟩
    rw [fine]
    simp [awaitsRequest, over_]
  | passes settled ahead onward follows prelude accepted =>
    have moved : 1 ≤ reportPlace next.stream.phase ∧ next.prelude = inspected.prelude :=
      ⟨by omega, prelude⟩
    cases reports : (if inspected.config.inspector then inspected.prelude.map InspectorCall.accept
        else none) with
    | none =>
      -- nothing to report: no inspector, or no prelude
      have silent : ∀ own, next.config.inspector = true → next.prelude ≠ some own := by
        intro own inspects isOwn
        rw [config] at inspects
        rw [prelude] at isOwn
        simp [inspects, isOwn] at reports
      refine held.silent found after config (fun _ => moved) ?_
        fun inspects _ own isOwn => absurd isOwn (silent own inspects)
      have notAwaiting : awaitsRequest inspected = none := by simp [awaitsRequest, ahead]
      rw [notAwaiting, eq_none_iff_forall_ne_some]
      intro own awaits
      have facts := awaitsRequest_eq_some.mp awaits
      exact silent own facts.1 facts.2.2.1
    | some call =>
      obtain ⟨inspects, own, isOwn, rfl⟩ := ite_none_right_eq_some.mp reports |>.imp_right
        map_eq_some_iff.mp
      simp only [reports, Bool.and_eq_true, Bool.or_eq_true, isNone_iff_eq_none] at fine
      exact accept_attributed held found after config fine.1 moved inspects isOwn
        (fine.2.imp_right (follows inspects))
  | requests method path inspector _ own onward left _ prelude accepted =>
    refine request_attributed held found after method path onward left prelude ?_
    cases isOwn : inspected.prelude with
    | none =>
      simp only [isOwn, isNone_iff_eq_none] at fine
      exact .inl ⟨fine, rfl⟩
    | some mine =>
      simp only [isOwn, Bool.and_eq_true, Bool.not_eq_true'] at fine
      -- an accepted stream is past auth, so this is the request it peeked at
      have peeks : reportPlace inspected.stream.phase = 3 := by
        refine own.resolve_left fun ahead => ?_
        rw [placed.ahead ahead] at fine
        cases fine.1
      exact .inr ⟨mine, rfl, awaitsRequest_eq_some.mpr ⟨inspector, peeks, isOwn, fine.2⟩⟩

theorem opened_attributed (held : Attributed host) (config : ProxyConfig) :
    Attributed { host with streams := host.streams ++ [.start config] } := by
  have here : ∀ {asked : Nat} {other}, (host.streams ++ [InspectedStream.start config])[asked]? =
      some other → host.streams[asked]? = some other ∨ other = .start config := by
    intro asked other seen
    rw [getElem?_append] at seen
    split at seen
    next => exact .inl seen
    next => exact .inr (mem_singleton.mp (mem_of_getElem? seen))
  have fresh : awaitsRequest (.start config) = none := by
    simp [awaitsRequest, InspectedStream.start, ProxyStream.accept, reportPlace]
  refine ⟨?_, ?_, ?_, ?_, ?_, held.shown⟩
  · intro asked other seen
    rcases here seen with before | rfl
    · exact held.placed asked other before
    · exact ⟨fun _ => rfl, nofun⟩
  · intro asked other prelude seen awaits
    rcases here seen with before | rfl
    · exact held.slot asked other prelude before awaits
    · rw [fresh] at awaits
      cases awaits
  · intro first second one two seenFirst seenSecond awaitsFirst awaitsSecond
    rcases here seenFirst with beforeFirst | rfl
    · rcases here seenSecond with beforeSecond | rfl
      · exact held.unique first second one two beforeFirst beforeSecond awaitsFirst awaitsSecond
      · exact absurd fresh awaitsSecond
    · exact absurd fresh awaitsFirst
  · intro made mem
    obtain ⟨other, seen, facts⟩ := held.made made mem
    exact ⟨other, by rw [getElem?_append_left (List.getElem?_eq_some_iff.mp seen).1]; exact seen,
      facts⟩
  · intro asked other prelude seen inspects accepted isPrelude
    rcases here seen with before | rfl
    · exact held.kept asked other prelude before inspects accepted isPrelude
    · cases accepted

theorem recordResponse_tags (inspector : Inspector) (id : EntryId) (status : UInt16)
    (now : Instant) : (inspector.recordResponse id status now).entries.map entryTag =
      inspector.entries.map entryTag := by
  apply ext_getElem?
  intro place
  simp only [Inspector.recordResponse, getElem?_map, getElem?_modify]
  cases inspector.entries[place]? with
  | none => rfl
  | some =>
    simp only [map_some, Option.map_eq_map]
    split <;> rfl

theorem step_attributed {event : InspectorEvent} {after : InspectorHost}
    (held : Attributed host) (fine : inOrder crates host event = true)
    (step : host.step crates event = some after) : Attributed after := by
  cases event with
  | opened config =>
    cases step
    exact opened_attributed held config
  | proxy =>
    simp only [InspectorHost.step, bind_eq_bind, bind_eq_some_iff] at step
    obtain ⟨inspected, found, next, moved, same⟩ := step
    cases same
    exact proxy_attributed held found fine moved
  | response =>
    cases step
    exact ⟨held.placed, held.slot, held.unique, held.made, held.kept,
      by rw [recordResponse_tags]; exact held.shown⟩

end Host

/-- Every entry made in a stream's call carries that stream's metadata, nothing accepted is
lost, and the inspector shows nothing else. -/
structure Attribution (host : InspectorHost) : Prop where
  own : ∀ made ∈ host.made, ∃ inspected, host.streams[made.stream]? = some inspected ∧
    (made.entry.peer, made.entry.host) = metadataOf inspected.prelude
  /-- the metadata is in an entry, or in the slot while the stream's own request is next -/
  kept : ∀ (index : Nat) inspected prelude, host.streams[index]? = some inspected →
    inspected.config.inspector = true → inspected.accepted = true →
    inspected.prelude = some prelude →
    (∃ made ∈ host.made, made.stream = index ∧
      (made.entry.peer, made.entry.host) = metadataOf (some prelude)) ∨
    awaitsRequest inspected = some prelude ∧
      host.inspector.pendingAccept = some prelude.pendingAccept
  shown : host.inspector.entries.map entryTag <:+ host.made.map fun made => entryTag made.entry

theorem Attributed.attribution {host : InspectorHost} (held : Attributed host) :
    Attribution host where
  own made member := by
    obtain ⟨inspected, seen, -, tags⟩ := held.made made member
    exact ⟨inspected, seen, tags⟩
  kept index inspected prelude seen inspects accepted isPrelude := by
    rcases held.kept index inspected prelude seen inspects accepted isPrelude with
      ⟨made, member, mine⟩ | awaits
    · obtain ⟨other, also, -, tags⟩ := held.made made member
      rw [mine] at also
      cases seen.symm.trans also
      exact .inl ⟨made, member, mine, isPrelude ▸ tags⟩
    · exact .inr ⟨awaits, held.slot index inspected prelude seen awaits⟩
  shown := held.shown

theorem attributed_new : Attributed .new where
  placed _ _ seen := by cases seen
  slot _ _ _ seen := by cases seen
  unique _ _ _ _ seen := by cases seen
  made := nofun
  kept _ _ _ seen := by cases seen
  shown := suffix_refl _

/-- In every interleaving in which the calls of the streams come in order, every entry is its
own stream's. -/
theorem entries_attributed (crates : ProxyCrates) (events : List InspectorEvent)
    (host : InspectorHost)
    (fine : Meets (InspectorHost.step crates) (fun host event => inOrder crates host event = true)
      .new events)
    (reached : run (InspectorHost.step crates) .new events = some host) : Attribution host := by
  refine (run_meets Attributed ?_ attributed_new fine reached).attribution
  exact fun before event after attributed fine stepped => step_attributed attributed fine stepped

/-- Every request is a `GET /`, and the one byte of a prelude tells its peer. -/
def twoPeers : ProxyCrates where
  parseRequest _ := some ⟨some "GET", some "/", []⟩
  prelude := {
    toStdvec := fun _ => none
    fromBytes := fun bytes =>
      some ⟨0, if bytes = [1] then "203.0.113.1:1" else "203.0.113.2:2", some ⟨"app", none⟩⟩ }
  renderLoginPage _ _ := ""

def inspectedTunnel : ProxyConfig := ⟨⟨7⟩, true, true, none⟩

/-- A stream up to its `record_accept`. -/
def upToAccept (index : Nat) (peer : UInt8) : List InspectorEvent :=
  [ProxyEvent.arrive (DataHeader.toBytes ⟨.dataHttp, ⟨7⟩⟩ ++ [1, peer] ++ crlfcrlf), .read 9, .read 1,
    .read 1, .dialled].map fun event => .proxy index event 0 0

def twoStreams : List InspectorEvent :=
  [.opened inspectedTunnel, .opened inspectedTunnel]

theorem entries_attributed_in_turn : ∃ host, run (InspectorHost.step twoPeers) .new
        (twoStreams ++ upToAccept 0 1 ++ [.proxy 0 (.read 4) 0 0] ++ upToAccept 1 2 ++
          [.proxy 1 (.read 4) 0 0]) = some host ∧
      host.made.map (fun made => (made.stream, made.entry.peer)) =
        [(0, some "203.0.113.1:1"), (1, some "203.0.113.2:2")] ∧ Attribution host := by
  have fine : Meets (InspectorHost.step twoPeers)
      (fun host event => inOrder twoPeers host event = true) .new
      (twoStreams ++ upToAccept 0 1 ++ [.proxy 0 (.read 4) 0 0] ++ upToAccept 1 2 ++
        [.proxy 1 (.read 4) 0 0]) := by
    decide +kernel
  have evaluated : (run (InspectorHost.step twoPeers) .new
      (twoStreams ++ upToAccept 0 1 ++ [.proxy 0 (.read 4) 0 0] ++ upToAccept 1 2 ++
        [.proxy 1 (.read 4) 0 0])).map
      (fun host => host.made.map fun made => (made.stream, made.entry.peer)) =
        some [(0, some "203.0.113.1:1"), (1, some "203.0.113.2:2")] := by
    decide +kernel
  obtain ⟨host, reached, entries⟩ := map_eq_some_iff.mp evaluated
  exact ⟨host, reached, entries, entries_attributed twoPeers _ host fine reached⟩

/-- Two streams are accepted one after the other before either has sent its request: the
entry of the first names the peer of the second, the second's names nobody, and the peer of
the first is in no entry and not in the slot. -/
theorem interleaved_accepts_swap_peers : ∃ host, run (InspectorHost.step twoPeers) .new
        (twoStreams ++ upToAccept 0 1 ++ upToAccept 1 2 ++
          [.proxy 0 (.read 4) 0 0, .proxy 1 (.read 4) 0 0]) = some host ∧
      host.streams.map (fun inspected => inspected.prelude.map (·.peer)) =
        [some "203.0.113.1:1", some "203.0.113.2:2"] ∧
      host.made.map (fun made => (made.stream, made.entry.peer)) =
        [(0, some "203.0.113.2:2"), (1, none)] ∧ host.inspector.pendingAccept = none := by
  have evaluated : (run (InspectorHost.step twoPeers) .new
      (twoStreams ++ upToAccept 0 1 ++ upToAccept 1 2 ++
        [.proxy 0 (.read 4) 0 0, .proxy 1 (.read 4) 0 0])).map
      (fun host => (host.streams.map (fun inspected => inspected.prelude.map (·.peer)),
        host.made.map (fun made => (made.stream, made.entry.peer)), host.inspector.pendingAccept)) =
        some ([some "203.0.113.1:1", some "203.0.113.2:2"],
          [(0, some "203.0.113.2:2"), (1, none)], none) := by
    decide +kernel
  obtain ⟨host, reached, facts⟩ := map_eq_some_iff.mp evaluated
  simp only [Prod.mk.injEq] at facts
  exact ⟨host, reached, facts⟩

end KrotRelay.Guarantees
