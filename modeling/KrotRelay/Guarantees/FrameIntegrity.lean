import KrotRelay.Source.ControlLoop

/-!
# The frames of the Control stream

A `read_frame` that waits has already taken bytes off the stream. When `ctrl_rx` wins
the `select!` while it waits, those bytes are lost and the next `read_frame` starts in
the middle of a frame. In a run in which this never happens the loop dispatches the
client's frames, all of them and in order.
-/
namespace KrotRelay.Guarantees
open Source Lib List
open ControlLoop (dispatchOutcome afterDispatch received waiting)

variable {frame : ClientFrame}

/-- What the client writes for one frame. -/
def frameBytes (postcard : Postcard) (frame : ClientFrame) : List UInt8 :=
  match encodeFrame postcard frame with
  | .ok bytes => bytes
  | .error _ => []

def streamBytes (postcard : Postcard) (frames : List ClientFrame) : List UInt8 :=
  frames.flatMap (frameBytes postcard)

/-- A frame the client can write, and that `postcard` decodes to what was encoded. -/
structure Writable (postcard : Postcard) (frame : ClientFrame) : Prop where
  fits : (postcard.toStdvec frame).length ≤ maxFrameSize
  decodes : postcard.fromBytes (postcard.toStdvec frame) = some frame

/-- The frames up to the first one that ends the session. -/
def untilStop : List ClientFrame → List ClientFrame
  | [] => []
  | frame :: rest =>
    match dispatchOutcome frame with
    | .continue => frame :: untilStop rest
    | .stop _ => [frame]

/-- Why a session loop has ended. -/
inductive StopReason (loop : ControlLoop) : Except ServerError SessionOutcome → Prop where
  | watched (set : loop.shutdown = true ∨ loop.revoked = true) : StopReason loop (.ok .terminal)
  | frame (before last reason) (dispatched : loop.dispatched = before ++ [last])
      (stops : dispatchOutcome last = .stop reason) : StopReason loop (.ok reason)
  | failed (problem) : StopReason loop (.error problem)
  | ended (stopped : loop.ended = true) : StopReason loop (.ok .dropped)

theorem StopReason.mono {before after : ControlLoop} {result : Except ServerError SessionOutcome}
    (reason : StopReason before result) (dispatched : after.dispatched = before.dispatched)
    (shutdown : before.shutdown = true → after.shutdown = true)
    (revoked : before.revoked = true → after.revoked = true)
    (ended : before.ended = true → after.ended = true) : StopReason after result := by
  cases reason with
  | watched set => exact .watched (set.imp shutdown revoked)
  | frame earlier last reason found stops =>
    exact .frame earlier last reason (dispatched.trans found) stops
  | failed problem => exact .failed problem
  | ended stopped => exact .ended (ended stopped)

structure FramesIntact (postcard : Postcard) (frames : List ClientFrame) (loop : ControlLoop) :
    Prop where
  ordered : loop.dispatched <+: frames
  /-- no byte is lost or duplicated: what was read since the last frame, what has arrived
  and what is on its way are the bytes of the frames still to be dispatched -/
  whole : loop.consumed ++ loop.arrived ++ loop.incoming =
    streamBytes postcard (frames.drop loop.dispatched.length)
  stopped : ∀ result, loop.outcome = some result → StopReason loop result
  /-- once everything has arrived, polling dispatches the rest, up to a frame that ends it -/
  delivered : loop.outcome = none → loop.shutdown = false → loop.revoked = false →
    loop.incoming = [] → ∃ last, run (ControlLoop.step postcard) loop
        (List.replicate (untilStop (frames.drop loop.dispatched.length)).length (.poll none)) =
          some last ∧
      last.dispatched = loop.dispatched ++ untilStop (frames.drop loop.dispatched.length)

/-- No frame for the client is waiting on `ctrl_rx` when the loop is polled with part of
a client's frame read. -/
def NoneCutShort (loop : ControlLoop) : ControlLoop.Event → Prop
  | .poll _ =>
    loop.shutdown = false → loop.revoked = false → loop.ended = false →
    ∀ reader, loop.reader.poll loop.arrived = .pending reader →
      loop.consumed ++ loop.arrived = [] ∨ loop.ctrl = []
  | _ => True

section Reading
variable {postcard : Postcard}

theorem encodeFrame_of_writable (writable : Writable postcard frame) :
    encodeFrame postcard frame = .ok (frameBytes postcard frame) := by
  have fits := writable.fits
  simp only [frameBytes, encodeFrame]
  rw [if_neg (by omega)]

/-- What `read_frame` makes of bytes that start a frame: it waits as long as one is missing. -/
theorem poll_frameBytes (writable : Writable postcard frame) {read tail rest : List UInt8}
    (split : read ++ tail = frameBytes postcard frame ++ rest) :
    (∃ after, read = frameBytes postcard frame ++ after ∧ rest = after ++ tail ∧
      FrameReader.start.poll read = .frame (postcard.toStdvec frame) after) ∨
    (read.length < (frameBytes postcard frame).length ∧
      ∃ reader, FrameReader.start.poll read = .pending reader) := by
  have encoded := encodeFrame_of_writable writable
  rcases append_eq_append_iff.mp split with ⟨missing, whole, tails⟩ | ⟨after, whole, rests⟩
  · by_cases complete : missing = []
    · subst complete
      refine .inl ⟨[], by simpa using whole.symm, by simpa using tails.symm, ?_⟩
      have done := poll_encodeFrame postcard frame _ [] encoded
      simpa [whole] using done
    · refine .inr ⟨?_, ?_⟩
      · have positive : 0 < missing.length := length_pos_iff.mpr complete
        rw [whole, length_append]
        omega
      · -- anything else than waiting would contradict the round trip
        have done := poll_encodeFrame postcard frame _ [] encoded
        rw [whole, append_nil, poll_append] at done
        cases polled : FrameReader.start.poll read with
        | pending reader => exact ⟨reader, rfl⟩
        | failed => simp [polled] at done
        | frame =>
          simp only [polled, ReadResult.frame.injEq, append_eq_nil_iff] at done
          exact absurd done.2.2 complete
  · refine .inl ⟨after, whole, rests, ?_⟩
    rw [whole]
    exact poll_encodeFrame postcard frame _ after encoded

end Reading

/-- The loop and the list of frames are in step. -/
structure InStep (postcard : Postcard) (frames : List ClientFrame) (loop : ControlLoop) : Prop where
  split : ∃ rest, frames = loop.dispatched ++ rest ∧
    loop.consumed ++ loop.arrived ++ loop.incoming = streamBytes postcard rest
  reading : FrameReader.start.poll loop.consumed = .pending loop.reader
  stopped : ∀ result, loop.outcome = some result → StopReason loop result

section Loop
variable {postcard : Postcard} {loop : ControlLoop}

theorem reader_poll (reading : FrameReader.start.poll loop.consumed = .pending loop.reader) :
    loop.reader.poll loop.arrived = FrameReader.start.poll (loop.consumed ++ loop.arrived) := by
  rw [poll_append, reading]

/-- With the next frame complete the loop dispatches it, and what is left are the bytes
of the later frames; otherwise it waits. -/
theorem next_frame (writable : ∀ frame ∈ rest, Writable postcard frame)
    (reading : FrameReader.start.poll loop.consumed = .pending loop.reader)
    (bytes : loop.consumed ++ loop.arrived ++ loop.incoming = streamBytes postcard rest) :
    (∃ frame more after, rest = frame :: more ∧
      loop.reader.poll loop.arrived = .frame (postcard.toStdvec frame) after ∧
      after ++ loop.incoming = streamBytes postcard more) ∨
    ((rest = [] ∨ loop.incoming ≠ []) ∧
      ∃ reader, loop.reader.poll loop.arrived = .pending reader) := by
  rw [reader_poll reading]
  cases rest with
  | nil =>
    simp only [streamBytes, flatMap_nil, append_eq_nil_iff] at bytes
    exact .inr ⟨.inl rfl, .start, by rw [bytes.1.1, bytes.1.2]; rfl⟩
  | cons frame more =>
    have cut : loop.consumed ++ loop.arrived ++ loop.incoming =
        frameBytes postcard frame ++ streamBytes postcard more := by
      simpa [streamBytes] using bytes
    rcases poll_frameBytes (writable frame mem_cons_self) cut with
      ⟨after, _, remaining, done⟩ | ⟨short, waits⟩
    · exact .inl ⟨frame, more, after, rfl, done, remaining.symm⟩
    · refine .inr ⟨.inr ?_, waits⟩
      intro none
      have lengths := congrArg List.length cut
      simp only [none, append_nil, length_append] at lengths short
      omega

/-- The state after a frame was received and dispatched. -/
theorem received_eq (writable : Writable postcard frame) (after : List UInt8)
    (problem : Option ServerError) :
    loop.received postcard (postcard.toStdvec frame) after problem = afterDispatch { loop with
          arrived := after
          reader := .start
          consumed := []
          dispatched := loop.dispatched ++ [frame] } frame problem := by
  simp only [received, writable.decodes]

/-- A dispatch changes nothing but, perhaps, the outcome; and then for a reason. -/
theorem afterDispatch_fields (loop : ControlLoop) (frame : ClientFrame)
    (problem : Option ServerError) :
    ∃ outcome, afterDispatch loop frame problem = { loop with outcome := outcome } ∧
      (outcome = loop.outcome ∨ (∃ problem, outcome = some (.error problem)) ∨
        ∃ reason, dispatchOutcome frame = .stop reason ∧ outcome = some (.ok reason)) := by
  cases problem with
  | some problem => exact ⟨_, rfl, .inr (.inl ⟨problem, rfl⟩)⟩
  | none =>
    simp only [afterDispatch]
    cases result : dispatchOutcome frame with
    | «continue» => exact ⟨loop.outcome, rfl, .inl rfl⟩
    | stop reason => exact ⟨_, rfl, .inr (.inr ⟨reason, rfl, rfl⟩)⟩

end Loop

namespace InStep

variable {postcard : Postcard} {frames : List ClientFrame} {loop : ControlLoop}
  (inStep : InStep postcard frames loop) (writable : ∀ frame ∈ frames, Writable postcard frame)
include inStep writable

theorem poll (problem : Option ServerError) (running : loop.outcome = none)
    (careful : NoneCutShort loop (.poll problem)) :
    InStep postcard frames (loop.poll postcard problem) := by
  obtain ⟨⟨rest, listed, bytes⟩, reading, _⟩ := inStep
  have later : ∀ frame ∈ rest, Writable postcard frame := by
    intro frame mem
    exact writable frame (listed ▸ mem_append_right _ mem)
  rw [ControlLoop.poll]
  split
  · rename_i watched
    refine ⟨⟨rest, listed, bytes⟩, reading, ?_⟩
    intro result done
    cases done
    exact .watched (by simpa using watched)
  · rename_i unwatched
    simp only [Bool.or_eq_true, not_or, Bool.not_eq_true] at unwatched
    rcases next_frame later reading bytes with
      ⟨frame, more, after, rfl, polled, remaining⟩ | ⟨_, reader, polled⟩
    · simp only [polled]
      rw [received_eq (later frame mem_cons_self)]
      obtain ⟨outcome, same, reason⟩ := afterDispatch_fields { loop with
        arrived := after
        reader := .start
        consumed := []
        dispatched := loop.dispatched ++ [frame] } frame problem
      rw [same]
      refine ⟨⟨more, by simpa using listed, by simpa using remaining⟩, rfl, ?_⟩
      intro result done
      rcases reason with unchanged | ⟨problem, failed⟩ | ⟨reason, stops, stopped⟩
      · rw [show outcome = none from unchanged.trans running] at done
        cases done
      · rw [failed] at done
        cases done
        exact .failed problem
      · rw [stopped] at done
        cases done
        exact .frame loop.dispatched frame reason rfl stops
    · simp only [polled, waiting]
      split
      · rename_i stopped
        refine ⟨⟨rest, listed, by simpa using bytes⟩, ?_, ?_⟩
        · rw [← reader_poll reading, polled]
        · intro result done
          cases done
          exact .ended stopped
      · rename_i open_
        have cut := careful unwatched.1 unwatched.2 (by simpa using open_) reader polled
        split
        · refine ⟨⟨rest, listed, by simpa using bytes⟩, ?_, ?_⟩
          · rw [← reader_poll reading, polled]
          · intro result done
            rw [running] at done
            cases done
        · rename_i outbound queued waiting
          -- a frame was waiting, so the dropped future had read nothing
          have nothing : loop.consumed ++ loop.arrived = [] := by
            rcases cut with nothing | none
            · exact nothing
            · rw [none] at waiting
              cases waiting
          rw [nothing, nil_append] at bytes
          refine ⟨⟨rest, listed, by simpa using bytes⟩, rfl, ?_⟩
          intro result done
          rw [running] at done
          cases done

theorem step (event : ControlLoop.Event) (next : ControlLoop)
    (stepped : loop.step postcard event = some next) (careful : NoneCutShort loop event) :
    InStep postcard frames next := by
  -- events that touch neither the reader nor the dispatched frames
  have background : ∀ next : ControlLoop, next.dispatched = loop.dispatched →
      next.consumed = loop.consumed → next.reader = loop.reader → next.outcome = loop.outcome →
      next.arrived ++ next.incoming = loop.arrived ++ loop.incoming →
      (loop.shutdown = true → next.shutdown = true) → (loop.revoked = true → next.revoked = true) →
      (loop.ended = true → next.ended = true) → InStep postcard frames next := by
    intro next dispatched consumed reader outcome bytes shutdown revoked ended
    obtain ⟨⟨rest, listed, whole⟩, reading, stopped⟩ := inStep
    refine ⟨⟨rest, by rw [dispatched]; exact listed, ?_⟩, by rw [consumed, reader]; exact reading, ?_⟩
    · rw [consumed, append_assoc, bytes, ← append_assoc]
      exact whole
    · intro result done
      exact (stopped result (outcome ▸ done)).mono dispatched shutdown revoked ended
  cases event with
  | arrive =>
    simp only [ControlLoop.step] at stepped
    split at stepped
    · cases stepped
    · cases stepped
      exact background _ rfl rfl rfl rfl (by simp) id id id
  | endOfStream => cases stepped; exact background _ rfl rfl rfl rfl rfl id id fun _ => rfl
  | post => cases stepped; exact background _ rfl rfl rfl rfl rfl id id id
  | shutdown => cases stepped; exact background _ rfl rfl rfl rfl rfl (fun _ => rfl) id id
  | revoke => cases stepped; exact background _ rfl rfl rfl rfl rfl id (fun _ => rfl) id
  | poll problem =>
    simp only [ControlLoop.step] at stepped
    split at stepped
    · cases stepped
    · rename_i running
      cases stepped
      exact inStep.poll writable problem running careful

end InStep

/-- Polling a loop to which everything has arrived. -/
theorem drain {postcard : Postcard} (loop : ControlLoop)
    (writable : ∀ frame ∈ rest, Writable postcard frame)
    (reading : FrameReader.start.poll loop.consumed = .pending loop.reader)
    (bytes : loop.consumed ++ loop.arrived ++ loop.incoming = streamBytes postcard rest)
    (running : loop.outcome = none) (shutdown : loop.shutdown = false)
    (revoked : loop.revoked = false) (arrived : loop.incoming = []) :
    ∃ last, run (ControlLoop.step postcard) loop
        (List.replicate (untilStop rest).length (.poll none)) = some last ∧
      last.dispatched = loop.dispatched ++ untilStop rest := by
  induction rest generalizing loop with
  | nil => exact ⟨loop, rfl, by simp [untilStop]⟩
  | cons frame more ih =>
    rcases next_frame writable reading bytes with
      ⟨_, _, after, same, polled, remaining⟩ | ⟨missing, _⟩
    · cases same
      obtain ⟨taken, fields⟩ : ∃ taken : ControlLoop, taken = { loop with
        arrived := after
        reader := .start
        consumed := []
        dispatched := loop.dispatched ++ [frame] } := ⟨_, rfl⟩
      have polls : loop.poll postcard none = taken.afterDispatch frame none := by
        rw [ControlLoop.poll, if_neg (by simp [shutdown, revoked]), polled, fields]
        exact received_eq (writable frame mem_cons_self) after none
      have step : loop.step postcard (.poll none) = some (taken.afterDispatch frame none) := by
        simp only [ControlLoop.step]
        split
        · rename_i done
          rw [running] at done
          cases done
        · rw [polls]
      rw [untilStop]
      cases result : dispatchOutcome frame with
      | «continue» =>
        simp only [afterDispatch, result] at step
        obtain ⟨last, ran, dispatched⟩ := ih taken
          (fun later mem => writable later (mem_cons_of_mem _ mem))
          (by rw [fields]; rfl) (by simpa [fields] using remaining) (by rw [fields]; exact running)
          (by rw [fields]; exact shutdown) (by rw [fields]; exact revoked)
          (by rw [fields]; exact arrived)
        refine ⟨last, ?_, by simpa [fields] using dispatched⟩
        rw [length_cons, replicate_succ, run_cons]
        exact ⟨_, step, ran⟩
      | stop =>
        simp only [afterDispatch, result] at step
        exact ⟨_, (run_single _ _ _ _).mpr step, by rw [fields]⟩
    · rcases missing with impossible | impossible
      · cases impossible
      · exact absurd arrived impossible

theorem control_frames_intact (postcard : Postcard) (frames : List ClientFrame)
    (writable : ∀ frame ∈ frames, Writable postcard frame) (events : List ControlLoop.Event)
    (loop : ControlLoop)
    (finished : run (ControlLoop.step postcard) (.start (streamBytes postcard frames)) events =
      some loop)
    (careful : Meets (ControlLoop.step postcard) NoneCutShort
      (.start (streamBytes postcard frames)) events) : FramesIntact postcard frames loop := by
  have start : InStep postcard frames (.start (streamBytes postcard frames)) :=
    ⟨⟨frames, rfl, rfl⟩, rfl, fun _ impossible => by cases impossible⟩
  obtain ⟨⟨rest, listed, bytes⟩, reading, stopped⟩ :=
    run_meets (InStep postcard frames)
      (fun _ event next inStep careful stepped => inStep.step writable event next stepped careful)
      start careful finished
  have remaining : frames.drop loop.dispatched.length = rest := by
    rw [listed, drop_left]
  refine ⟨⟨rest, listed.symm⟩, by rw [remaining]; exact bytes, stopped, ?_⟩
  intro running shutdown revoked arrived
  rw [remaining]
  exact drain loop (fun frame member => writable frame (listed ▸ mem_append_right _ member))
    reading bytes running shutdown revoked arrived

section Example

/-- The encodings `postcard` gives these two frames: a variant index and the fields. -/
private def twoFrames : Postcard where
  toStdvec
    | .ping nonce => [4, nonce.toUInt8]
    | .bye => [5]
    | _ => []
  fromBytes
    | [4, nonce] => some (.ping nonce.toUInt64)
    | [5] => some .bye
    | _ => none

private theorem twoFrames_writable :
    ∀ frame ∈ [ClientFrame.ping 7, .bye], Writable twoFrames frame := by
  intro frame mem
  simp only [mem_cons, not_mem_nil, or_false] at mem
  rcases mem with rfl | rfl <;> exact ⟨by decide, rfl⟩

private def inTwoPieces : List ControlLoop.Event :=
  [.arrive 2, .poll none, .arrive 3, .post (.rateLimit none 1000), .poll none]

private theorem inTwoPieces_careful : Meets (ControlLoop.step twoFrames) NoneCutShort
    (.start (streamBytes twoFrames [.ping 7, .bye])) inTwoPieces := by
  refine ⟨trivial, fun _ first => ?_⟩
  cases first
  refine ⟨fun _ _ _ _ _ => .inr rfl, fun _ second => ?_⟩
  cases second
  refine ⟨trivial, fun _ third => ?_⟩
  cases third
  refine ⟨trivial, fun _ fourth => ?_⟩
  cases fourth
  refine ⟨?_, fun _ _ => trivial⟩
  intro _ _ _ reader pending
  cases pending

theorem control_frames_intact_pieces :
    (final (ControlLoop.step twoFrames) (.start (streamBytes twoFrames [.ping 7, .bye]))
      inTwoPieces).dispatched = [.ping 7] ∧
    FramesIntact twoFrames [.ping 7, .bye]
      (final (ControlLoop.step twoFrames) (.start (streamBytes twoFrames [.ping 7, .bye]))
        inTwoPieces) :=
  ⟨rfl, control_frames_intact twoFrames _ twoFrames_writable inTwoPieces _ (run_final rfl)
    inTwoPieces_careful⟩

/-- A quota notice between the two halves of the first frame: both frames are lost. -/
theorem notice_cuts_frame_short :
    let last := final (ControlLoop.step twoFrames) (.start (streamBytes twoFrames [.ping 7, .bye]))
      [.arrive 1, .poll none, .post (.rateLimit none 1000), .poll none, .arrive 4, .poll none,
        .poll none]
    last.incoming = [] ∧ last.arrived = [] ∧ last.outcome = none ∧ last.dispatched = [] ∧
      last.reader = .payload 4 [7, 1, 5] :=
  ⟨rfl, rfl, rfl, rfl, rfl⟩

end Example

end KrotRelay.Guarantees
