import KrotRelay.Guarantees.MuxFrames
import KrotRelay.Lib.Run
import KrotRelay.Source.MuxEffects

/-!
# The sending side of a mux

What every event can do to the sending halves and to the frames queued, and what holds of
them in every run, whatever is written and whatever the other end sends.
-/
namespace KrotRelay.Guarantees
open Source Lib

/-- A mux, the streams opened here other than Control, and every frame queued with the half
that queued it. -/
structure Outbound where
  mux : Mux
  opened : List ChannelId
  log : List (ChannelId × MuxFrame)

/-- The half an event works on; one that is opened is the next channel. -/
def halfOf (mux : Mux) : Mux.Event → ChannelId
  | .write channel _ | .finish channel => channel
  | _ => mux.endpoints.length

/-- The stream a successful open returns, unless it existed already as Control does. -/
def newStream (mux : Mux) : Except TransportError ChannelId → List ChannelId
  | .ok channel => if channel < mux.endpoints.length then [] else [channel]
  | .error _ => []

def openedBy (mux : Mux) : Mux.Event → List ChannelId
  | .openDataStream header => newStream mux (mux.openDataStream header).1
  | .openBi => newStream mux mux.openBi.1
  | _ => []

namespace Outbound

def new (isServer : Bool) : Outbound := ⟨Mux.new isServer, [], []⟩

def step (outbound : Outbound) (event : Mux.Event) : Option Outbound :=
  (outbound.mux.step event).map fun next =>
    { mux := next
      opened := outbound.opened ++ openedBy outbound.mux event
      log := outbound.log ++
        (next.sent.drop outbound.mux.sent.length).map (halfOf outbound.mux event, ·) }

/-- The frames one half has queued. -/
def framesOf (outbound : Outbound) (channel : ChannelId) : List MuxFrame :=
  (outbound.log.filter (·.1 == channel)).map (·.2)

end Outbound

/-- How many of the next bytes written go into an OPEN. -/
def owedBytes (mux : Mux) (channel : ChannelId) : Nat :=
  match mux.endpoints[channel]? with
  | some { send := some { pendingOpen := some pending, .. }, .. } => 9 - pending.length
  | _ => 0

/-- The event takes an id from the counter. -/
def mintsId (mux : Mux) : Mux.Event → Bool
  | .openDataStream _ => !mux.closed
  | .openBi => !mux.closed && (mux.isServer || mux.controlRecvSlot.isNone)
  | _ => false

/-- What a write leaves behind the OPEN fits one frame, and no id is zero. -/
def fitsFrame (mux : Mux) (event : Mux.Event) : Bool :=
  (!mintsId mux event || mux.nextStreamId != controlStreamId) && match event with
    | .write channel buf => (buf.drop (owedBytes mux channel)).length ≤ maxMuxPayload
    | _ => true

/-! ## The sending halves -/

/-- Stream id and sending half of a channel. -/
def sendHalf (mux : Mux) (channel : ChannelId) : Option (UInt32 × Option SendStream) :=
  (mux.endpoints[channel]?).map fun endpoint => (endpoint.streamId, endpoint.send)

theorem sendHalf_modify (mux : Mux) (chan queried : ChannelId) (change : Endpoint → Endpoint)
    (same : ∀ endpoint, (change endpoint).streamId = endpoint.streamId ∧
      (change endpoint).send = endpoint.send) :
    sendHalf (mux.modify chan change) queried = sendHalf mux queried := by
  unfold sendHalf
  rw [Mux.endpoint_modify]
  split
  · rw [Option.map_map]
    congr 1
    funext endpoint
    simp only [Function.comp, (same endpoint).1, (same endpoint).2]
  · rfl

theorem sendHalf_setSend (mux : Mux) (chan queried : ChannelId) (send : SendStream) :
    sendHalf (mux.setSend chan send) queried =
      if queried = chan then (sendHalf mux queried).map fun half => (half.1, some send)
      else sendHalf mux queried := by
  unfold sendHalf Mux.setSend
  rw [Mux.endpoint_modify]
  split
  · rw [Option.map_map, Option.map_map]
    rfl
  · rfl

theorem sendHalf_handOut (mux : Mux) (chan queried : ChannelId) (leftover : List UInt8) :
    sendHalf (mux.handOut chan leftover) queried =
      if queried = chan then (sendHalf mux queried).map fun half => (half.1, some ⟨none, false, []⟩)
      else sendHalf mux queried := by
  unfold sendHalf Mux.handOut
  rw [Mux.endpoint_modify]
  split
  · rw [Option.map_map, Option.map_map]
    rfl
  · rfl

theorem sendHalf_register (mux : Mux) (endpoint : Endpoint) (queried : ChannelId) :
    sendHalf (mux.register endpoint) queried =
      if queried = mux.endpoints.length then some (endpoint.streamId, endpoint.send)
      else sendHalf mux queried := by
  unfold sendHalf
  rw [Mux.endpoint_register]
  split <;> rfl

theorem sendHalf_eq_none_iff (mux : Mux) (channel : ChannelId) :
    sendHalf mux channel = none ↔ mux.endpoints.length ≤ channel := by
  rw [sendHalf, Option.map_eq_none_iff, List.getElem?_eq_none_iff]

variable {mux next : Mux}

/-! ## Writing and finishing -/

/-- One half moves from `send` to `after` and queues some frames; nothing else changes. -/
structure Emits (mux : Mux) (channel : ChannelId) (streamId : UInt32) (send : SendStream)
    (frames : List MuxFrame) (after : SendStream) (next : Mux) : Prop where
  before : sendHalf mux channel = some (streamId, some send)
  now : sendHalf next channel = some (streamId, some after)
  others : ∀ queried, queried ≠ channel → sendHalf next queried = sendHalf mux queried
  sent : next.sent = mux.sent ++ frames
  length : next.endpoints.length = mux.endpoints.length
  waiting : next.acceptQueue = mux.acceptQueue
  slot : next.controlRecvSlot = mux.controlRecvSlot
  writer : next.writer = mux.writer

namespace Emits
variable {chan : ChannelId} {streamId : UInt32} {send middle after : SendStream}

theorem refl (before : sendHalf mux chan = some (streamId, some send)) :
    Emits mux chan streamId send [] send mux :=
  ⟨before, before, fun _ _ => rfl, (List.append_nil _).symm, rfl, rfl, rfl, rfl⟩

theorem setSend (before : sendHalf mux chan = some (streamId, some send)) (after : SendStream) :
    Emits mux chan streamId send [] after (mux.setSend chan after) where
  before := before
  now := by rw [sendHalf_setSend, if_pos rfl, before]; rfl
  others asked differs := by rw [sendHalf_setSend, if_neg differs]
  sent := (List.append_nil _).symm
  length := List.length_modify _ _ _
  waiting := rfl
  slot := rfl
  writer := rfl

theorem emit {frame : MuxFrame} (before : sendHalf mux chan = some (streamId, some send))
    (emitted : mux.emit frame = some next) : Emits mux chan streamId send [frame] send next := by
  obtain rfl := Mux.emit_eq_some frame emitted
  exact ⟨before, before, fun _ _ => rfl, rfl, rfl, rfl, rfl, rfl⟩

theorem trans {between : Mux} {early late : List MuxFrame}
    (first : Emits mux chan streamId send early middle between)
    (second : Emits between chan streamId middle late after next) :
    Emits mux chan streamId send (early ++ late) after next where
  before := first.before
  now := second.now
  others asked differs :=
    (second.others asked differs).trans (first.others asked differs)
  sent := by rw [second.sent, first.sent, List.append_assoc]
  length := second.length.trans first.length
  waiting := second.waiting.trans first.waiting
  slot := second.slot.trans first.slot
  writer := second.writer.trans first.writer

end Emits

/-- The OPEN that is sent first if it is still owed. -/
def Opening (streamId : UInt32) (send : SendStream) (frames : List MuxFrame) : Prop :=
  match send.pendingOpen with
  | none => frames = []
  | some pending => ∃ payload, frames = [Mux.openFrame streamId payload] ∧
      (pending.length < 9 → payload.length = 9)

/-- A half before and after a write or a finish. With the writer gone an OPEN that was due
is lost, and nothing is queued ever after. -/
inductive HalfMove (gone within : Prop) (streamId : UInt32) (send : SendStream) :
    List MuxFrame → SendStream → Prop where
  | still : HalfMove gone within streamId send [] send
  | buffers {pending more after} (running : send.finished = false)
      (owed : send.pendingOpen = some pending) (owes : after.pendingOpen = some more)
      (short : pending.length < 9 → more.length < 9) (runs : after.finished = false) :
      HalfMove gone within streamId send [] after
  | lost {after} (isGone : gone) (running : send.finished = false)
      (opened : after.pendingOpen = none) : HalfMove gone within streamId send [] after
  | writes {opening data} {after} (running : send.finished = false)
      (opens : Opening streamId send opening)
      (follows : ∀ frame ∈ data, frame.header.flag = .data ∧ (within → Sendable frame))
      (silenced : gone → opening ++ data = []) (opened : after.pendingOpen = none)
      (runs : after.finished = false) :
      HalfMove gone within streamId send (opening ++ data) after
  | finishes {opening} {after} (running : send.finished = false)
      (opens : Opening streamId send opening) (present : ¬ gone)
      (opened : after.pendingOpen = none) (finished : after.finished = true) :
      HalfMove gone within streamId send (opening ++ [Mux.finFrame streamId]) after

section Calls
variable {chan : ChannelId} {streamId : UInt32} {send : SendStream}

theorem emit_none_iff (frame : MuxFrame) : mux.emit frame = none ↔ mux.writer = .done := by
  unfold Mux.emit
  split <;> simp [*]

theorem writeData_emits (before : sendHalf mux chan = some (streamId, some send))
    (cursor : Nat) (rest : List UInt8) : ∃ data after, Emits mux chan streamId send data after
        (mux.writeData chan streamId send cursor rest).2 ∧
      (∀ frame ∈ data, frame.header.flag = .data ∧ (rest.length ≤ maxMuxPayload → Sendable frame)) ∧
      (mux.writer = .done → data = []) ∧ after.pendingOpen = send.pendingOpen ∧
      after.finished = send.finished := by
  unfold Mux.writeData
  split
  · exact ⟨[], send, .refl before, by simp, fun _ => rfl, rfl, rfl⟩
  next some_ =>
    split
    · exact ⟨[], send, .refl before, by simp, fun _ => rfl, rfl, rfl⟩
    next sent emitted =>
      have emits := Emits.emit before emitted
      refine ⟨_, _, emits.trans (.setSend emits.now _), ?_, fun gone => ?_, rfl, rfl⟩
      · intro frame mem
        cases List.mem_singleton.mp (by simpa using mem)
        exact ⟨rfl, sendable_data streamId some_⟩
      · rw [(emit_none_iff _).mpr gone] at emitted
        cases emitted

theorem pollWrite_moves {buf : List UInt8} {answer : Except String Nat} (within : Prop)
    (limit : within → (buf.drop (owedBytes mux chan)).length ≤ maxMuxPayload)
    (polled : mux.pollWrite chan buf = some (answer, next)) :
    ∃ streamId send frames after, Emits mux chan streamId send frames after next ∧
      HalfMove (mux.writer = .done) within streamId send frames after := by
  unfold Mux.pollWrite at polled
  split at polled
  · next streamId queue recv send delivered found =>
    have before : sendHalf mux chan = some (streamId, some send) := by
      rw [sendHalf, found]
      rfl
    have owes : owedBytes mux chan = match send.pendingOpen with
        | some pending => 9 - pending.length
        | none => 0 := by
      unfold owedBytes
      rw [found]
      obtain ⟨pendingOpen, ran, written⟩ := send
      cases pendingOpen <;> rfl
    split at polled
    · cases polled
      exact ⟨streamId, send, [], send, .refl before, .still⟩
    next open_ =>
      have running : send.finished = false := by
        simp only [Bool.or_eq_true, not_or, Bool.not_eq_true] at open_
        exact open_.1
      cases owed : send.pendingOpen with
      | none =>
        simp only [owed, Option.some.injEq] at polled owes
        obtain ⟨data, after, emits, follows, silenced, opened, ran⟩ :=
          writeData_emits before 0 buf
        rw [polled] at emits
        rw [owes, List.drop_zero] at limit
        have opens : Opening streamId send [] := by rw [Opening, owed]
        exact ⟨streamId, send, data, after, emits, .writes running opens
          (fun frame mem => (follows frame mem).imp_right (· ∘ limit)) silenced
          (opened.trans owed) (ran.trans running)⟩
      | some pending =>
        simp only [owed] at polled owes
        split at polled
        next nine =>
          have marked := Emits.setSend before { send with
            pendingOpen := none, written := send.written ++ buf.take (9 - pending.length) }
          split at polled
          next lost =>
            have gone := (emit_none_iff _).mp lost
            cases polled
            exact ⟨streamId, send, [], _, marked, .lost gone running rfl⟩
          next emitted emits =>
            have opening := marked.trans (Emits.emit marked.now emits)
            obtain ⟨data, after, wrote, follows, -, opened, ran⟩ := writeData_emits opening.now
              (buf.take (9 - pending.length)).length (buf.drop (buf.take (9 - pending.length)).length)
            rw [Option.some.inj polled] at wrote
            have opens : Opening streamId send
                [Mux.openFrame streamId (pending ++ buf.take (9 - pending.length))] := by
              rw [Opening, owed]
              exact ⟨_, rfl, fun _ => nine⟩
            have rest : within →
                (buf.drop (buf.take (9 - pending.length)).length).length ≤ maxMuxPayload := by
              intro fits
              have few := limit fits
              rw [owes] at few
              rw [List.length_drop, List.length_take] at *
              omega
            refine ⟨streamId, send, _, after, opening.trans wrote, .writes running opens
              (fun frame mem => (follows frame mem).imp_right (· ∘ rest)) (fun gone => ?_)
              opened (ran.trans running)⟩
            have refused : (mux.setSend chan { send with
                pendingOpen := none,
                written := send.written ++ buf.take (9 - pending.length) }).emit
                  (Mux.openFrame streamId (pending ++ buf.take (9 - pending.length))) = none :=
              if_pos gone
            rw [refused] at emits
            cases emits
        next fewer =>
          cases polled
          refine ⟨streamId, send, [], _, .setSend before _, .buffers running owed rfl ?_ running⟩
          rw [List.length_append, List.length_take] at *
          omega
  · cases polled

theorem finish_moves {answer : Except TransportError Unit} (within : Prop)
    (polled : mux.finish chan = some (answer, next)) :
    ∃ streamId send frames after, Emits mux chan streamId send frames after next ∧
      HalfMove (mux.writer = .done) within streamId send frames after := by
  unfold Mux.finish at polled
  split at polled
  · next streamId queue recv send delivered found =>
    have before : sendHalf mux chan = some (streamId, some send) := by
      rw [sendHalf, found]
      rfl
    split at polled
    · cases polled
      exact ⟨streamId, send, [], send, .refl before, .still⟩
    next open_ =>
      have running : send.finished = false := Bool.eq_false_iff.mpr open_
      have marked := Emits.setSend before { send with finished := true, pendingOpen := none }
      by_cases gone : mux.writer = .done
      · -- nothing is queued any more
        have refused : ∀ frame, (mux.setSend chan
            { send with finished := true, pendingOpen := none }).emit frame = none :=
          fun frame => if_pos gone
        cases owed : send.pendingOpen with
        | none | some =>
          simp only [owed, refused, Option.getD_none, Option.some.injEq, Prod.mk.injEq] at polled
          obtain ⟨-, rfl⟩ := polled
          exact ⟨streamId, send, [], _, marked, .lost gone running rfl⟩
      · have accepted : ∀ {state : Mux} (frame : MuxFrame), state.writer = mux.writer →
            ∃ sent, state.emit frame = some sent :=
          fun frame same => ⟨_, if_neg (same ▸ gone)⟩
        cases owed : send.pendingOpen with
        | none =>
          obtain ⟨sent, ended⟩ := accepted (Mux.finFrame streamId) marked.writer
          simp only [owed, ended, Option.some.injEq, Prod.mk.injEq] at polled
          obtain ⟨-, rfl⟩ := polled
          have opens : Opening streamId send [] := by rw [Opening, owed]
          exact ⟨streamId, send, _, _, marked.trans (.emit marked.now ended),
            .finishes running opens gone rfl rfl⟩
        | some pending =>
          obtain ⟨opened, emitted⟩ := accepted (Mux.openFrame streamId
            (pending ++ List.replicate (9 - pending.length) 0)) marked.writer
          have opening := marked.trans (Emits.emit marked.now emitted)
          obtain ⟨sent, ended⟩ := accepted (Mux.finFrame streamId) opening.writer
          simp only [owed, emitted, Option.getD_some, ended, Option.some.injEq,
            Prod.mk.injEq] at polled
          obtain ⟨-, rfl⟩ := polled
          have opens : Opening streamId send [Mux.openFrame streamId
              (pending ++ List.replicate (9 - pending.length) 0)] := by
            rw [Opening, owed]
            refine ⟨_, rfl, fun short => ?_⟩
            rw [List.length_append, List.length_replicate]
            omega
          exact ⟨streamId, send, _, _, opening.trans (.emit opening.now ended),
            .finishes running opens gone rfl rfl⟩
  · cases polled

end Calls

/-! ## One step of the sending side -/

/-- The channels whose halves are still to be handed out. -/
def waitingOf (mux : Mux) : List ChannelId := mux.acceptQueue ++ mux.controlRecvSlot.toList

structure Quiet (mux next : Mux) : Prop where
  half : ∀ channel, sendHalf next channel = sendHalf mux channel
  sent : next.sent = mux.sent
  length : next.endpoints.length = mux.endpoints.length
  waiting : waitingOf next = waitingOf mux
  done : mux.writer = .done → next.writer = .done

structure HandsOut (mux : Mux) (channel : ChannelId) (next : Mux) : Prop where
  half : ∀ queried, sendHalf next queried =
    if queried = channel then (sendHalf mux queried).map fun half => (half.1, some ⟨none, false, []⟩)
    else sendHalf mux queried
  sent : next.sent = mux.sent
  length : next.endpoints.length = mux.endpoints.length
  waiting : (waitingOf mux).Perm (channel :: waitingOf next)
  writer : next.writer = mux.writer

structure Makes (mux : Mux) (streamId : UInt32) (send : Option SendStream)
    (frames : List MuxFrame) (next : Mux) : Prop where
  half : ∀ queried, sendHalf next queried =
    if queried = mux.endpoints.length then some (streamId, send) else sendHalf mux queried
  sent : next.sent = mux.sent ++ frames
  length : next.endpoints.length = mux.endpoints.length + 1
  writer : next.writer = mux.writer

/-- Everything a step can do to the sending halves and to what is queued. -/
inductive SendCase (mux : Mux) (event : Mux.Event) (next : Mux) : Prop where
  | quiet (quiet : Quiet mux next) (none_ : openedBy mux event = [])
  | handsOut (channel) (hands : HandsOut mux channel next)
      (none_ : channel < mux.endpoints.length → openedBy mux event = [])
  /-- an OPEN was read, or one could not be sent -/
  | arrives (streamId) (made : Makes mux streamId none [] next)
      (waiting : waitingOf next = waitingOf mux ∨
        (waitingOf next).Perm (mux.endpoints.length :: waitingOf mux))
      (none_ : openedBy mux event = [])
  | opens (send) (frames) (made : Makes mux mux.nextStreamId (some send) frames next)
      (waiting : waitingOf next = waitingOf mux)
      (one : openedBy mux event = [mux.endpoints.length])
      (half : halfOf mux event = mux.endpoints.length) (mints : mintsId mux event = true)
      (opening : frames = [] ∧ send = ⟨some [], false, []⟩ ∨ ∃ header : Vector UInt8 9,
        frames = [Mux.openFrame mux.nextStreamId header.toList] ∧
          send = ⟨none, false, header.toList⟩)
  | moves (channel) (streamId) (send) (frames)
      (after) (emits : Emits mux channel streamId send frames after next)
      (half : halfOf mux event = channel) (none_ : openedBy mux event = [])
      (moved : HalfMove (mux.writer = .done) (fitsFrame mux event = true) streamId send frames
        after)

theorem Quiet.refl (mux : Mux) : Quiet mux mux := ⟨fun _ => rfl, rfl, rfl, rfl, id⟩

theorem Quiet.modify (mux : Mux) (chan : ChannelId) (change : Endpoint → Endpoint)
    (same : ∀ endpoint, (change endpoint).streamId = endpoint.streamId ∧
      (change endpoint).send = endpoint.send) : Quiet mux (mux.modify chan change) :=
  ⟨fun asked => sendHalf_modify mux chan asked change same, rfl, List.length_modify _ _ _, rfl, id⟩

theorem accepted_handsOut {chan : ChannelId} {rest : List ChannelId}
    (queue : mux.acceptQueue = chan :: rest) (accepted : List UInt32) (leftover : List UInt8) :
    HandsOut mux chan
      ({ mux with acceptQueue := rest, accepted := accepted }.handOut chan leftover) where
  half queried := sendHalf_handOut _ chan queried leftover
  sent := rfl
  length := List.length_modify _ _ _
  waiting := by
    rw [waitingOf, queue]
    exact .refl _
  writer := rfl

theorem registered_makes (mux : Mux) (endpoint : Endpoint) :
    Makes mux endpoint.streamId endpoint.send [] (mux.register endpoint) where
  half := sendHalf_register mux endpoint
  sent := (List.append_nil _).symm
  length := by simp [Mux.register]
  writer := rfl

theorem openDataStream_sendCase (header : Vector UInt8 9) :
    SendCase mux (.openDataStream header) (mux.openDataStream header).2 := by
  by_cases closed : mux.closed = true
  · have answer : mux.openDataStream header = (.error .unexpectedEof, mux) := if_pos closed
    rw [answer]
    exact .quiet (.refl mux) (by simp [openedBy, answer, newStream])
  · cases emitted : (mux.mintStreamId.register (Mux.opened mux.nextStreamId none header.toList)).emit
        (Mux.openFrame mux.nextStreamId header.toList) with
    | some next =>
      have answer : mux.openDataStream header = (.ok mux.endpoints.length, next) := by
        simp only [Mux.openDataStream, closed, Bool.false_eq_true, if_false, emitted]
      have made := registered_makes mux.mintStreamId (Mux.opened mux.nextStreamId none header.toList)
      rw [answer]
      obtain rfl := Mux.emit_eq_some _ emitted
      exact .opens ⟨none, false, header.toList⟩ _ ⟨made.half, rfl, made.length, rfl⟩ rfl
        (by simp [openedBy, answer, newStream]) rfl (by simp [mintsId, closed])
        (.inr ⟨header, rfl, rfl⟩)
    | none =>
      have answer : mux.openDataStream header = (.error .unexpectedEof, mux.mintStreamId.register
          ⟨mux.nextStreamId, [], .dropped, none, []⟩) := by
        simp only [Mux.openDataStream, closed, Bool.false_eq_true, if_false, emitted]
      have made := registered_makes mux.mintStreamId ⟨mux.nextStreamId, [], .dropped, none, []⟩
      rw [answer]
      exact .arrives mux.nextStreamId ⟨made.half, made.sent, made.length, rfl⟩ (.inl rfl)
        (by simp [openedBy, answer, newStream])

theorem openBi_sendCase : SendCase mux .openBi mux.openBi.2 := by
  by_cases closed : mux.closed = true
  · have answer : mux.openBi = (.error .unexpectedEof, mux) := if_pos closed
    rw [answer]
    exact .quiet (.refl mux) (by simp [openedBy, answer, newStream])
  · by_cases control : mux.isServer = false ∧ mux.controlRecvSlot.isSome = true
    · -- the client's first stream is Control
      obtain ⟨client, held⟩ := control
      obtain ⟨chan, slot⟩ := Option.isSome_iff_exists.mp held
      have answer : mux.openBi =
          (.ok chan, { mux with controlRecvSlot := none }.handOut chan []) := by
        simp only [Mux.openBi, closed, Bool.false_eq_true, if_false, client, slot]
      rw [answer]
      refine .handsOut chan ⟨fun asked => sendHalf_handOut _ chan asked [], rfl,
        List.length_modify _ _ _, ?_, rfl⟩ fun below => ?_
      · rw [waitingOf, slot]
        exact (List.perm_append_singleton chan mux.acceptQueue).trans
          (.of_eq (by simp [waitingOf, Mux.handOut, Mux.modify]))
      · simp [openedBy, answer, newStream, below]
    · have answer : mux.openBi = (.ok mux.endpoints.length,
          mux.mintStreamId.register (Mux.opened mux.nextStreamId (some []) [])) := by
        simp only [Mux.openBi, closed, Bool.false_eq_true, if_false]
        split
        next client slot => exact absurd ⟨client, by rw [slot]; rfl⟩ control
        next => rfl
      have mints : mintsId mux .openBi = true := by
        cases server : mux.isServer with
        | true => simp [mintsId, closed, server]
        | false =>
          have none_ : mux.controlRecvSlot = none := by
            simpa [server] using control
          simp [mintsId, closed, none_]
      have made := registered_makes mux.mintStreamId (Mux.opened mux.nextStreamId (some []) [])
      rw [answer]
      exact .opens ⟨some [], false, []⟩ [] ⟨made.half, made.sent, made.length, rfl⟩ rfl
        (by simp [openedBy, answer, newStream]) rfl mints (.inl ⟨rfl, rfl⟩)

/-- The reader makes a half wait for each OPEN it reads and touches no other. -/
theorem reads_sendCase {event : Mux.Event} (none_ : openedBy mux event = [])
    (reads : Mux.Reads mux next) : SendCase mux event next := by
  cases reads with
  | moves | discards | ends => exact .quiet ⟨fun _ => rfl, rfl, rfl, rfl, id⟩ none_
  | pushes chan chunk =>
    have quiet := Quiet.modify mux chan (fun endpoint =>
      { endpoint with queue := endpoint.queue ++ [chunk] }) fun _ => ⟨rfl, rfl⟩
    exact .quiet ⟨quiet.half, rfl, quiet.length, rfl, id⟩ none_
  | opens header payload =>
    have made := registered_makes mux ⟨header.streamId, [], .waiting payload, none, []⟩
    refine .arrives header.streamId ⟨made.half, made.sent, made.length, rfl⟩ (.inr ?_) none_
    exact (List.perm_append_right_iff _).mpr (List.perm_append_singleton _ _)

theorem step_sendCase {event : Mux.Event} (step : mux.step event = some next) :
    SendCase mux event next := by
  cases event with
  | openDataStream header => exact Option.some.inj step ▸ openDataStream_sendCase header
  | openBi => exact Option.some.inj step ▸ openBi_sendCase
  | acceptBi | acceptDataStream =>
    simp only [Mux.step, Mux.acceptBi, Mux.acceptDataStream, Mux.takeAccepted] at step
    cases queue : mux.acceptQueue with
    | nil =>
      rw [queue] at step
      cases step
    | cons chan rest =>
      rw [queue] at step
      cases step
      exact .handsOut chan (accepted_handsOut queue _ _) fun _ => rfl
  | write chan buf =>
    obtain ⟨⟨answer, after⟩, polled, rfl⟩ := Option.map_eq_some_iff.mp step
    obtain ⟨streamId, send, frames, after, emits, moved⟩ := pollWrite_moves
      (fitsFrame mux (.write chan buf) = true) (by simp [fitsFrame, mintsId]) polled
    exact .moves chan streamId send frames after emits rfl rfl moved
  | finish chan =>
    obtain ⟨⟨answer, after⟩, polled, rfl⟩ := Option.map_eq_some_iff.mp step
    obtain ⟨streamId, send, frames, after, emits, moved⟩ := finish_moves _ polled
    exact .moves chan streamId send frames after emits rfl rfl moved
  | read =>
    obtain ⟨⟨answer, after⟩, polled, rfl⟩ := Option.map_eq_some_iff.mp step
    obtain ⟨endpoint, recv, -, -, outcome⟩ := Mux.pollRead_cases polled
    cases outcome with
    | ended | waits => exact .quiet (.refl mux) rfl
    | leftover | chunk | ends => exact .quiet (.modify _ _ _ fun _ => ⟨rfl, rfl⟩) rfl
  | dropRecv chan =>
    simp only [Mux.step, Mux.dropRecv] at step
    split at step <;> cases step
    have quiet := Quiet.modify mux chan (fun endpoint =>
      { endpoint with recv := .dropped, queue := [] }) fun _ => ⟨rfl, rfl⟩
    exact .quiet ⟨quiet.half, rfl, quiet.length, rfl, id⟩ rfl
  | close =>
    cases step
    refine .quiet ?_ rfl
    unfold Mux.close
    split
    · exact .refl mux
    · dsimp only
      split <;> exact ⟨fun _ => rfl, rfl, rfl, rfl, id⟩
  | closedCheck =>
    cases step
    exact .quiet ⟨fun _ => rfl, rfl, rfl, rfl, id⟩ rfl
  | closedRegister | readerEnd | readerStore | readerNotify =>
    simp only [Mux.step] at step
    split at step <;> cases step
    all_goals exact .quiet ⟨fun _ => rfl, rfl, rfl, rfl, id⟩ rfl
  | writerTake =>
    simp only [Mux.step] at step
    split at step <;> cases step
    all_goals
      next idle _ => exact .quiet ⟨fun _ => rfl, rfl, rfl, rfl, by simp [idle]⟩ rfl
  | writerByte =>
    simp only [Mux.step] at step
    split at step
    next writing =>
      split at step <;> cases step
      exact .quiet ⟨fun _ => rfl, rfl, rfl, rfl, by simp [writing]⟩ rfl
    next => cases step
  | writerFail =>
    simp only [Mux.step] at step
    split at step <;> cases step
    exact .quiet ⟨fun _ => rfl, rfl, rfl, rfl, fun _ => rfl⟩ rfl
  | readerByte => exact reads_sendCase rfl (Mux.readerByte_reads step)
  | readerForward => exact reads_sendCase rfl (Mux.readerForward_reads step)

/-! ## The invariant -/

/-- What one half has queued. -/
structure HalfLog (gone own : Prop) (streamId : UInt32) (send : SendStream)
    (frames : List MuxFrame) : Prop where
  owed : ∀ pending, send.pendingOpen = some pending → own ∧ pending.length < 9 ∧ frames = []
  opening : own → send.pendingOpen = none →
    (∃ payload rest, frames = Mux.openFrame streamId payload :: rest) ∨ frames = [] ∧ gone
  running : send.finished = false → ∀ frame ∈ frames, frame.header.flag ≠ .fin
  ended : send.finished = true → ¬ gone → ∃ before, frames = before ++ [Mux.finFrame streamId]

structure Logged (outbound : Outbound) : Prop where
  all : outbound.log.map Prod.snd = outbound.mux.sent
  known : ∀ entry ∈ outbound.log, entry.1 < outbound.mux.endpoints.length
  once : (waitingOf outbound.mux).Nodup
  waiting : ∀ channel ∈ waitingOf outbound.mux,
    ∃ streamId, sendHalf outbound.mux channel = some (streamId, none)
  silent : ∀ channel streamId, sendHalf outbound.mux channel = some (streamId, none) →
    outbound.framesOf channel = []
  own : ∀ channel ∈ outbound.opened, ∃ streamId send,
    sendHalf outbound.mux channel = some (streamId, some send)
  half : ∀ channel streamId send, sendHalf outbound.mux channel = some (streamId, some send) →
    HalfLog (outbound.mux.writer = .done) (channel ∈ outbound.opened) streamId send
      (outbound.framesOf channel)

theorem HalfLog.mono {gone later own mine : Prop} {streamId : UInt32} {send : SendStream}
    {frames : List MuxFrame} (log : HalfLog gone own streamId send frames) (done : gone → later)
    (same : mine ↔ own) : HalfLog later mine streamId send frames where
  owed pending owes := (log.owed pending owes).imp_left same.mpr
  opening isMine opened := (log.opening (same.mp isMine) opened).imp_right (.imp_right done)
  running := log.running
  ended ran present := log.ended ran (present ∘ done)

/-- An OPEN that is owed comes first. -/
theorem HalfLog.opens {gone own : Prop} {streamId : UInt32} {send : SendStream}
    {queued opening more : List MuxFrame} (log : HalfLog gone own streamId send queued)
    (opens : Opening streamId send opening) (silenced : gone → opening ++ more = []) (isOwn : own) :
    (∃ payload rest, queued ++ (opening ++ more) = Mux.openFrame streamId payload :: rest) ∨
      queued ++ (opening ++ more) = [] ∧ gone := by
  cases owed : send.pendingOpen with
  | none =>
    rcases log.opening isOwn owed with ⟨payload, rest, rfl⟩ | ⟨rfl, isGone⟩
    · exact .inl ⟨payload, _, rfl⟩
    · exact .inr ⟨silenced isGone, isGone⟩
  | some pending =>
    rw [Opening, owed] at opens
    obtain ⟨payload, rfl, -⟩ := opens
    rw [(log.owed pending owed).2.2]
    exact .inl ⟨payload, _, rfl⟩

theorem Opening.noFin {streamId : UInt32} {send : SendStream} {opening : List MuxFrame}
    (opens : Opening streamId send opening) : ∀ frame ∈ opening, frame.header.flag ≠ .fin := by
  unfold Opening at opens
  split at opens
  · simp [opens]
  · obtain ⟨payload, rfl, -⟩ := opens
    simp [Mux.openFrame]

theorem HalfLog.moves {gone within own : Prop} {streamId : UInt32} {send after : SendStream}
    {queued frames : List MuxFrame} (log : HalfLog gone own streamId send queued)
    (moved : HalfMove gone within streamId send frames after) :
    HalfLog gone own streamId after (queued ++ frames) := by
  cases moved with
  | still =>
    rw [List.append_nil]
    exact log
  | buffers running owed owes short runs =>
    obtain ⟨isOwn, few, empty⟩ := log.owed _ owed
    rw [List.append_nil]
    refine ⟨fun pending still => ?_, fun _ opened => ?_, fun _ => log.running running,
      fun ran => ?_⟩
    · cases owes.symm.trans still
      exact ⟨isOwn, short few, empty⟩
    · cases owes.symm.trans opened
    · cases runs.symm.trans ran
  | lost isGone running opened =>
    rw [List.append_nil]
    refine ⟨fun pending still => ?_, fun isOwn _ => ?_, fun _ => log.running running,
      fun _ present => absurd isGone present⟩
    · cases opened.symm.trans still
    · cases owed : send.pendingOpen with
      | none => exact log.opening isOwn owed
      | some pending => exact .inr ⟨(log.owed pending owed).2.2, isGone⟩
  | writes running opens follows silenced opened runs =>
    refine ⟨fun pending still => ?_, fun isOwn _ => log.opens opens silenced isOwn,
      fun _ frame mem => ?_, fun ran => ?_⟩
    · cases opened.symm.trans still
    · rcases List.mem_append.mp mem with old | new
      · exact log.running running frame old
      · rcases List.mem_append.mp new with first | later
        · exact opens.noFin frame first
        · simp [(follows frame later).1]
    · cases runs.symm.trans ran
  | finishes running opens present opened ran =>
    refine ⟨fun pending still => ?_,
      fun isOwn _ => log.opens opens (absurd · present) isOwn, fun still => ?_,
      fun _ _ => ⟨_, (List.append_assoc _ _ _).symm⟩⟩
    · cases opened.symm.trans still
    · cases ran.symm.trans still

theorem framesOf_append (outbound : Outbound) (mux : Mux) (opened : List ChannelId)
    (chan half : ChannelId) (frames : List MuxFrame) :
    (Outbound.mk mux opened (outbound.log ++ frames.map (half, ·))).framesOf chan =
      outbound.framesOf chan ++ if chan = half then frames else [] := by
  unfold Outbound.framesOf
  rw [List.filter_append, List.map_append]
  congr 1
  by_cases same : chan = half
  · subst same
    simp [List.filter_map, Function.comp_def]
  · rw [if_neg same, List.map_eq_nil_iff, List.filter_eq_nil_iff]
    intro entry mem
    obtain ⟨frame, -, rfl⟩ := List.mem_map.mp mem
    simpa using Ne.symm same

section Preserved
variable {outbound : Outbound} (logged : Logged outbound)

theorem below_of_half {chan : ChannelId} {half : UInt32 × Option SendStream}
    (found : sendHalf mux chan = some half) : chan < mux.endpoints.length := by
  by_contra above
  rw [(sendHalf_eq_none_iff mux chan).mpr (Nat.not_lt.mp above)] at found
  cases found

namespace Logged
include logged

theorem framesOf_new {chan : ChannelId} (new : outbound.mux.endpoints.length ≤ chan) :
    outbound.framesOf chan = [] := by
  unfold Outbound.framesOf
  rw [List.map_eq_nil_iff, List.filter_eq_nil_iff]
  intro entry mem
  have below := logged.known entry mem
  simp only [beq_iff_eq]
  rintro rfl
  exact absurd below (Nat.not_lt.mpr new)

theorem not_own {chan : ChannelId} {streamId : UInt32}
    (found : sendHalf outbound.mux chan = some (streamId, none)) :
    chan ∉ outbound.opened := by
  intro mine
  obtain ⟨id, send, half⟩ := logged.own chan mine
  cases found.symm.trans half

theorem quiet (quiet : Quiet outbound.mux next) : Logged ⟨next, outbound.opened, outbound.log⟩ where
  all := logged.all.trans quiet.sent.symm
  known entry member := quiet.length ▸ logged.known entry member
  once := quiet.waiting ▸ logged.once
  waiting chan member := by
    rw [quiet.half]
    exact logged.waiting chan (quiet.waiting ▸ member)
  silent chan streamId found := logged.silent chan streamId ((quiet.half chan).symm.trans found)
  own chan mine := by
    rw [quiet.half]
    exact logged.own chan mine
  half chan streamId send found :=
    (logged.half chan streamId send ((quiet.half chan).symm.trans found)).mono quiet.done Iff.rfl

theorem handsOut {channel : ChannelId} (hands : HandsOut outbound.mux channel next) :
    Logged ⟨next, outbound.opened, outbound.log⟩ := by
  have waits : channel ∈ waitingOf outbound.mux :=
    hands.waiting.mem_iff.mpr List.mem_cons_self
  obtain ⟨id, none_⟩ := logged.waiting channel waits
  have once := List.nodup_cons.mp (hands.waiting.nodup_iff.mp logged.once)
  have now : sendHalf next channel = some (id, some ⟨none, false, []⟩) := by
    rw [hands.half, if_pos rfl, none_]
    rfl
  have others : ∀ queried, queried ≠ channel →
      sendHalf next queried = sendHalf outbound.mux queried := by
    intro queried differs
    rw [hands.half, if_neg differs]
  refine ⟨logged.all.trans hands.sent.symm,
    fun entry mem => hands.length ▸ logged.known entry mem, once.2, ?_, ?_, ?_, ?_⟩
  · intro queried mem
    have differs : queried ≠ channel := fun same => once.1 (same ▸ mem)
    rw [others queried differs]
    exact logged.waiting queried (hands.waiting.mem_iff.mpr (List.mem_cons_of_mem _ mem))
  · intro queried streamId found
    by_cases same : queried = channel
    · subst same
      cases now.symm.trans found
    · exact logged.silent queried streamId ((others queried same).symm.trans found)
  · intro queried mine
    have differs : queried ≠ channel := by
      rintro rfl
      exact logged.not_own none_ mine
    rw [others queried differs]
    exact logged.own queried mine
  · intro queried streamId send found
    by_cases same : queried = channel
    · subst same
      cases now.symm.trans found
      refine ⟨by simp, fun mine => absurd mine (logged.not_own none_), fun _ => ?_, by simp⟩
      rw [show (Outbound.mk next _ _).framesOf queried = [] from logged.silent _ _ none_]
      exact List.forall_mem_nil _
    · have log := logged.half queried streamId send ((others queried same).symm.trans found)
      exact log.mono (hands.writer.trans ·) Iff.rfl

/-- A channel is made, with or without a sending half. -/
theorem makes {streamId : UInt32} {send : Option SendStream} {frames : List MuxFrame}
    (made : Makes outbound.mux streamId send frames next) (once : (waitingOf next).Nodup)
    (waiting : ∀ chan ∈ waitingOf next, chan ∈ waitingOf outbound.mux ∨
      chan = outbound.mux.endpoints.length ∧ send = none)
    (none_ : send = none → frames = [])
    (some_ : ∀ half, send = some half →
      HalfLog (outbound.mux.writer = .done) True streamId half frames) :
    Logged ⟨next, outbound.opened ++ if send.isSome then [outbound.mux.endpoints.length] else [],
      outbound.log ++ frames.map (outbound.mux.endpoints.length, ·)⟩ := by
  have now : sendHalf next outbound.mux.endpoints.length = some (streamId, send) := by
    rw [made.half, if_pos rfl]
  have others : ∀ queried, queried ≠ outbound.mux.endpoints.length →
      sendHalf next queried = sendHalf outbound.mux queried := by
    intro queried differs
    rw [made.half, if_neg differs]
  have older : ∀ {queried half}, sendHalf outbound.mux queried = some half →
      sendHalf next queried = some half := by
    intro queried half found
    rw [others queried (Nat.ne_of_lt (below_of_half found)), found]
  refine ⟨?_, ?_, once, ?_, ?_, ?_, ?_⟩
  · rw [List.map_append, List.map_map, logged.all]
    exact (congrArg _ (List.map_id' frames)).trans made.sent.symm
  · intro entry mem
    rw [show (Outbound.mk next _ _).mux = next from rfl, made.length]
    rcases List.mem_append.mp mem with old | new
    · exact Nat.lt_succ_of_lt (logged.known entry old)
    · obtain ⟨frame, -, rfl⟩ := List.mem_map.mp new
      exact Nat.lt_succ_self _
  · intro queried mem
    rcases waiting queried mem with old | ⟨rfl, rfl⟩
    · obtain ⟨id, found⟩ := logged.waiting queried old
      exact ⟨id, older found⟩
    · exact ⟨streamId, now⟩
  · intro queried id found
    rw [framesOf_append]
    by_cases new : queried = outbound.mux.endpoints.length
    · subst new
      cases now.symm.trans found
      rw [none_ rfl, logged.framesOf_new (le_refl _), if_pos rfl, List.append_nil]
    · rw [if_neg new, List.append_nil]
      exact logged.silent queried id ((others queried new).symm.trans found)
  · intro queried mine
    rcases List.mem_append.mp mine with old | new
    · obtain ⟨id, half, found⟩ := logged.own queried old
      exact ⟨id, half, older found⟩
    · cases send with
      | none => cases new
      | some half =>
        cases List.mem_singleton.mp new
        exact ⟨streamId, half, now⟩
  · intro queried id half found
    rw [framesOf_append]
    by_cases new : queried = outbound.mux.endpoints.length
    · subst new
      cases now.symm.trans found
      rw [if_pos rfl, logged.framesOf_new (le_refl _), List.nil_append]
      exact (some_ half rfl).mono (made.writer.trans ·) (by simp)
    · rw [if_neg new, List.append_nil]
      refine (logged.half queried id half ((others queried new).symm.trans found)).mono
        (made.writer.trans ·) ?_
      cases send <;> simp [new]

theorem moves {channel : ChannelId} {streamId : UInt32} {send after : SendStream}
    {frames : List MuxFrame} (emits : Emits outbound.mux channel streamId send frames after next)
    {within : Prop} (moved : HalfMove (outbound.mux.writer = .done) within streamId send frames after) :
    Logged ⟨next, outbound.opened, outbound.log ++ frames.map (channel, ·)⟩ := by
  have waiting : waitingOf next = waitingOf outbound.mux := by
    rw [waitingOf, emits.waiting, emits.slot]
    rfl
  refine ⟨?_, ?_, waiting ▸ logged.once, ?_, ?_, ?_, ?_⟩
  · rw [List.map_append, List.map_map, logged.all]
    exact (congrArg _ (List.map_id' frames)).trans emits.sent.symm
  · intro entry mem
    rw [show (Outbound.mk next _ _).mux = next from rfl, emits.length]
    rcases List.mem_append.mp mem with old | new
    · exact logged.known entry old
    · obtain ⟨frame, -, rfl⟩ := List.mem_map.mp new
      exact below_of_half emits.before
  · intro asked mem
    obtain ⟨id, found⟩ := logged.waiting asked (waiting ▸ mem)
    have differs : asked ≠ channel := by
      rintro rfl
      cases emits.before.symm.trans found
    exact ⟨id, (emits.others asked differs).trans found⟩
  · intro asked id found
    have differs : asked ≠ channel := by
      rintro rfl
      cases emits.now.symm.trans found
    rw [framesOf_append, if_neg differs, List.append_nil]
    exact logged.silent asked id ((emits.others asked differs).symm.trans found)
  · intro asked mine
    by_cases same : asked = channel
    · exact ⟨streamId, after, same ▸ emits.now⟩
    · rw [emits.others asked same]
      exact logged.own asked mine
  · intro asked id half found
    rw [framesOf_append]
    by_cases same : asked = channel
    · subst same
      cases emits.now.symm.trans found
      rw [if_pos rfl]
      exact ((logged.half _ _ _ emits.before).moves moved).mono (emits.writer.trans ·) Iff.rfl
    · rw [if_neg same, List.append_nil]
      exact (logged.half asked id half ((emits.others asked same).symm.trans found)).mono
        (emits.writer.trans ·) Iff.rfl

theorem step {event : Mux.Event} {after : Outbound} (stepped : outbound.step event = some after) :
    Logged after := by
  obtain ⟨next, moved, rfl⟩ := Option.map_eq_some_iff.mp stepped
  have fresh : ∀ {frames : List MuxFrame}, next.sent = outbound.mux.sent ++ frames →
      next.sent.drop outbound.mux.sent.length = frames := by
    intro frames sent
    rw [sent, List.drop_left]
  have below : ∀ chan ∈ waitingOf outbound.mux, chan < outbound.mux.endpoints.length := by
    intro chan waits
    obtain ⟨id, found⟩ := logged.waiting chan waits
    exact below_of_half found
  cases step_sendCase moved with
  | quiet quiet none_ =>
    rw [none_, fresh (quiet.sent.trans (List.append_nil _).symm), List.append_nil, List.map_nil,
      List.append_nil]
    exact logged.quiet quiet
  | handsOut chan hands none_ =>
    rw [none_ (below chan (hands.waiting.mem_iff.mpr List.mem_cons_self)), fresh
      (hands.sent.trans (List.append_nil _).symm), List.append_nil, List.map_nil, List.append_nil]
    exact logged.handsOut hands
  | arrives streamId made waiting none_ =>
    rw [none_, fresh made.sent]
    refine logged.makes made ?_ ?_ (fun _ => rfl) (by simp)
    · rcases waiting with same | more
      · exact same ▸ logged.once
      · refine more.nodup_iff.mpr (List.nodup_cons.mpr ⟨fun mem => ?_, logged.once⟩)
        exact absurd (below _ mem) (lt_irrefl _)
    · intro chan mem
      rcases waiting with same | more
      · exact .inl (same ▸ mem)
      · rcases List.mem_cons.mp (more.mem_iff.mp mem) with new | old
        · exact .inr ⟨new, rfl⟩
        · exact .inl old
  | opens send frames made waiting one half mints opening =>
    rw [one, half, fresh made.sent]
    refine logged.makes made (waiting ▸ logged.once) (fun _ mem => .inl (waiting ▸ mem))
      (by simp) ?_
    rintro _ ⟨⟩
    rcases opening with ⟨rfl, rfl⟩ | ⟨header, rfl, rfl⟩
    · exact ⟨by simp, by simp, by simp, by simp⟩
    · exact ⟨by simp, fun _ _ => .inl ⟨_, _, rfl⟩, by simp [Mux.openFrame], by simp⟩
  | moves chan streamId send frames after emits half none_ moved =>
    rw [none_, half, fresh emits.sent, List.append_nil]
    exact logged.moves emits moved

end Logged
end Preserved

theorem logged_new (isServer : Bool) : Logged (.new isServer) where
  all := rfl
  known entry member := absurd member List.not_mem_nil
  once := by cases isServer <;> decide
  waiting chan member := by
    have control : chan = 0 := by
      cases isServer <;> simpa [waitingOf, Outbound.new, Mux.new] using member
    exact ⟨controlStreamId, by rw [control]; rfl⟩
  silent _ _ _ := rfl
  own chan mine := absurd mine List.not_mem_nil
  half chan streamId send found := by
    cases chan with
    | zero | succ => cases found

end KrotRelay.Guarantees
