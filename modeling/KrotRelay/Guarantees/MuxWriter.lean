import KrotRelay.Guarantees.MuxSending

/-!
# What a mux queues is what a mux reads

Every frame a stream half queues is one the reader of another mux takes in, and a stream
opened here begins with its OPEN, as long as no write leaves more than a frame's worth of
bytes behind its OPEN and the id counter has not come round to zero. Nothing is assumed
about the other end, about `close`, or about the writer task.
-/
namespace KrotRelay.Guarantees
open Source Lib List

variable {mux next : Mux}

/-! ## The invariant -/

structure Orderly (outbound : Outbound) : Prop where
  logged : Logged outbound
  sendable : ∀ frame ∈ outbound.mux.sent, Sendable frame
  ids : ∀ channel ∈ outbound.opened, ∀ streamId half,
    sendHalf outbound.mux channel = some (streamId, half) → streamId ≠ controlStreamId

theorem orderly_new (isServer : Bool) : Orderly (.new isServer) where
  logged := logged_new isServer
  sendable _ member := absurd member not_mem_nil
  ids _ mine := absurd mine not_mem_nil

/-- A channel keeps the id it was made with. -/
theorem SendCase.keeps_id {event : Mux.Event} (case : SendCase mux event next)
    {chan : ChannelId} {half : UInt32 × Option SendStream}
    (found : sendHalf mux chan = some half) : ∃ now, sendHalf next chan = some (half.1, now) := by
  cases case with
  | quiet quiet => exact ⟨half.2, (quiet.half chan).trans found⟩
  | handsOut taken hands =>
    rw [hands.half, found]
    split
    · exact ⟨_, rfl⟩
    · exact ⟨half.2, rfl⟩
  | arrives _ made | opens _ _ made =>
    rw [made.half, if_neg (Nat.ne_of_lt (below_of_half found))]
    exact ⟨half.2, found⟩
  | moves moved _ _ _ _ emits =>
    by_cases same : chan = moved
    · subst same
      cases emits.before.symm.trans found
      exact ⟨_, emits.now⟩
    · exact ⟨half.2, (emits.others chan same).trans found⟩

theorem sendable_fin (streamId : UInt32) : Sendable (Mux.finFrame streamId) := by
  refine ⟨⟨fun _ => rfl, ?_⟩, rfl, ?_, ?_⟩ <;> rintro ⟨⟩

theorem Opening.sendable {streamId : UInt32} {send : SendStream} {opening : List MuxFrame}
    (opens : Opening streamId send opening)
    (owed : ∀ pending, send.pendingOpen = some pending →
      pending.length < 9 ∧ streamId ≠ controlStreamId) : ∀ frame ∈ opening, Sendable frame := by
  cases owes : send.pendingOpen with
  | none =>
    rw [Opening, owes] at opens
    simp [opens]
  | some pending =>
    rw [Opening, owes] at opens
    obtain ⟨payload, rfl, nine⟩ := opens
    obtain ⟨short, notControl⟩ := owed pending owes
    simpa using sendable_open notControl (nine short)

/-- The frames of one move, with the id of a stream that may be opened. -/
theorem HalfMove.sendable {gone within : Prop} {streamId : UInt32} {send after : SendStream}
    {frames : List MuxFrame} (moved : HalfMove gone within streamId send frames after)
    (fits : within) (owed : ∀ pending, send.pendingOpen = some pending →
      pending.length < 9 ∧ streamId ≠ controlStreamId) : ∀ frame ∈ frames, Sendable frame := by
  cases moved with
  | still | buffers | lost => exact forall_mem_nil _
  | writes _ opens follows =>
    intro frame mem
    rcases mem_append.mp mem with first | later
    · exact opens.sendable owed frame first
    · exact (follows frame later).2 fits
  | finishes _ opens =>
    intro frame mem
    rcases mem_append.mp mem with first | last
    · exact opens.sendable owed frame first
    · exact mem_singleton.mp last ▸ sendable_fin streamId

/-- One step keeps the queue in order. -/
theorem Orderly.step {outbound : Outbound} (orderly : Orderly outbound) {event : Mux.Event}
    {after : Outbound} (fits : fitsFrame outbound.mux event = true)
    (step : outbound.step event = some after) : Orderly after := by
  have logged := orderly.logged.step step
  obtain ⟨next, moved, rfl⟩ := Option.map_eq_some_iff.mp step
  have case := step_sendCase moved
  have older : ∀ chan ∈ outbound.opened, ∀ streamId half,
      sendHalf next chan = some (streamId, half) → streamId ≠ controlStreamId := by
    intro chan mine streamId half now
    obtain ⟨id, send, found⟩ := orderly.logged.own chan mine
    obtain ⟨later, kept⟩ := case.keeps_id found
    cases kept.symm.trans now
    exact orderly.ids chan mine id _ found
  have queued : ∀ {frames : List MuxFrame}, next.sent = outbound.mux.sent ++ frames →
      (∀ frame ∈ frames, Sendable frame) → ∀ frame ∈ next.sent, Sendable frame := by
    intro frames sent more frame mem
    rw [sent] at mem
    exact (mem_append.mp mem).elim (orderly.sendable frame) (more frame)
  have unmoved : openedBy outbound.mux event = [] → (∀ frame ∈ next.sent, Sendable frame) →
      Orderly ⟨next, outbound.opened ++ openedBy outbound.mux event, outbound.log ++
        (next.sent.drop outbound.mux.sent.length).map (halfOf outbound.mux event, ·)⟩ := by
    intro none_ sendable
    refine ⟨logged, sendable, fun chan mine => older chan ?_⟩
    simpa [none_] using mine
  cases case with
  | quiet quiet none_ => exact unmoved none_ (quiet.sent ▸ orderly.sendable)
  | handsOut chan hands none_ =>
    obtain ⟨id, waits⟩ := orderly.logged.waiting chan (hands.waiting.mem_iff.mpr mem_cons_self)
    exact unmoved (none_ (below_of_half waits)) (hands.sent ▸ orderly.sendable)
  | arrives streamId made waiting none_ =>
    exact unmoved none_ (queued made.sent (forall_mem_nil _))
  | opens send frames made waiting one half mints opening =>
    have fresh : outbound.mux.nextStreamId ≠ controlStreamId := by
      simp only [fitsFrame, mints, Bool.not_true, Bool.false_or, Bool.and_eq_true] at fits
      simpa using fits.1
    refine ⟨logged, queued made.sent ?_, fun chan mine streamId half now => ?_⟩
    · rcases opening with ⟨rfl, -⟩ | ⟨header, rfl, -⟩
      · exact forall_mem_nil _
      · simpa using sendable_open fresh (show header.toList.length = 9 by simp)
    · rw [show (Outbound.mk next _ _).opened = outbound.opened ++ openedBy outbound.mux event from rfl,
        one] at mine
      rcases mem_append.mp mine with old | new
      · exact older chan old streamId half now
      · cases mem_singleton.mp new
        cases ((made.half _).trans (if_pos rfl)).symm.trans now
        exact fresh
  | moves chan streamId send frames after emits half none_ moves =>
    refine unmoved none_ (queued emits.sent (moves.sendable fits ?_))
    intro pending owed
    obtain ⟨mine, short, -⟩ := (orderly.logged.half _ _ _ emits.before).owed pending owed
    exact ⟨short, orderly.ids chan mine streamId _ emits.before⟩

/-! ## The reader at the other end -/

/-- The bytes the reader is given in a run. -/
def bytesRead (events : List Mux.Event) : List UInt8 :=
  events.filterMap fun
    | .readerByte byte => some byte
    | _ => none

/-- Inside the first of the frames still to come, wherever the reader's chunks go. -/
def Framed (reader : Reader) (transit : List MuxFrame) : Prop :=
  match reader with
  | .header buf => buf.length < muxHeaderSize
  | .payload header buf => buf.length < Mux.payloadSize header ∧
      ∃ frame rest, transit = frame :: rest ∧ frame.header = header
  | .forwarding header _ chunk => ∃ rest, transit = ⟨header, chunk⟩ :: rest
  | _ => False

/-- The reader stands inside sendable frames, of which `unread` are the bytes to come. -/
structure Reading (reader : Reader) (unread : List UInt8) : Prop where
  inside : ∃ transit, Framed reader transit ∧ encode transit = readerBytes reader ++ unread ∧
    ∀ frame ∈ transit, Sendable frame

theorem Reading.between {rest : List MuxFrame} (shaped : ∀ frame ∈ rest, Sendable frame) :
    Reading (.header []) (encode rest) :=
  ⟨rest, Nat.zero_lt_succ _, rfl, shaped⟩

theorem afterHeader_reading {frame : MuxFrame} {rest : List MuxFrame}
    (shaped : ∀ other ∈ frame :: rest, Sendable other) :
    Reading (mux.afterHeader frame.header).reader (frame.payload ++ encode rest) := by
  have sendable := shaped frame mem_cons_self
  have inside : Mux.payloadSize frame.header ≠ 0 →
      Reading (.payload frame.header []) (frame.payload ++ encode rest) := fun more =>
    ⟨frame :: rest, ⟨Nat.pos_of_ne_zero more, frame, rest, rfl, rfl⟩,
      by simp [encode, MuxFrame.bytes, readerBytes], shaped⟩
  unfold Mux.afterHeader
  split
  next flag => exact inside (by simp [Mux.payloadSize, flag])
  next flag =>
    obtain ⟨some_, within⟩ := sendable.data flag
    have size : frame.payload.length = frame.header.payloadLen.toNat := by
      simpa [Mux.payloadSize, flag] using sendable.size
    have positive : frame.header.payloadLen.toNat ≠ 0 := fun zero =>
      some_ (length_eq_zero_iff.mp (size.trans zero))
    rw [if_neg (by omega), if_neg fun zero => positive (by rw [zero]; rfl)]
    exact inside (by simpa [Mux.payloadSize, flag] using positive)
  next flag =>
    have empty : frame.payload = [] := by simpa [Mux.payloadSize, flag] using sendable.size
    rw [empty]
    exact .between fun other mem => shaped other (mem_cons_of_mem _ mem)

theorem afterPayload_reading {frame : MuxFrame} {rest : List MuxFrame}
    (shaped : ∀ other ∈ frame :: rest, Sendable other) (some_ : frame.payload ≠ []) :
    Reading (mux.afterPayload frame.header frame.payload).reader (encode rest) := by
  have sendable := shaped frame mem_cons_self
  have later : Reading (.header []) (encode rest) :=
    .between fun other mem => shaped other (mem_cons_of_mem _ mem)
  unfold Mux.afterPayload
  split
  next flag =>
    rw [if_neg (sendable.notControl flag)]
    exact later
  next flag =>
    split
    · exact later
    · exact ⟨frame :: rest, ⟨rest, rfl⟩, by simp [encode, MuxFrame.bytes, readerBytes], shaped⟩
  next flag =>
    have empty : frame.payload = [] := by simpa [Mux.payloadSize, flag] using sendable.size
    exact absurd empty some_

/-- One byte of a sendable frame never takes the reader out of its loop. -/
theorem readerByte_reading {byte : UInt8} {more : List UInt8}
    (reading : Reading mux.reader (byte :: more)) (read : mux.readerByte byte = some next) :
    Reading next.reader more := by
  obtain ⟨transit, framed, bytes, shaped⟩ := reading
  unfold Mux.readerByte at read
  split at read
  next buf reader =>
    simp only [reader, Framed] at framed
    rw [reader, readerBytes, append_cons] at bytes
    split at read
    next short =>
      cases read
      exact ⟨transit, short, bytes, shaped⟩
    next long =>
      have nine : (buf ++ [byte]).length = muxHeaderSize := by
        rw [length_append, length_singleton] at long ⊢
        omega
      obtain ⟨frame, rest, rfl, -, decoded, rfl⟩ := header_parsed shaped nine bytes
      rw [decoded] at read
      cases read
      exact afterHeader_reading shaped
  next header buf reader =>
    simp only [reader, Framed] at framed
    obtain ⟨short, frame, rest, rfl, rfl⟩ := framed
    have sendable := shaped frame mem_cons_self
    have whole : frame.payload ++ encode rest = (buf ++ [byte]) ++ more := by
      rw [reader, readerBytes, encode, flatMap_cons, MuxFrame.bytes, append_assoc,
        append_assoc] at bytes
      rw [append_assoc, singleton_append]
      exact append_cancel_left bytes
    split at read
    next shorter =>
      cases read
      refine ⟨frame :: rest, ⟨shorter, frame, rest, rfl, rfl⟩, ?_, shaped⟩
      rw [readerBytes, encode, flatMap_cons, MuxFrame.bytes, append_assoc, append_assoc]
      exact congrArg _ whole
    next full =>
      have size : (buf ++ [byte]).length = frame.payload.length := by
        rw [sendable.size]
        rw [length_append, length_singleton] at full ⊢
        omega
      obtain ⟨payload, rfl⟩ := append_inj whole size.symm
      rw [← payload] at read
      cases read
      exact afterPayload_reading shaped (by rw [payload]; simp)
  next => cases read

theorem readerForward_reading {unread : List UInt8} (reading : Reading mux.reader unread)
    (forwarded : mux.readerForward = some next) : Reading next.reader unread := by
  obtain ⟨transit, framed, bytes, shaped⟩ := reading
  unfold Mux.readerForward at forwarded
  split at forwarded
  next header chan chunk reader =>
    simp only [reader, Framed] at framed
    obtain ⟨rest, rfl⟩ := framed
    have unread_ : encode rest = unread := by
      rw [reader, readerBytes, encode, flatMap_cons, MuxFrame.bytes] at bytes
      exact append_cancel_left bytes
    have later : Reading (.header []) unread :=
      unread_ ▸ .between fun other mem => shaped other (mem_cons_of_mem _ mem)
    split at forwarded
    · cases forwarded
    · split at forwarded
      · cases forwarded
        exact later
      · split at forwarded
        · cases forwarded
          exact later
        · cases forwarded
  next => cases forwarded

theorem Reading.looping {unread : List UInt8} {reader : Reader} (reading : Reading reader unread) :
    reader ≠ .stopping ∧ reader ≠ .stored ∧ reader ≠ .exited := by
  obtain ⟨transit, framed, -, -⟩ := reading
  refine ⟨?_, ?_, ?_⟩ <;> rintro rfl <;> exact framed

/-- A run of any mux whose reader is given a beginning of the encoded frames, and not the
end of the pipe, does not take the reader out of its loop. -/
theorem run_reading {frames : List MuxFrame} (shaped : ∀ frame ∈ frames, Sendable frame)
    {peer last : Mux} {events : List Mux.Event} (fresh : peer.reader = .header [])
    (given : bytesRead events <+: encode frames) (open_ : .readerEnd ∉ events)
    (ran : run Mux.step peer events = some last) :
    last.reader ≠ .stopping ∧ last.reader ≠ .stored ∧ last.reader ≠ .exited := by
  obtain ⟨rest, whole⟩ := given
  have start : Reading peer.reader (bytesRead events ++ rest) := by
    rw [fresh, whole]
    exact .between shaped
  clear fresh whole shaped
  induction events generalizing peer with
  | nil =>
    cases ran
    exact start.looping
  | cons event events ih =>
    obtain ⟨next, step, ran⟩ := (run_cons _ _ _ _ _).mp ran
    have later : .readerEnd ∉ events := fun mem => open_ (mem_cons_of_mem _ mem)
    refine ih later ran ?_
    cases event with
    | readerByte => exact readerByte_reading start step
    | readerForward => exact readerForward_reading start step
    | readerEnd => exact absurd mem_cons_self open_
    | readerStore =>
      simp only [Mux.step] at step
      split at step
      next stopping => exact absurd stopping start.looping.1
      next => cases step
    | readerNotify =>
      simp only [Mux.step] at step
      split at step
      next stored => exact absurd stored start.looping.2.1
      next => cases step
    | openDataStream | openBi | acceptBi | acceptDataStream | write | finish | read | dropRecv =>
      rw [(Mux.step_called rfl step).reader]
      exact start
    | close =>
      cases step
      rw [(Mux.close_fields peer).1]
      exact start
    | closedCheck =>
      cases step
      exact start
    | closedRegister | writerTake | writerByte | writerFail =>
      simp only [Mux.step] at step
      repeat' split at step
      all_goals first | exact Option.some.inj step ▸ start | cases step

/-! ## The guarantee -/

/-- What is queued is well formed, a stream opened here begins with its OPEN, and the reader
of no mux leaves its loop over it. -/
structure Conforms (outbound : Outbound) : Prop where
  decodes : ∀ frame ∈ outbound.mux.sent, MuxHeader.decode frame.header.toBytes = .ok frame.header
  length : ∀ frame ∈ outbound.mux.sent, frame.header.payloadLen.toNat = frame.payload.length
  limit : ∀ frame ∈ outbound.mux.sent, frame.header.flag = .data →
    frame.payload.length ≤ maxMuxPayload
  logged : outbound.log.map Prod.snd = outbound.mux.sent
  /-- the frames of a channel carry one id, so the OPEN has that of the frame behind it -/
  opening : ∀ channel ∈ outbound.opened, ∀ before frame after,
    outbound.framesOf channel = before ++ frame :: after → frame.header.flag ≠ .open_ →
      ∃ first ∈ before, first.header.flag = .open_ ∧ first.header.streamId ≠ controlStreamId
  accepted : ∀ (peer last : Mux) (events : List Mux.Event), peer.reader = .header [] →
    bytesRead events <+: encode outbound.mux.sent → .readerEnd ∉ events →
    run Mux.step peer events = some last →
      last.reader ≠ .stopping ∧ last.reader ≠ .stored ∧ last.reader ≠ .exited

theorem Sendable.payloadLen {frame : MuxFrame} (sendable : Sendable frame) :
    frame.header.payloadLen.toNat = frame.payload.length := by
  have size := sendable.size
  cases flag : frame.header.flag with
  | open_ =>
    rw [Mux.payloadSize, flag] at size
    rw [sendable.valid.2 flag, size]
    rfl
  | data =>
    rw [Mux.payloadSize, flag] at size
    exact size.symm
  | fin =>
    rw [Mux.payloadSize, flag] at size
    rw [sendable.valid.1 flag, size]
    rfl

theorem Orderly.conforms {outbound : Outbound} (orderly : Orderly outbound) : Conforms outbound where
  decodes frame member := MuxHeader.decode_toBytes _ (orderly.sendable frame member).valid
  length frame member := (orderly.sendable frame member).payloadLen
  limit frame member flag := ((orderly.sendable frame member).data flag).2
  logged := orderly.logged.all
  opening chan member before frame after shape notOpen := by
    obtain ⟨streamId, send, found⟩ := orderly.logged.own chan member
    have log := orderly.logged.half chan streamId send found
    rw [shape] at log
    cases owed : send.pendingOpen with
    | some pending =>
      have none_ := (log.owed pending owed).2.2
      simp at none_
    | none =>
      rcases log.opening member owed with ⟨payload, rest, begins⟩ | ⟨none_, -⟩
      · cases before with
        | nil =>
          cases begins
          exact absurd rfl notOpen
        | cons first =>
          cases begins
          exact ⟨_, mem_cons_self, rfl, orderly.ids chan member streamId _ found⟩
      · simp at none_
  accepted peer last events fresh given open_ finished :=
    run_reading orderly.sendable fresh given open_ finished

/-- In every run in which no write leaves more than a frame's worth of bytes behind an OPEN
and no id is zero, what is queued conforms. -/
theorem mux_writer_conforms (isServer : Bool) (events : List Mux.Event) (outbound : Outbound)
    (fits : Meets Outbound.step (fun outbound event => fitsFrame outbound.mux event = true)
      (.new isServer) events)
    (reached : run Outbound.step (.new isServer) events = some outbound) : Conforms outbound := by
  refine (run_meets Orderly ?_ (orderly_new isServer) fits reached).conforms
  exact fun before event after orderly fits stepped => orderly.step fits stepped

/-- A data stream of the server: the header in two writes, some bytes, the end. -/
def headerThenBytes : List Mux.Event :=
  [.openBi, .write 1 [2, 1, 0, 0], .write 1 [0, 0, 0, 0, 0, 71, 69, 84], .finish 1]

theorem mux_writer_conforms_split_header :
    ∃ outbound, run Outbound.step (.new true) headerThenBytes = some outbound ∧
      outbound.mux.sent.map (·.header.flag) = [.open_, .data, .fin] ∧ Conforms outbound := by
  have fits : Meets Outbound.step (fun outbound event => fitsFrame outbound.mux event = true)
      (.new true) headerThenBytes := by
    decide +kernel
  obtain ⟨outbound, reached, flags⟩ : ∃ outbound,
      run Outbound.step (.new true) headerThenBytes = some outbound ∧
        outbound.mux.sent.map (·.header.flag) = [.open_, .data, .fin] := by
    have evaluated : (run Outbound.step (.new true) headerThenBytes).map
        (fun outbound => outbound.mux.sent.map (·.header.flag)) = some [.open_, .data, .fin] := by
      decide +kernel
    exact Option.map_eq_some_iff.mp evaluated
  exact ⟨outbound, reached, flags, mux_writer_conforms true headerThenBytes outbound fits reached⟩

/-- The client writes to Control in one piece. -/
theorem control_write_sent (buf : List UInt8) (some_ : buf ≠ []) :
    ∃ outbound, run Outbound.step (.new false) [.openBi, .write 0 buf] = some outbound ∧
      outbound.mux.sent = [Mux.dataFrame controlStreamId buf] := by
  simp [run, Outbound.step, Outbound.new, Mux.step, Mux.openBi, Mux.new, Mux.handOut, Mux.modify,
    Mux.pollWrite, Mux.writeData, Mux.emit, Mux.setSend, some_]

/-- One write of a byte more than 256 KiB is one DATA frame of that size, and nine bytes of
it end the other end's reader. -/
theorem large_write_ends_peer : ∃ outbound, run Outbound.step (.new false)
        [.openBi, .write 0 (List.replicate (maxMuxPayload + 1) 0)] = some outbound ∧
      (∃ frame ∈ outbound.mux.sent, frame.header.flag = .data ∧
        maxMuxPayload < frame.payload.length) ∧
      ∃ events last, bytesRead events <+: encode outbound.mux.sent ∧ .readerEnd ∉ events ∧
        run Mux.step (Mux.new true) events = some last ∧ last.reader = .stopping := by
  obtain ⟨outbound, reached, sent⟩ :=
    control_write_sent (List.replicate (maxMuxPayload + 1) 0) (by simp)
  refine ⟨outbound, reached, ⟨_, by rw [sent]; exact mem_singleton.mpr rfl, rfl, ?_⟩, ?_⟩
  · simp [Mux.dataFrame]
  · have header : (Mux.dataFrame controlStreamId
        (List.replicate (maxMuxPayload + 1) 0)).header.toBytes = [2, 0, 0, 0, 0, 1, 0, 4, 0] := by
      rw [Mux.dataFrame, length_replicate]
      decide +kernel
    have stops : (run Mux.step (Mux.new true)
        ([2, 0, 0, 0, 0, 1, 0, 4, 0].map .readerByte)).map Mux.reader = some .stopping := by
      decide +kernel
    obtain ⟨last, read, stopping⟩ := Option.map_eq_some_iff.mp stops
    refine ⟨_, last, ?_, by simp, read, stopping⟩
    rw [sent, show bytesRead ([2, 0, 0, 0, 0, 1, 0, 4, 0].map .readerByte) = [2, 0, 0, 0, 0, 1, 0,
      4, 0] from rfl, ← header, encode, flatMap_singleton, MuxFrame.bytes]
    exact prefix_append _ _

end KrotRelay.Guarantees
