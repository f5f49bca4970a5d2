import Mathlib.Logic.Relation
import KrotRelay.Source.Mux

/-!
What the operations of the API can do to a mux: each is a sequence of a few elementary
changes. Whatever every elementary change keeps is kept by every call.
-/
namespace KrotRelay.Source
namespace Mux

variable {chan : ChannelId}

variable {mux next : Mux}

theorem endpoint_modify (mux : Mux) (chan asked : ChannelId) (change : Endpoint → Endpoint) :
    (mux.modify chan change).endpoints[asked]? =
      if asked = chan then (mux.endpoints[asked]?).map change
      else mux.endpoints[asked]? := by
  by_cases same : asked = chan
  · subst same
    simp [modify]
  · simp [modify, same, Ne.symm same]

theorem endpoint_register (mux : Mux) (endpoint : Endpoint) (asked : ChannelId) :
    (mux.register endpoint).endpoints[asked]? =
      if asked = mux.endpoints.length then some endpoint else mux.endpoints[asked]? := by
  rcases Nat.lt_trichotomy asked mux.endpoints.length with below | same | above
  · rw [if_neg (Nat.ne_of_lt below)]
    exact List.getElem?_append_left below
  · subst same
    simp [register]
  · rw [if_neg (Nat.ne_of_gt above), List.getElem?_eq_none (Nat.le_of_lt above)]
    apply List.getElem?_eq_none
    rw [register, List.length_append]
    exact above

theorem emit_eq_some (frame : MuxFrame) (emitted : mux.emit frame = some next) : next = { mux with
      writerQueue := mux.writerQueue ++ [.frame frame], sent := mux.sent ++ [frame] } := by
  unfold emit at emitted
  split at emitted
  · cases emitted
  · exact (Option.some.inj emitted).symm

/-- The branches of `poll_read` on a held receiver. -/
inductive ReadCase (mux : Mux) (channel : ChannelId) (space : Nat) (endpoint : Endpoint)
    (recv : RecvStream) : Poll (List UInt8) → Mux → Prop where
  | leftover (some_left : recv.leftover ≠ []) :
      ReadCase mux channel space endpoint recv (.ready (recv.leftover.take space))
        (mux.modify channel fun endpoint => { endpoint with
          recv := .held { recv with leftover := recv.leftover.drop space }
          delivered := endpoint.delivered ++ recv.leftover.take space })
  | ended (none_left : recv.leftover = []) (eof : recv.eof = true) :
      ReadCase mux channel space endpoint recv (.ready []) mux
  | chunk (none_left : recv.leftover = []) (open_ : recv.eof = false) (chunk rest) (queue : endpoint.queue = chunk :: rest) :
      ReadCase mux channel space endpoint recv (.ready (chunk.take space))
        (mux.modify channel fun endpoint => { endpoint with
          queue := rest
          recv := .held { recv with leftover := chunk.drop space }
          delivered := endpoint.delivered ++ chunk.take space })
  | waits (none_left : recv.leftover = []) (open_ : recv.eof = false) (queue : endpoint.queue = [])
      (alive : mux.senderAlive channel endpoint.streamId = true) :
      ReadCase mux channel space endpoint recv .pending mux
  | ends (none_left : recv.leftover = []) (open_ : recv.eof = false) (queue : endpoint.queue = [])
      (gone : mux.senderAlive channel endpoint.streamId = false) :
      ReadCase mux channel space endpoint recv (.ready [])
        (mux.modify channel fun endpoint => { endpoint with
          recv := .held { recv with eof := true } })

theorem pollRead_cases {space : Nat} {answer : Poll (List UInt8)}
    (polled : mux.pollRead chan space = some (answer, next)) :
    ∃ endpoint recv, mux.endpoints[chan]? = some endpoint ∧ endpoint.recv = .held recv ∧
      ReadCase mux chan space endpoint recv answer next := by
  unfold pollRead at polled
  split at polled
  · next streamId queue recv send delivered found =>
    refine ⟨_, recv, found, rfl, ?_⟩
    split at polled
    next some_left =>
      cases polled
      exact .leftover some_left
    next all_read =>
      have none_left : recv.leftover = [] := not_not.mp all_read
      split at polled
      next eof =>
        cases polled
        exact .ended none_left eof
      next noEof =>
        have open_ : recv.eof = false := Bool.eq_false_iff.mpr noEof
        split at polled
        next chunk rest =>
          cases polled
          exact .chunk none_left open_ chunk rest rfl
        next =>
          split at polled
          next alive =>
            cases polled
            exact .waits none_left open_ rfl alive
          next gone =>
            cases polled
            exact .ends none_left open_ rfl (Bool.eq_false_iff.mpr gone)
  · cases polled

/-- The elementary changes of a sending half. -/
inductive Sends (mux : Mux) : Mux → Prop where
  | emit {next : Mux} (frame) (emitted : mux.emit frame = some next) : Sends mux next
  | setSend (channel) (send) : Sends mux (mux.setSend channel send)

abbrev Sending : Mux → Mux → Prop := Relation.ReflTransGen Sends

namespace Sending

theorem writeData (mux : Mux) (chan : ChannelId) (streamId : UInt32) (send : SendStream)
    (cursor : Nat) (rest : List UInt8) :
    Sending mux (mux.writeData chan streamId send cursor rest).2 := by
  unfold Mux.writeData
  split
  · exact .refl
  · split
    · exact .refl
    next emitted => exact .tail (.single (.emit _ emitted)) (.setSend _ _)

theorem pollWrite {buf : List UInt8} {answer : Except String Nat}
    (polled : mux.pollWrite chan buf = some (answer, next)) : Sending mux next := by
  unfold Mux.pollWrite at polled
  split at polled
  · split at polled
    · cases polled
      exact .refl
    · split at polled
      · obtain rfl : _ = next := congrArg Prod.snd (Option.some.inj polled)
        exact writeData mux _ _ _ _ _
      · dsimp only at polled
        split at polled
        · split at polled
          · cases polled
            exact .single (.setSend _ _)
          next emitted =>
            obtain rfl : _ = next := congrArg Prod.snd (Option.some.inj polled)
            exact .trans (.tail (.single (.setSend _ _)) (.emit _ emitted)) (writeData _ _ _ _ _ _)
        · cases polled
          exact .single (.setSend _ _)
  · cases polled

theorem emit_getD (mux : Mux) (frame : MuxFrame) : Sending mux ((mux.emit frame).getD mux) := by
  cases emitted : mux.emit frame with
  | none => exact .refl
  | some => exact .single (.emit frame emitted)

theorem finish {answer : Except TransportError Unit}
    (polled : mux.finish chan = some (answer, next)) : Sending mux next := by
  unfold Mux.finish at polled
  split at polled
  · next send _ _ =>
    split at polled
    · cases polled
      exact .refl
    · have marked : Sending mux
          (mux.setSend chan { send with finished := true, pendingOpen := none }) :=
        .single (.setSend _ _)
      cases owed : send.pendingOpen with
      | none =>
        simp only [owed] at polled
        split at polled
        · cases polled
          exact marked
        next emitted =>
          cases polled
          exact marked.tail (.emit _ emitted)
      | some =>
        simp only [owed] at polled
        split at polled
        · cases polled
          exact marked.trans (emit_getD _ _)
        next emitted =>
          cases polled
          exact (marked.trans (emit_getD _ _)).tail (.emit _ emitted)
  · cases polled

end Sending

/-- The elementary changes the operations of the API are made of. -/
inductive Move (mux : Mux) : Mux → Prop where
  | sends {next : Mux} (sends : Sends mux next) : Move mux next
  | mint : Move mux mux.mintStreamId
  | register (endpoint) (fresh : ∀ recv, endpoint.recv = .held recv → recv.eof = false) :
      Move mux (mux.register endpoint)
  | takeSlot : Move mux { mux with controlRecvSlot := none }
  | takeAccepted {next channel}
      (taken : mux.takeAccepted = .ready (.ok (channel, next))) : Move mux next
  | handOut (channel leftover) : Move mux (mux.handOut channel leftover)
  | read {next channel space answer}
      (polled : mux.pollRead channel space = some (answer, next)) : Move mux next
  | dropRecv {next : Mux} {channel} (dropped : mux.dropRecv channel = some next) : Move mux next

abbrev Moves : Mux → Mux → Prop := Relation.ReflTransGen Move

namespace Moves

theorem openDataStream (mux : Mux) (header : Vector UInt8 9) :
    Moves mux (mux.openDataStream header).2 := by
  unfold Mux.openDataStream
  split
  · exact .refl
  · have minted : Moves mux mux.mintStreamId := .single .mint
    dsimp only
    split
    next emitted =>
      refine (minted.tail (.register _ ?_)).tail (.sends (.emit _ emitted))
      rintro recv ⟨⟩
      rfl
    next => exact minted.tail (.register _ fun recv half => by cases half)

theorem openBi (mux : Mux) : Moves mux mux.openBi.2 := by
  unfold Mux.openBi
  split
  · exact .refl
  · split
    · exact .tail (.single .takeSlot) (.handOut _ _)
    · refine .tail (.single .mint) (.register _ ?_)
      rintro recv ⟨⟩
      rfl

theorem acceptBi (accepted : mux.acceptBi = .ready (.ok (chan, next))) : Moves mux next := by
  unfold Mux.acceptBi at accepted
  split at accepted
  · cases accepted
  · cases accepted
  · next taken =>
    cases accepted
    exact .tail (.single (.takeAccepted taken)) (.handOut _ _)

theorem acceptDataStream {payload : List UInt8}
    (accepted : mux.acceptDataStream = .ready (.ok (payload, chan, next))) : Moves mux next := by
  unfold Mux.acceptDataStream at accepted
  split at accepted
  · cases accepted
  · cases accepted
  · next taken =>
    cases accepted
    exact .tail (.single (.takeAccepted taken)) (.handOut _ _)

theorem of_sending (sending : Sending mux next) : Moves mux next :=
  Relation.ReflTransGen.mono (fun _ _ sends => Move.sends sends) _ _ sending

end Moves

/-- The events that are calls of the API other than `close` and `closed`. -/
def Event.isCall : Event → Bool
  | .openDataStream _ | .openBi | .acceptBi | .acceptDataStream => true
  | .write _ _ | .finish _ | .read _ _ | .dropRecv _ => true
  | _ => false

theorem step_moves {event : Event} (call : event.isCall = true)
    (stepped : mux.step event = some next) : Moves mux next := by
  cases event with
  | openDataStream header => exact Option.some.inj stepped ▸ Moves.openDataStream mux header
  | openBi => exact Option.some.inj stepped ▸ Moves.openBi mux
  | acceptBi =>
    simp only [step] at stepped
    split at stepped
    next accepted => exact Option.some.inj stepped ▸ Moves.acceptBi accepted
    · exact Option.some.inj stepped ▸ .refl
    · cases stepped
  | acceptDataStream =>
    simp only [step] at stepped
    split at stepped
    next accepted => exact Option.some.inj stepped ▸ Moves.acceptDataStream accepted
    · exact Option.some.inj stepped ▸ .refl
    · cases stepped
  | write =>
    obtain ⟨⟨answer, after⟩, polled, rfl⟩ := Option.map_eq_some_iff.mp stepped
    exact .of_sending (Sending.pollWrite polled)
  | finish =>
    obtain ⟨⟨answer, after⟩, polled, rfl⟩ := Option.map_eq_some_iff.mp stepped
    exact .of_sending (Sending.finish polled)
  | read =>
    obtain ⟨⟨answer, after⟩, polled, rfl⟩ := Option.map_eq_some_iff.mp stepped
    exact .single (.read polled)
  | dropRecv => exact .single (.dropRecv stepped)
  | _ => cases call

/-- What every call leaves alone: it never moves the reader or the writer and can only put
frames on the writer's queue. -/
structure Called (mux next : Mux) : Prop where
  isServer : next.isServer = mux.isServer
  reader : next.reader = mux.reader
  received : next.received = mux.received
  writer : next.writer = mux.writer
  closed : next.closed = mux.closed
  closers : next.closers = mux.closers
  queued : ∃ frames, next.sent = mux.sent ++ frames ∧
    next.writerQueue = mux.writerQueue ++ frames.map .frame
  minted : mux.minted <+: next.minted

namespace Called

/-- A change that sends nothing and mints nothing. -/
theorem silent (isServer : next.isServer = mux.isServer) (reader : next.reader = mux.reader)
    (received : next.received = mux.received) (writer : next.writer = mux.writer)
    (closed : next.closed = mux.closed) (closers : next.closers = mux.closers)
    (sent : next.sent = mux.sent) (writerQueue : next.writerQueue = mux.writerQueue)
    (minted : next.minted = mux.minted) : Called mux next where
  isServer := isServer
  reader := reader
  received := received
  writer := writer
  closed := closed
  closers := closers
  queued := ⟨[], by simp [sent], by simp [writerQueue]⟩
  minted := minted ▸ List.prefix_refl _

theorem refl (mux : Mux) : Called mux mux := silent rfl rfl rfl rfl rfl rfl rfl rfl rfl

theorem trans {middle : Mux} (first : Called mux middle) (second : Called middle next) :
    Called mux next := by
  obtain ⟨early, sentEarly, queuedEarly⟩ := first.queued
  obtain ⟨late, sentLate, queuedLate⟩ := second.queued
  exact {
    isServer := second.isServer.trans first.isServer
    reader := second.reader.trans first.reader
    received := second.received.trans first.received
    writer := second.writer.trans first.writer
    closed := second.closed.trans first.closed
    closers := second.closers.trans first.closers
    queued := ⟨early ++ late, by simp [sentLate, sentEarly], by simp [queuedLate, queuedEarly]⟩
    minted := first.minted.trans second.minted }

theorem of_move (moved : Move mux next) : Called mux next := by
  cases moved with
  | sends sends =>
    cases sends with
    | emit frame emitted =>
      obtain rfl := emit_eq_some frame emitted
      exact ⟨rfl, rfl, rfl, rfl, rfl, rfl, ⟨[frame], rfl, rfl⟩, List.prefix_refl _⟩
    | setSend => exact silent rfl rfl rfl rfl rfl rfl rfl rfl rfl
  | mint =>
    exact ⟨rfl, rfl, rfl, rfl, rfl, rfl, ⟨[], (List.append_nil _).symm, (List.append_nil _).symm⟩,
      List.prefix_append _ _⟩
  | takeAccepted taken =>
    unfold takeAccepted at taken
    split at taken
    · cases taken
    · cases taken
      exact silent rfl rfl rfl rfl rfl rfl rfl rfl rfl
  | read polled =>
    obtain ⟨endpoint, recv, -, -, outcome⟩ := pollRead_cases polled
    cases outcome with
    | ended | waits => exact refl _
    | leftover | chunk | ends => exact silent rfl rfl rfl rfl rfl rfl rfl rfl rfl
  | dropRecv dropped =>
    unfold dropRecv at dropped
    split at dropped
    · cases dropped
      exact silent rfl rfl rfl rfl rfl rfl rfl rfl rfl
    · cases dropped
  | register | takeSlot | handOut => exact silent rfl rfl rfl rfl rfl rfl rfl rfl rfl

theorem of_moves (moves : Moves mux next) : Called mux next := by
  induction moves with
  | refl => exact refl mux
  | tail _ moved ih => exact ih.trans (of_move moved)

end Called

theorem step_called {event : Event} (call : event.isCall = true)
    (step : mux.step event = some next) : Called mux next :=
  .of_moves (step_moves call step)

/-- What the reader's loop can do with a byte or with a chunk it forwards. -/
inductive Reads (mux : Mux) : Mux → Prop where
  /-- it stays inside a frame or leaves the loop -/
  | moves (reader) (looping : reader ≠ .stored ∧ reader ≠ .exited) :
      Reads mux { mux with reader := reader }
  | opens (header : MuxHeader) (payload) :
      Reads mux ({ mux.register ⟨header.streamId, [], .waiting payload, none, []⟩ with
        acceptQueue := mux.acceptQueue ++ [mux.endpoints.length] }.nextHeader ⟨header, payload⟩)
  | discards (frame) : Reads mux (mux.nextHeader frame)
  | ends (streamId frame) :
      Reads mux ({ mux with streams := Function.update mux.streams streamId none }.nextHeader frame)
  | pushes (channel chunk frame) : Reads mux ((mux.modify channel fun endpoint =>
        { endpoint with queue := endpoint.queue ++ [chunk] }).nextHeader frame)

theorem afterPayload_reads (mux : Mux) (header : MuxHeader) (payload : List UInt8) :
    Reads mux (mux.afterPayload header payload) := by
  unfold afterPayload
  split
  · split
    · exact .moves _ (by simp)
    · exact .opens header payload
  · split
    · exact .discards _
    · exact .moves _ (by simp)
  · exact .moves _ (by simp)

theorem afterHeader_reads (mux : Mux) (header : MuxHeader) :
    Reads mux (mux.afterHeader header) := by
  unfold afterHeader
  split
  · exact .moves _ (by simp)
  · split
    · exact .moves _ (by simp)
    · split
      · exact afterPayload_reads mux header []
      · exact .moves _ (by simp)
  · exact .ends _ _

theorem readerByte_reads {byte : UInt8} (read : mux.readerByte byte = some next) :
    Reads mux next := by
  unfold readerByte at read
  split at read
  · split at read
    · cases read
      exact .moves _ (by simp)
    · split at read
      · cases read
        exact .moves _ (by simp)
      · cases read
        exact afterHeader_reads mux _
  · split at read
    · cases read
      exact .moves _ (by simp)
    · cases read
      exact afterPayload_reads mux _ _
  · cases read

theorem readerForward_reads (forwarded : mux.readerForward = some next) : Reads mux next := by
  unfold readerForward at forwarded
  split at forwarded
  · split at forwarded
    · cases forwarded
    · split at forwarded
      · cases forwarded
        exact .discards _
      · split at forwarded
        · cases forwarded
          exact .pushes _ _ _
        · cases forwarded
  · cases forwarded

/-- Everything a step can do. -/
inductive Outcome (mux : Mux) : Event → Mux → Prop where
  | calls {event : Event} {next : Mux} (call : event.isCall = true) (moves : Moves mux next) :
      Outcome mux event next
  | reads {event : Event} {next : Mux} (running : mux.reader ≠ .exited) (reads : Reads mux next) :
      Outcome mux event next
  | writes (event writer queue) :
      Outcome mux event { mux with writer := writer, writerQueue := queue }
  | closes : Outcome mux .close mux.close
  | checks : Outcome mux .closedCheck { mux with closers := mux.closers ++ [mux.closedCheck] }
  | registers (caller) (found : mux.closers[caller]? = some .checked) :
      Outcome mux (.closedRegister caller) { mux with closers := mux.closers.set caller .waiting }
  | stores (stopping : mux.reader = .stopping) :
      Outcome mux .readerStore { mux with reader := .stored, closed := true }
  | notifies (stored : mux.reader = .stored) :
      Outcome mux .readerNotify { mux with reader := .exited }.notifyWaiters

theorem step_outcome {event : Event} (stepped : mux.step event = some next) :
    Outcome mux event next := by
  cases event with
  | readerByte =>
    refine .reads ?_ (readerByte_reads stepped)
    intro exited
    simp [step, readerByte, exited] at stepped
  | readerForward =>
    refine .reads ?_ (readerForward_reads stepped)
    intro exited
    simp [step, readerForward, exited] at stepped
  | readerEnd =>
    simp only [step] at stepped
    split at stepped <;> cases stepped
    next inside => exact .reads (by simp [inside]) (.moves _ (by simp))
    next inside => exact .reads (by simp [inside]) (.moves _ (by simp))
  | readerStore =>
    simp only [step] at stepped
    split at stepped <;> cases stepped
    next stopping => exact .stores stopping
  | readerNotify =>
    simp only [step] at stepped
    split at stepped <;> cases stepped
    next stored => exact .notifies stored
  | close =>
    cases stepped
    exact .closes
  | closedCheck =>
    cases stepped
    exact .checks
  | closedRegister caller =>
    simp only [step] at stepped
    split at stepped <;> cases stepped
    next found => exact .registers caller found
  | writerTake =>
    simp only [step] at stepped
    split at stepped <;> cases stepped <;> exact .writes _ _ _
  | writerByte =>
    simp only [step] at stepped
    split at stepped
    · split at stepped <;> cases stepped
      exact .writes _ _ mux.writerQueue
    · cases stepped
  | writerFail =>
    simp only [step] at stepped
    split at stepped <;> cases stepped
    exact .writes _ _ mux.writerQueue
  | openDataStream | openBi | acceptBi | acceptDataStream | write | finish | read | dropRecv =>
    exact .calls rfl (step_moves rfl stepped)

theorem close_fields (mux : Mux) : mux.close.reader = mux.reader ∧ mux.close.closed = true ∧
      mux.close.endpoints = mux.endpoints ∧ mux.close.streams = mux.streams ∧
      mux.close.minted = mux.minted := by
  unfold close
  split
  next closed => exact ⟨rfl, closed, rfl, rfl, rfl⟩
  next =>
    dsimp only
    split <;> exact ⟨rfl, rfl, rfl, rfl, rfl⟩

end Mux
end KrotRelay.Source
