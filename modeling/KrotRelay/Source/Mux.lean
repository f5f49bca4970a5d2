import Mathlib.Logic.Function.Basic
import KrotRelay.Source.Framing
import KrotRelay.Source.MuxHeader

/-!
# One end of a TCP-mux connection (krot-transport/src/tcp_mux.rs)

`Inner`, the reader task, the writer task and the stream halves, as one state. An
operation of the API between two awaits is one step; the reader and the writer move one
byte at a time, so any chunking of the pipe is a run. A `tokio` channel is its queue of
chunks; it is open while its sender is stored in `streams` or held by the reader, which
awaits room for a chunk. The callers of `closed()` and the reader's exit are cut where
the source touches shared state twice.

Observed only, never read: `written` and `delivered` of a stream, and the logs `sent`,
`received`, `minted` and `accepted`.
-/
namespace KrotRelay.Source

def streamInboundCapacity : Nat := 64

def maxMuxPayload : Nat := 256 * 1024

structure MuxFrame where
  header : MuxHeader
  payload : List UInt8
  deriving DecidableEq

def MuxFrame.bytes (frame : MuxFrame) : List UInt8 := frame.header.toBytes ++ frame.payload

inductive OutFrame where
  | frame (frame : MuxFrame)
  | close
  deriving DecidableEq

inductive Poll (α : Type) where
  | ready (value : α)
  | pending
  deriving DecidableEq

/-- A channel for inbound chunks, by the order of creation. -/
abbrev ChannelId := Nat

structure SendStream where
  pendingOpen : Option (List UInt8)
  finished : Bool
  written : List UInt8
  deriving DecidableEq

structure RecvStream where
  leftover : List UInt8
  eof : Bool
  deriving DecidableEq

/-- Where the receiving end of a channel is. -/
inductive RecvHalf where
  /-- in the accept queue, with the OPEN payload, or in the Control slot -/
  | waiting (openPayload : List UInt8)
  | held (recv : RecvStream)
  | dropped
  deriving DecidableEq

/-- A channel and the two stream halves that were made with it. -/
structure Endpoint where
  streamId : UInt32
  queue : List (List UInt8)
  recv : RecvHalf
  send : Option SendStream
  delivered : List UInt8
  deriving DecidableEq

inductive Reader where
  | header (buf : List UInt8)
  | payload (header : MuxHeader) (buf : List UInt8)
  /-- `tx.send(chunk).await` with a clone of the stream's sender -/
  | forwarding (header : MuxHeader) (channel : ChannelId) (chunk : List UInt8)
  /-- out of the loop -/
  | stopping
  /-- `closed` is stored, the waiters are not notified yet -/
  | stored
  | exited
  deriving DecidableEq

inductive Writer where
  | idle
  | writing (rest : List UInt8)
  | done
  deriving DecidableEq

/-- A caller of `closed()`. -/
inductive Closer where
  /-- it has read the flag as unset and not yet registered with the `Notify` -/
  | checked
  | waiting
  | returned
  deriving DecidableEq

structure Mux where
  isServer : Bool
  writerQueue : List OutFrame
  streams : UInt32 → Option ChannelId
  acceptQueue : List ChannelId
  nextStreamId : UInt32
  closed : Bool
  controlRecvSlot : Option ChannelId
  endpoints : List Endpoint
  reader : Reader
  writer : Writer
  closers : List Closer
  sent : List MuxFrame
  received : List MuxFrame
  minted : List UInt32
  accepted : List UInt32

namespace Mux

/-- The Control stream exists from the start; only its receiving end is placed differently. -/
def new (isServer : Bool) : Mux where
  isServer := isServer
  writerQueue := []
  streams := Function.update (fun _ => none) controlStreamId (some 0)
  acceptQueue := if isServer then [0] else []
  nextStreamId := if isServer then 1 else 2
  closed := false
  controlRecvSlot := if isServer then none else some 0
  endpoints := [{
    streamId := controlStreamId
    queue := []
    recv := .waiting (List.replicate 9 0)
    send := none
    delivered := [] }]
  reader := .header []
  writer := .idle
  closers := []
  sent := []
  received := []
  minted := []
  accepted := []

def modify (mux : Mux) (channel : ChannelId) (change : Endpoint → Endpoint) : Mux :=
  { mux with endpoints := mux.endpoints.modify channel change }

/-- `writer_tx.send`: fails once the writer task is gone. -/
def emit (mux : Mux) (frame : MuxFrame) : Option Mux :=
  if mux.writer = .done then none
  else some { mux with
    writerQueue := mux.writerQueue ++ [.frame frame]
    sent := mux.sent ++ [frame] }

/-- A new channel whose sender is stored under the stream's id. -/
def register (mux : Mux) (endpoint : Endpoint) : Mux :=
  { mux with
    streams := Function.update mux.streams endpoint.streamId (some mux.endpoints.length)
    endpoints := mux.endpoints ++ [endpoint] }

def mintStreamId (mux : Mux) : Mux :=
  { mux with
    nextStreamId := mux.nextStreamId + 2
    minted := mux.minted ++ [mux.nextStreamId] }

def openFrame (streamId : UInt32) (payload : List UInt8) : MuxFrame :=
  ⟨⟨.open_, streamId, 9⟩, payload⟩

def dataFrame (streamId : UInt32) (payload : List UInt8) : MuxFrame :=
  ⟨⟨.data, streamId, UInt32.ofNat payload.length⟩, payload⟩

def finFrame (streamId : UInt32) : MuxFrame := ⟨⟨.fin, streamId, 0⟩, []⟩

/-- The endpoint of a stream that was opened here. -/
def opened (streamId : UInt32) (pendingOpen : Option (List UInt8)) (written : List UInt8) :
    Endpoint where
  streamId := streamId
  queue := []
  recv := .held { leftover := [], eof := false }
  send := some { pendingOpen := pendingOpen, finished := false, written := written }
  delivered := []

def openDataStream (mux : Mux) (header : Vector UInt8 9) : Except TransportError ChannelId × Mux :=
  if mux.closed then (.error .unexpectedEof, mux)
  else
    let streamId := mux.nextStreamId
    let minted := mux.mintStreamId
    match (minted.register (opened streamId none header.toList)).emit
        (openFrame streamId header.toList) with
    | some opened => (.ok mux.endpoints.length, opened)
    | none =>
      -- the stored sender stays although the receiver is dropped with the error
      (.error .unexpectedEof, minted.register
        { streamId := streamId, queue := [], recv := .dropped, send := none, delivered := [] })

/-- Hand out both halves of a channel that was waiting for it. -/
def handOut (mux : Mux) (channel : ChannelId) (leftover : List UInt8) : Mux :=
  mux.modify channel fun endpoint =>
    { endpoint with
      recv := .held { leftover := leftover, eof := false }
      send := some { pendingOpen := none, finished := false, written := [] } }

def openBi (mux : Mux) : Except TransportError ChannelId × Mux :=
  if mux.closed then (.error .unexpectedEof, mux)
  else
    match mux.isServer, mux.controlRecvSlot with
    | false, some channel => (.ok channel, { mux with controlRecvSlot := none }.handOut channel [])
    | _, _ =>
      (.ok mux.endpoints.length, mux.mintStreamId.register (opened mux.nextStreamId (some []) []))

/-- The OPEN payload of a channel in the accept queue. -/
def openPayload (mux : Mux) (channel : ChannelId) : List UInt8 :=
  match mux.endpoints[channel]? with
  | some { recv := .waiting payload, .. } => payload
  | _ => []

def streamIdOf (mux : Mux) (channel : ChannelId) : UInt32 :=
  match mux.endpoints[channel]? with
  | some endpoint => endpoint.streamId
  | none => controlStreamId

/-- The receiving end and the sending end of the accept queue are fields of one `Inner`:
an empty queue is never found closed. -/
def takeAccepted (mux : Mux) : Poll (Except TransportError (ChannelId × Mux)) :=
  match mux.acceptQueue with
  | [] => .pending
  | channel :: rest =>
    .ready (.ok (channel,
      { mux with acceptQueue := rest, accepted := mux.accepted ++ [mux.streamIdOf channel] }))

def acceptBi (mux : Mux) : Poll (Except TransportError (ChannelId × Mux)) :=
  match mux.takeAccepted with
  | .pending => .pending
  | .ready (.error problem) => .ready (.error problem)
  | .ready (.ok (channel, taken)) =>
    let leftover :=
      if mux.streamIdOf channel = controlStreamId then [] else mux.openPayload channel
    .ready (.ok (channel, taken.handOut channel leftover))

/-- As `accept_bi`, but the OPEN payload is returned and not put before the stream's bytes. -/
def acceptDataStream (mux : Mux) : Poll (Except TransportError (List UInt8 × ChannelId × Mux)) :=
  match mux.takeAccepted with
  | .pending => .pending
  | .ready (.error problem) => .ready (.error problem)
  | .ready (.ok (channel, taken)) =>
    .ready (.ok (mux.openPayload channel, channel, taken.handOut channel []))

def setSend (mux : Mux) (channel : ChannelId) (send : SendStream) : Mux :=
  mux.modify channel fun endpoint => { endpoint with send := some send }

/-- Second phase of `poll_write`: what is left of the buffer is one DATA frame. -/
def writeData (mux : Mux) (channel : ChannelId) (streamId : UInt32) (send : SendStream)
    (cursor : Nat) (rest : List UInt8) : Except String Nat × Mux :=
  if rest = [] then (.ok cursor, mux)
  else
    match mux.emit (dataFrame streamId rest) with
    | none => (.error "mux writer gone", mux)
    | some sent =>
      (.ok (cursor + rest.length),
        sent.setSend channel { send with written := send.written ++ rest })

/-- `none`: there is no such sending half. -/
def pollWrite (mux : Mux) (channel : ChannelId) (buf : List UInt8) :
    Option (Except String Nat × Mux) :=
  match mux.endpoints[channel]? with
  | some { streamId := streamId, send := some send, .. } =>
    if send.finished || mux.closed then some (.error "mux stream closed", mux)
    else
      match send.pendingOpen with
      | none => some (mux.writeData channel streamId send 0 buf)
      | some pending =>
        let take := buf.take (9 - pending.length)
        let send := { send with
          pendingOpen := some (pending ++ take), written := send.written ++ take }
        if (pending ++ take).length = 9 then
          let send := { send with pendingOpen := none }
          let mux := mux.setSend channel send
          match mux.emit (openFrame streamId (pending ++ take)) with
          | none => some (.error "mux writer gone", mux)
          | some sent =>
            some (sent.writeData channel streamId send take.length (buf.drop take.length))
        else some (.ok take.length, mux.setSend channel send)
  | _ => none

def finish (mux : Mux) (channel : ChannelId) : Option (Except TransportError Unit × Mux) :=
  match mux.endpoints[channel]? with
  | some { streamId := streamId, send := some send, .. } =>
    if send.finished then some (.ok (), mux)
    else
      let mux := mux.setSend channel { send with finished := true, pendingOpen := none }
      -- an OPEN that is still owed is padded and sent first
      let mux := match send.pendingOpen with
        | none => mux
        | some pending =>
          (mux.emit (openFrame streamId (pending ++ List.replicate (9 - pending.length) 0))).getD mux
      match mux.emit (finFrame streamId) with
      | none => some (.error .unexpectedEof, mux)
      | some sent => some (.ok (), sent)
  | _ => none

/-- Some sender of the channel still exists. -/
def senderAlive (mux : Mux) (channel : ChannelId) (streamId : UInt32) : Bool :=
  mux.streams streamId == some channel || match mux.reader with
    | .forwarding _ target _ => target == channel
    | _ => false

/-- `poll_read` with room for `space` bytes; `none`: there is no such receiving half. -/
def pollRead (mux : Mux) (channel : ChannelId) (space : Nat) : Option (Poll (List UInt8) × Mux) :=
  match mux.endpoints[channel]? with
  | some { streamId := streamId, queue := queue, recv := .held recv, .. } =>
    if recv.leftover ≠ [] then
      some (.ready (recv.leftover.take space), mux.modify channel fun endpoint =>
        { endpoint with
          recv := .held { recv with leftover := recv.leftover.drop space }
          delivered := endpoint.delivered ++ recv.leftover.take space })
    else if recv.eof then some (.ready [], mux)
    else
      match queue with
      | chunk :: rest =>
        some (.ready (chunk.take space), mux.modify channel fun endpoint =>
          { endpoint with
            queue := rest
            recv := .held { recv with leftover := chunk.drop space }
            delivered := endpoint.delivered ++ chunk.take space })
      | [] =>
        if mux.senderAlive channel streamId then some (.pending, mux)
        else
          some (.ready [], mux.modify channel fun endpoint =>
            { endpoint with recv := .held { recv with eof := true } })
  | _ => none

def dropRecv (mux : Mux) (channel : ChannelId) : Option Mux :=
  match mux.endpoints[channel]? with
  | some { streamId := streamId, recv := .held _, .. } =>
    some ({ mux with streams := Function.update mux.streams streamId none }.modify channel
      fun endpoint => { endpoint with recv := .dropped, queue := [] })
  | _ => none

def notifyWaiters (mux : Mux) : Mux :=
  { mux with closers := mux.closers.map fun caller =>
      match caller with
      | .waiting => .returned
      | other => other }

def close (mux : Mux) : Mux :=
  if mux.closed then mux
  else
    let mux := { mux with closed := true }
    let mux :=
      if mux.writer = .done then mux
      else { mux with writerQueue := mux.writerQueue ++ [.close] }
    mux.notifyWaiters

/-- `closed()` up to its first look at the flag. -/
def closedCheck (mux : Mux) : Closer := if mux.closed then .returned else .checked

/-- The frame is dealt with; on to the next header. -/
def nextHeader (mux : Mux) (frame : MuxFrame) : Mux :=
  { mux with reader := .header [], received := mux.received ++ [frame] }

/-- The reader has a header and all of its payload. -/
def afterPayload (mux : Mux) (header : MuxHeader) (payload : List UInt8) : Mux :=
  match header.flag with
  | .open_ =>
    if header.streamId = controlStreamId then { mux with reader := .stopping }
    else
      { (mux.register {
          streamId := header.streamId
          queue := []
          recv := .waiting payload
          send := none
          delivered := [] }) with
        acceptQueue := mux.acceptQueue ++ [mux.endpoints.length] }.nextHeader ⟨header, payload⟩
  | .data =>
    match mux.streams header.streamId with
    | none => mux.nextHeader ⟨header, payload⟩
    | some channel => { mux with reader := .forwarding header channel payload }
  | .fin => { mux with reader := .stopping }

def afterHeader (mux : Mux) (header : MuxHeader) : Mux :=
  match header.flag with
  | .open_ => { mux with reader := .payload header [] }
  | .data =>
    if maxMuxPayload < header.payloadLen.toNat then { mux with reader := .stopping }
    else if header.payloadLen = 0 then mux.afterPayload header []
    else { mux with reader := .payload header [] }
  | .fin =>
    { mux with streams := Function.update mux.streams header.streamId none }.nextHeader ⟨header, []⟩

/-- What the reader still reads after a header. -/
def payloadSize (header : MuxHeader) : Nat :=
  match header.flag with
  | .open_ => 9
  | .data => header.payloadLen.toNat
  | .fin => 0

def readerByte (mux : Mux) (byte : UInt8) : Option Mux :=
  match mux.reader with
  | .header buf =>
    if (buf ++ [byte]).length < muxHeaderSize then
      some { mux with reader := .header (buf ++ [byte]) }
    else
      match MuxHeader.decode (buf ++ [byte]) with
      | .error _ => some { mux with reader := .stopping }
      | .ok header => some (mux.afterHeader header)
  | .payload header buf =>
    if (buf ++ [byte]).length < payloadSize header then
      some { mux with reader := .payload header (buf ++ [byte]) }
    else some (mux.afterPayload header (buf ++ [byte]))
  | _ => none

/-- The send completes: there is room, or nobody will ever receive. -/
def readerForward (mux : Mux) : Option Mux :=
  match mux.reader with
  | .forwarding header channel chunk =>
    match mux.endpoints[channel]? with
    | none => none
    | some endpoint =>
      if endpoint.recv = .dropped then some (mux.nextHeader ⟨header, chunk⟩)
      else if endpoint.queue.length < streamInboundCapacity then
        some ((mux.modify channel fun endpoint =>
          { endpoint with queue := endpoint.queue ++ [chunk] }).nextHeader ⟨header, chunk⟩)
      else none
  | _ => none

inductive Event where
  | openDataStream (header : Vector UInt8 9)
  | openBi
  | acceptBi
  | acceptDataStream
  | write (channel : ChannelId) (buf : List UInt8)
  | finish (channel : ChannelId)
  | read (channel : ChannelId) (space : Nat)
  | dropRecv (channel : ChannelId)
  | close
  | closedCheck
  | closedRegister (caller : Nat)
  | writerTake
  | writerByte (byte : UInt8)
  | writerFail
  | readerByte (byte : UInt8)
  | readerForward
  | readerEnd
  | readerStore
  | readerNotify

def step (mux : Mux) : Event → Option Mux
  | .openDataStream header => some (mux.openDataStream header).2
  | .openBi => some mux.openBi.2
  | .acceptBi =>
    match mux.acceptBi with
    | .ready (.ok (_, taken)) => some taken
    | .ready (.error _) => some mux
    | .pending => none
  | .acceptDataStream =>
    match mux.acceptDataStream with
    | .ready (.ok (_, _, taken)) => some taken
    | .ready (.error _) => some mux
    | .pending => none
  | .write channel buf => (mux.pollWrite channel buf).map (·.2)
  | .finish channel => (mux.finish channel).map (·.2)
  | .read channel space => (mux.pollRead channel space).map (·.2)
  | .dropRecv channel => mux.dropRecv channel
  | .close => some mux.close
  | .closedCheck => some { mux with closers := mux.closers ++ [mux.closedCheck] }
  | .closedRegister caller =>
    match mux.closers[caller]? with
    | some .checked => some { mux with closers := mux.closers.set caller .waiting }
    | _ => none
  | .writerTake =>
    match mux.writer, mux.writerQueue with
    | .idle, .frame frame :: rest =>
      some { mux with writer := .writing frame.bytes, writerQueue := rest }
    | .idle, .close :: rest => some { mux with writer := .done, writerQueue := rest }
    | _, _ => none
  | .writerByte byte =>
    match mux.writer with
    | .writing (next :: rest) =>
      if next = byte then
        some { mux with writer := if rest = [] then .idle else .writing rest }
      else none
    | _ => none
  | .writerFail =>
    match mux.writer with
    | .writing _ => some { mux with writer := .done }
    | _ => none
  | .readerByte byte => mux.readerByte byte
  | .readerForward => mux.readerForward
  | .readerEnd =>
    match mux.reader with
    | .header _ => some { mux with reader := .stopping }
    | .payload _ _ => some { mux with reader := .stopping }
    | _ => none
  | .readerStore =>
    match mux.reader with
    | .stopping => some { mux with reader := .stored, closed := true }
    | _ => none
  | .readerNotify =>
    match mux.reader with
    | .stored => some { mux with reader := .exited }.notifyWaiters
    | _ => none

end Mux
end KrotRelay.Source
