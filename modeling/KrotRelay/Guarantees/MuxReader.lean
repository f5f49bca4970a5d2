import KrotRelay.Lib.Run
import KrotRelay.Source.MuxEffects

/-!
# What a mux makes of frames from any peer

The other end may send any frames the reader takes in. The account kept of every stream at
this end says what arrived for its id while it was open and whether a FIN did. A stream
reads exactly that, and ends only at its FIN, as long as no OPEN and no open of our own
takes an id that is in use here and no DATA frame is empty.
-/
namespace KrotRelay.Guarantees
open Source Lib List
open Function (update update_self update_of_ne)

variable {channel queried : ChannelId} {frame : MuxFrame} {byte : UInt8} {endpoint : Endpoint}
  {header : MuxHeader} {chunk leftover payload : List UInt8} {event : Mux.Event}
  {acceptQueue : List ChannelId} {recv : RecvStream} {streamId : UInt32}
  {streams : UInt32 → Option ChannelId}

/-! ## The receiving side and its account -/

structure RecvEnd where
  streamId : UInt32
  queue : List (List UInt8)
  recv : RecvHalf
  delivered : List UInt8

/-- What receiving depends on. -/
structure RecvSide where
  view : ChannelId → Option RecvEnd
  streams : UInt32 → Option ChannelId
  reader : Reader
  acceptQueue : List ChannelId
  slot : Option ChannelId

def recvEnd (endpoint : Endpoint) : RecvEnd :=
  ⟨endpoint.streamId, endpoint.queue, endpoint.recv, endpoint.delivered⟩

def recvSide (mux : Mux) : RecvSide where
  view channel := (mux.endpoints[channel]?).map recvEnd
  streams := mux.streams
  reader := mux.reader
  acceptQueue := mux.acceptQueue
  slot := mux.controlRecvSlot

/-- What came in for a stream while it was open: the OPEN payload if `accept_bi` put it in
front, the payloads of the DATA frames, and whether a FIN followed. -/
structure Tape where
  opening : List UInt8
  arrived : List UInt8
  ended : Bool
  deriving DecidableEq

def Tape.blank : Tape := ⟨[], [], false⟩

def Tape.note (tape : Tape) (frame : MuxFrame) : Tape :=
  match frame.header.flag with
  | .open_ => tape
  | .data => if tape.ended then tape else { tape with arrived := tape.arrived ++ frame.payload }
  | .fin => { tape with ended := true }

/-- A stream of this id is open at this end. -/
def openUnder (mux : Mux) (channel : ChannelId) (streamId : UInt32) : Bool :=
  match mux.endpoints[channel]? with
  | some endpoint => endpoint.recv != .dropped && endpoint.streamId == streamId
  | none => false

def inUse (mux : Mux) (streamId : UInt32) : Bool :=
  mux.endpoints.any fun endpoint => endpoint.recv != .dropped && endpoint.streamId == streamId

/-- The frame of which this byte is the last. -/
def completed (mux : Mux) (byte : UInt8) : Option MuxFrame :=
  match mux.reader with
  | .header buf =>
    if (buf ++ [byte]).length < muxHeaderSize then none
    else
      match MuxHeader.decode (buf ++ [byte]) with
      | .error _ => none
      | .ok header => if Mux.payloadSize header = 0 then some ⟨header, []⟩ else none
  | .payload header buf =>
    if (buf ++ [byte]).length < Mux.payloadSize header then none else some ⟨header, buf ++ [byte]⟩
  | _ => none

/-- A mux and the account of every channel. -/
structure Inbound where
  mux : Mux
  tape : ChannelId → Tape

namespace Inbound

def new (isServer : Bool) : Inbound := ⟨Mux.new isServer, fun _ => .blank⟩

/-- The account after an event. -/
def account (inbound : Inbound) : Mux.Event → ChannelId → Tape
  | .readerByte byte, channel =>
    match completed inbound.mux byte with
    | some frame =>
      if openUnder inbound.mux channel frame.header.streamId then (inbound.tape channel).note frame
      else inbound.tape channel
    | none => inbound.tape channel
  | .acceptBi, channel =>
    if inbound.mux.acceptQueue.head? = some channel then
      { inbound.tape channel with
        opening := if inbound.mux.streamIdOf channel = controlStreamId then []
          else inbound.mux.openPayload channel }
    else inbound.tape channel
  | _, channel => inbound.tape channel

def step (inbound : Inbound) (event : Mux.Event) : Option Inbound :=
  (inbound.mux.step event).map fun next => ⟨next, inbound.account event⟩

end Inbound

/-- The event gives no stream an id in use here, and brings no empty chunk. -/
def distinct (mux : Mux) : Mux.Event → Bool
  | .readerByte byte =>
    match completed mux byte with
    | some frame =>
      match frame.header.flag with
      | .open_ => frame.header.streamId == controlStreamId || !inUse mux frame.header.streamId
      | .data => frame.payload != [] || (mux.streams frame.header.streamId).isNone
      | .fin => true
    | none => true
  | .openDataStream _ => mux.closed || !inUse mux mux.nextStreamId
  | .openBi =>
    mux.closed || (!mux.isServer && mux.controlRecvSlot.isSome) || !inUse mux mux.nextStreamId
  | _ => true

/-! ## The invariant -/

/-- Bytes a stream has taken in and not yet given to its reader. -/
def takenIn (side : RecvEnd) : List UInt8 :=
  match side.recv with
  | .held recv => recv.leftover ++ side.queue.flatten
  | _ => side.queue.flatten

/-- The chunk the reader is waiting to hand to a channel. -/
def inFlight (reader : Reader) (channel : ChannelId) : List UInt8 :=
  match reader with
  | .forwarding _ target chunk => if target = channel then chunk else []
  | _ => []

/-- Not waiting to hand over a chunk. -/
def Reader.idle (reader : Reader) : Prop := ∀ header channel chunk, reader ≠ .forwarding header channel chunk

theorem inFlight_idle {reader : Reader} (idle : Reader.idle reader) (chan : ChannelId) :
    inFlight reader chan = [] := by
  unfold inFlight
  split
  · exact absurd rfl (idle _ _ _)
  · rfl

/-- One channel against the table of streams, the reader and its account. -/
structure ChannelOk (streams : UInt32 → Option ChannelId) (reader : Reader) (channel : ChannelId)
    (found : RecvEnd) (tape : Tape) : Prop where
  routed : found.recv ≠ .dropped → (streams found.streamId = some channel ↔ tape.ended = false)
  bytes : found.recv ≠ .dropped →
    found.delivered ++ takenIn found ++ inFlight reader channel = tape.opening ++ tape.arrived
  chunks : ∀ chunk ∈ found.queue, chunk ≠ []
  finished : ∀ recv, found.recv = .held recv → recv.eof = true →
    tape.ended = true ∧ found.queue = []
  waiting : ∀ payload, found.recv = .waiting payload → tape.opening = [] ∧ found.delivered = []

/-- A channel nobody has been given yet. -/
def Waits (view : ChannelId → Option RecvEnd) (channel : ChannelId) : Prop :=
  ∃ found payload, view channel = some found ∧ found.recv = .waiting payload

theorem Waits.split {view : ChannelId → Option RecvEnd} {old : RecvEnd} {p : Prop}
    (waits : Waits view asked) (seen : view chan = some old) (listed : p) :
    asked ≠ chan ∧ p ∨ asked = chan ∧ ∃ payload, old.recv = .waiting payload := by
  by_cases mine : asked = chan
  · subst mine
    obtain ⟨other, payload, also, half⟩ := waits
    cases seen.symm.trans also
    exact .inr ⟨rfl, payload, half⟩
  · exact .inl ⟨mine, listed⟩

structure Taped (side : RecvSide) (tape : ChannelId → Tape) : Prop where
  fresh : ∀ channel, side.view channel = none → tape channel = .blank
  channels : ∀ channel found, side.view channel = some found →
    ChannelOk side.streams side.reader channel found (tape channel)
  unique : ∀ channel other first second, side.view channel = some first →
    side.view other = some second → first.recv ≠ .dropped → second.recv ≠ .dropped →
    first.streamId = second.streamId → channel = other
  target : ∀ streamId channel, side.streams streamId = some channel →
    ∃ found, side.view channel = some found ∧ found.streamId = streamId
  forwarding : ∀ header channel chunk, side.reader = .forwarding header channel chunk →
    chunk ≠ [] ∧ ∃ found, side.view channel = some found ∧
      (found.recv ≠ .dropped → (tape channel).ended = false)
  queued : ∀ channel ∈ side.acceptQueue, Waits side.view channel
  nodup : side.acceptQueue.Nodup
  slotted : ∀ channel, side.slot = some channel →
    channel ∉ side.acceptQueue ∧ Waits side.view channel

theorem ChannelOk.congr {table : UInt32 → Option ChannelId} {reader other : Reader}
    {found : RecvEnd} {tape : Tape} (ok : ChannelOk streams reader chan found tape)
    (routes : found.recv ≠ .dropped →
      (table found.streamId = some chan ↔ streams found.streamId = some chan))
    (flight : found.recv ≠ .dropped → inFlight other chan = inFlight reader chan) :
    ChannelOk table other chan found tape where
  routed kept := (routes kept).trans (ok.routed kept)
  bytes kept := by rw [flight kept]; exact ok.bytes kept
  chunks := ok.chunks
  finished := ok.finished
  waiting := ok.waiting

namespace Taped
variable {side : RecvSide} {tape : ChannelId → Tape}

section
variable (taped : Taped side tape)
include taped

/-- The table and the reader change, and no channel does. -/
theorem reroute {reader : Reader} (idle : Reader.idle reader)
    (routes : ∀ chan found, side.view chan = some found → found.recv ≠ .dropped →
      (streams found.streamId = some chan ↔ side.streams found.streamId = some chan))
    (flight : ∀ chan found, side.view chan = some found → found.recv ≠ .dropped →
      inFlight side.reader chan = [])
    (target : ∀ streamId chan, streams streamId = some chan →
      side.streams streamId = some chan) :
    Taped { side with streams := streams, reader := reader } tape where
  fresh := taped.fresh
  channels chan found seen :=
    (taped.channels chan found seen).congr (routes chan found seen)
      fun kept => by rw [inFlight_idle idle, flight chan found seen kept]
  unique := taped.unique
  target streamId chan routed := taped.target streamId chan (target streamId chan routed)
  forwarding header chan chunk isForwarding := absurd isForwarding (idle _ _ _)
  queued := taped.queued
  nodup := taped.nodup
  slotted := taped.slotted

/-- The reader moves inside a frame, or out of its loop. -/
theorem moveReader (idle : Reader.idle side.reader) {reader : Reader}
    (stillIdle : Reader.idle reader) : Taped { side with reader := reader } tape :=
  taped.reroute stillIdle (fun _ _ _ _ => Iff.rfl) (fun chan _ _ _ => inFlight_idle idle chan)
    fun _ _ routed => routed

/-- One channel becomes `new`, with its account; what holds of it is given, and the rest of
the side leaves the other channels as they were. -/
theorem change {new : RecvEnd} {after : RecvSide}
    {later : ChannelId → Tape} (view : after.view = update side.view channel (some new))
    (others : ∀ queried, queried ≠ channel → later queried = tape queried)
    (ok : ChannelOk after.streams after.reader channel new (later channel))
    (routes : ∀ queried found, queried ≠ channel → side.view queried = some found →
      found.recv ≠ .dropped →
      (after.streams found.streamId = some queried ↔ side.streams found.streamId = some queried))
    (flight : ∀ queried, queried ≠ channel →
      inFlight after.reader queried = inFlight side.reader queried)
    (alone : new.recv ≠ .dropped → ∀ queried found, queried ≠ channel →
      side.view queried = some found → found.recv ≠ .dropped → found.streamId ≠ new.streamId)
    (target : ∀ streamId queried, after.streams streamId = some queried →
      queried = channel ∧ new.streamId = streamId ∨
        queried ≠ channel ∧ side.streams streamId = some queried)
    (forwarding : ∀ header queried chunk, after.reader = .forwarding header queried chunk →
      chunk ≠ [] ∧ (queried = channel ∧ (new.recv ≠ .dropped → (later channel).ended = false) ∨
        queried ≠ channel ∧ side.reader = .forwarding header queried chunk))
    (queued : ∀ queried ∈ after.acceptQueue, queried ≠ channel ∧ queried ∈ side.acceptQueue ∨
      queried = channel ∧ ∃ payload, new.recv = .waiting payload) (nodup : after.acceptQueue.Nodup)
    (slotted : ∀ queried, after.slot = some queried → queried ∉ after.acceptQueue ∧
      (queried ≠ channel ∧ side.slot = some queried ∨
        queried = channel ∧ ∃ payload, new.recv = .waiting payload)) : Taped after later := by
  have here : ∀ {queried found}, after.view queried = some found →
      queried = channel ∧ found = new ∨ queried ≠ channel ∧ side.view queried = some found := by
    intro queried found there
    rw [view] at there
    by_cases same : queried = channel
    · subst same
      rw [update_self] at there
      exact .inl ⟨rfl, (Option.some.inj there).symm⟩
    · rw [update_of_ne same] at there
      exact .inr ⟨same, there⟩
  have there : ∀ {queried found}, queried ≠ channel → side.view queried = some found →
      after.view queried = some found := by
    intro queried found differs seen
    rw [view, update_of_ne differs]
    exact seen
  have new_ : after.view channel = some new := by rw [view, update_self]
  have stillWaits : ∀ {queried}, queried ≠ channel → Waits side.view queried →
      Waits after.view queried := by
    rintro queried differs ⟨found, payload, seen, half⟩
    exact ⟨found, payload, there differs seen, half⟩
  refine ⟨?_, ?_, ?_, ?_, ?_, ?_, nodup, ?_⟩
  · intro queried none_
    have differs : queried ≠ channel := by
      rintro rfl
      rw [new_] at none_
      cases none_
    rw [others queried differs]
    rw [view, update_of_ne differs] at none_
    exact taped.fresh queried none_
  · intro queried found seen
    rcases here seen with ⟨rfl, rfl⟩ | ⟨differs, before⟩
    · exact ok
    · rw [others queried differs]
      exact (taped.channels queried found before).congr (routes queried found differs before)
        fun _ => flight queried differs
  · intro first second one two seenFirst seenSecond keptFirst keptSecond ids
    rcases here seenFirst with ⟨rfl, rfl⟩ | ⟨differentFirst, beforeFirst⟩ <;>
      rcases here seenSecond with ⟨rfl, rfl⟩ | ⟨differentSecond, beforeSecond⟩
    · rfl
    · exact absurd ids.symm (alone keptFirst _ _ differentSecond beforeSecond keptSecond)
    · exact absurd ids (alone keptSecond _ _ differentFirst beforeFirst keptFirst)
    · exact taped.unique _ _ one two beforeFirst beforeSecond keptFirst keptSecond ids
  · intro streamId queried routed
    rcases target streamId queried routed with ⟨rfl, same⟩ | ⟨differs, before⟩
    · exact ⟨new, new_, same⟩
    · obtain ⟨found, seen, same⟩ := taped.target streamId queried before
      exact ⟨found, there differs seen, same⟩
  · intro header queried chunk isForwarding
    obtain ⟨some_, ⟨rfl, unended⟩ | ⟨differs, before⟩⟩ := forwarding header queried chunk isForwarding
    · exact ⟨some_, new, new_, unended⟩
    · obtain ⟨-, found, seen, unended⟩ := taped.forwarding header queried chunk before
      refine ⟨some_, found, there differs seen, fun kept => ?_⟩
      rw [others queried differs]
      exact unended kept
  · intro queried mem
    rcases queued queried mem with ⟨differs, before⟩ | ⟨rfl, payload, half⟩
    · exact stillWaits differs (taped.queued queried before)
    · exact ⟨new, payload, new_, half⟩
  · intro queried isSlot
    obtain ⟨outside, ⟨differs, before⟩ | ⟨rfl, payload, half⟩⟩ := slotted queried isSlot
    · exact ⟨outside, stillWaits differs (taped.slotted queried before).2⟩
    · exact ⟨outside, new, payload, new_, half⟩

theorem not_waiting {found : RecvEnd}
    (seen : side.view channel = some found) (held : ∀ payload, found.recv ≠ .waiting payload) :
    channel ∉ side.acceptQueue ∧ side.slot ≠ some channel := by
  have not_ : ¬ Waits side.view channel := by
    rintro ⟨other, payload, also, half⟩
    cases seen.symm.trans also
    exact held payload half
  exact ⟨fun mem => not_ (taped.queued channel mem),
    fun isSlot => not_ (taped.slotted channel isSlot).2⟩

theorem others_distinct {old : RecvEnd}
    (seen : side.view chan = some old) (kept : old.recv ≠ .dropped) :
    ∀ asked found, asked ≠ chan → side.view asked = some found → found.recv ≠ .dropped →
      found.streamId ≠ old.streamId :=
  fun _ _ differs there alive same =>
    differs (taped.unique _ _ _ _ there seen alive kept same)

theorem target_cases {old : RecvEnd} (seen : side.view chan = some old)
    (routed : side.streams streamId = some queried) : queried = chan ∧ old.streamId = streamId ∨
      queried ≠ chan ∧ side.streams streamId = some queried := by
  by_cases mine : queried = chan
  · subst mine
    obtain ⟨found, there, same⟩ := taped.target streamId queried routed
    cases seen.symm.trans there
    exact .inl ⟨rfl, same⟩
  · exact .inr ⟨mine, routed⟩

theorem forwarding_cases {old : RecvEnd}
    (seen : side.view chan = some old) (kept : old.recv ≠ .dropped)
    (isForwarding : side.reader = .forwarding header asked chunk) :
    chunk ≠ [] ∧ (asked = chan ∧ (tape chan).ended = false ∨
      asked ≠ chan ∧ side.reader = .forwarding header asked chunk) := by
  obtain ⟨some_, found, there, unended⟩ := taped.forwarding header asked chunk isForwarding
  refine ⟨some_, ?_⟩
  by_cases mine : asked = chan
  · subst mine
    cases seen.symm.trans there
    exact .inl ⟨rfl, unended kept⟩
  · exact .inr ⟨mine, isForwarding⟩

/-- A held stream gives out some of its bytes, or finds its end. -/
theorem read {old new : RecvEnd} {next : RecvStream}
    (seen : side.view chan = some old) (held : old.recv = .held recv)
    (streamId : new.streamId = old.streamId) (still : new.recv = .held next)
    (bytes : new.delivered ++ takenIn new = old.delivered ++ takenIn old)
    (chunks : ∀ chunk ∈ new.queue, chunk ∈ old.queue)
    (ran : next.eof = true → (tape chan).ended = true ∧ new.queue = []) :
    Taped { side with view := update side.view chan (some new) } tape := by
  have kept : old.recv ≠ .dropped := by simp [held]
  have ok := taped.channels chan old seen
  obtain ⟨unqueued, unslotted⟩ := taped.not_waiting seen (by simp [held])
  refine taped.change rfl (fun _ _ => rfl) ?_ (fun _ _ _ _ _ => Iff.rfl) (fun _ _ => rfl) ?_ ?_ ?_
    ?_ taped.nodup ?_
  · refine ⟨fun _ => ?_, fun _ => ?_, fun chunk mem => ok.chunks chunk (chunks chunk mem), ?_, ?_⟩
    · rw [streamId]
      exact ok.routed kept
    · rw [bytes]
      exact ok.bytes kept
    · intro other half eof
      cases still.symm.trans half
      exact ran eof
    · intro payload half
      cases still.symm.trans half
  · intro _ asked found differs there alive
    rw [streamId]
    exact taped.others_distinct seen kept asked found differs there alive
  · intro id asked routed
    rw [streamId]
    exact taped.target_cases seen routed
  · intro header asked chunk isForwarding
    obtain ⟨some_, cases_⟩ := taped.forwarding_cases seen kept isForwarding
    exact ⟨some_, cases_.imp_left fun ⟨mine, unended⟩ => ⟨mine, fun _ => unended⟩⟩
  · exact fun asked mem => .inl ⟨fun same => unqueued (same ▸ mem), mem⟩
  · exact fun asked isSlot =>
      ⟨(taped.slotted asked isSlot).1, .inl ⟨fun same => unslotted (same ▸ isSlot), isSlot⟩⟩

/-- A stream that waited is handed out, with some bytes in front of its own. -/
theorem hand {old : RecvEnd} {slot : Option ChannelId}
    {later : ChannelId → Tape} (seen : side.view chan = some old)
    (waits : old.recv = .waiting payload)
    (opening : later chan = { tape chan with opening := leftover })
    (others : ∀ asked, asked ≠ chan → later asked = tape asked)
    (queue : ∀ asked ∈ acceptQueue, asked ≠ chan ∧ asked ∈ side.acceptQueue)
    (nodup : acceptQueue.Nodup)
    (slots : ∀ asked, slot = some asked → asked ≠ chan ∧ side.slot = some asked) :
    Taped { side with
      view := update side.view chan
        (some { old with recv := .held { leftover := leftover, eof := false } })
      acceptQueue := acceptQueue
      slot := slot } later := by
  have kept : old.recv ≠ .dropped := by simp [waits]
  have ok := taped.channels chan old seen
  obtain ⟨blank, undelivered⟩ := ok.waiting payload waits
  refine taped.change rfl others ?_ (fun _ _ _ _ _ => Iff.rfl) (fun _ _ => rfl) ?_ ?_ ?_ ?_ nodup ?_
  · refine ⟨fun _ => ?_, fun _ => ?_, ok.chunks, ?_, ?_⟩
    · rw [opening]
      exact ok.routed kept
    · have before := ok.bytes kept
      simp only [takenIn, waits, undelivered, blank, nil_append] at before
      rw [opening]
      simp only [takenIn, undelivered, nil_append, append_assoc]
      exact congrArg _ before
    · intro recv half eof
      cases half
      cases eof
    · exact fun payload half => nomatch half
  · have distinct := taped.others_distinct seen kept
    exact fun _ => distinct
  · intro id asked routed
    have found := taped.target_cases seen routed
    exact found
  · intro header asked chunk isForwarding
    obtain ⟨some_, cases_⟩ := taped.forwarding_cases seen kept isForwarding
    rw [opening]
    exact ⟨some_, cases_.imp_left fun ⟨mine, unended⟩ => ⟨mine, fun _ => unended⟩⟩
  · exact fun asked mem => .inl (queue asked mem)
  · intro asked isSlot
    obtain ⟨differs, before⟩ := slots asked isSlot
    exact ⟨fun mem => (taped.slotted asked before).1 (queue asked mem).2,
      .inl ⟨differs, before⟩⟩

/-- A held stream is dropped: its id is free. -/
theorem drop {old : RecvEnd} (seen : side.view chan = some old)
    (held : old.recv = .held recv) : Taped { side with
      view := update side.view chan (some { old with recv := .dropped, queue := [] })
      streams := update side.streams old.streamId none } tape := by
  have kept : old.recv ≠ .dropped := by simp [held]
  obtain ⟨unqueued, unslotted⟩ := taped.not_waiting seen (by simp [held])
  have distinct := taped.others_distinct seen kept
  refine taped.change rfl (fun _ _ => rfl) ?_ ?_ (fun _ _ => rfl) ?_ ?_ ?_ ?_ taped.nodup ?_
  · exact ⟨fun alive => absurd rfl alive, fun alive => absurd rfl alive, nofun, nofun, nofun⟩
  · intro asked found differs there alive
    dsimp only
    rw [update_of_ne (distinct asked found differs there alive)]
  · exact fun alive => absurd rfl alive
  · intro id asked routed
    dsimp only at routed
    by_cases freed : id = old.streamId
    · subst freed
      rw [update_self] at routed
      cases routed
    · rw [update_of_ne freed] at routed
      obtain ⟨found, there, same⟩ := taped.target id asked routed
      refine .inr ⟨?_, routed⟩
      rintro rfl
      cases seen.symm.trans there
      exact freed same.symm
  · intro header asked chunk isForwarding
    obtain ⟨some_, -⟩ := taped.forwarding header asked chunk isForwarding
    refine ⟨some_, ?_⟩
    by_cases mine : asked = chan
    · exact .inl ⟨mine, fun alive => absurd rfl alive⟩
    · exact .inr ⟨mine, isForwarding⟩
  · exact fun asked mem => .inl ⟨fun same => unqueued (same ▸ mem), mem⟩
  · exact fun asked isSlot =>
      ⟨(taped.slotted asked isSlot).1, .inl ⟨fun same => unslotted (same ▸ isSlot), isSlot⟩⟩

/-- A new channel under an id that no stream here uses. -/
theorem add {new : RecvEnd} {reader : Reader} (unseen : side.view channel = none)
    (free : ∀ queried found, side.view queried = some found → found.recv ≠ .dropped →
      found.streamId ≠ new.streamId) (empty : new.queue = []) (undelivered : new.delivered = [])
    (half : new.recv = .dropped ∨ new.recv = .held ⟨[], false⟩ ∨ ∃ payload, new.recv = .waiting payload)
    (readers : reader = side.reader ∨ Reader.idle side.reader ∧ Reader.idle reader)
    (queue : acceptQueue = side.acceptQueue ∨
      acceptQueue = side.acceptQueue ++ [channel] ∧ ∃ payload, new.recv = .waiting payload) :
    Taped { side with
      view := update side.view channel (some new)
      streams := update side.streams new.streamId (some channel)
      reader := reader
      acceptQueue := acceptQueue } tape := by
  have flight : ∀ queried, inFlight reader queried = inFlight side.reader queried := by
    intro queried
    rcases readers with rfl | ⟨idle, still⟩
    · rfl
    · rw [inFlight_idle idle, inFlight_idle still]
  have unknown : ∀ queried found, side.view queried = some found → queried ≠ channel := by
    rintro queried found there rfl
    rw [unseen] at there
    cases there
  have blank := taped.fresh channel unseen
  have outside : channel ∉ side.acceptQueue := fun mem => by
    obtain ⟨found, -, there, -⟩ := taped.queued channel mem
    exact unknown channel found there rfl
  have silent : inFlight side.reader channel = [] := by
    cases shape : side.reader with
    | forwarding header target chunk =>
      obtain ⟨-, found, there, -⟩ := taped.forwarding header target chunk shape
      simp [inFlight, unknown target found there]
    | header | payload | stopping | stored | exited => rfl
  refine taped.change rfl (fun _ _ => rfl) ?_ ?_ (fun queried _ => flight queried) ?_ ?_ ?_ ?_ ?_ ?_
  · refine ⟨fun _ => ?_, fun _ => ?_, by simp [empty], ?_, ?_⟩
    · simp [blank, Tape.blank]
    · rw [flight, silent, blank, undelivered]
      rcases half with dropped | held | ⟨payload, waits⟩ <;> simp [takenIn, Tape.blank, *]
    · intro recv isHeld eof
      rcases half with dropped | held | ⟨payload, waits⟩
      · cases dropped.symm.trans isHeld
      · cases held.symm.trans isHeld
        cases eof
      · cases waits.symm.trans isHeld
    · exact fun payload _ => ⟨by rw [blank]; rfl, undelivered⟩
  · intro queried found _ there alive
    dsimp only
    rw [update_of_ne (free queried found there alive)]
  · exact fun _ queried found _ there alive => free queried found there alive
  · intro id queried routed
    dsimp only at routed
    by_cases mine : id = new.streamId
    · subst mine
      rw [update_self] at routed
      cases routed
      exact .inl ⟨rfl, rfl⟩
    · rw [update_of_ne mine] at routed
      obtain ⟨found, there, -⟩ := taped.target id queried routed
      exact .inr ⟨unknown queried found there, routed⟩
  · intro header queried chunk isForwarding
    rcases readers with rfl | ⟨-, still⟩
    · obtain ⟨some_, found, there, -⟩ := taped.forwarding header queried chunk isForwarding
      exact ⟨some_, .inr ⟨unknown queried found there, isForwarding⟩⟩
    · exact absurd isForwarding (still _ _ _)
  · intro queried mem
    rcases queue with rfl | ⟨rfl, waits⟩
    · exact .inl ⟨fun same => outside (same ▸ mem), mem⟩
    · rcases mem_append.mp mem with old | added
      · exact .inl ⟨fun same => outside (same ▸ old), old⟩
      · exact .inr ⟨mem_singleton.mp added, waits⟩
  · rcases queue with rfl | ⟨rfl, -⟩
    · exact taped.nodup
    · refine nodup_append.mpr ⟨taped.nodup, pairwise_singleton _ _, ?_⟩
      intro first memberFirst second memberSecond same
      exact outside (mem_singleton.mp memberSecond ▸ same ▸ memberFirst)
  · intro queried isSlot
    obtain ⟨notQueued, found, -, there, -⟩ := taped.slotted queried isSlot
    have differs := unknown queried found there
    refine ⟨fun mem => ?_, .inl ⟨differs, isSlot⟩⟩
    rcases queue with rfl | ⟨rfl, -⟩
    · exact notQueued mem
    · rcases mem_append.mp mem with old | added
      · exact notQueued old
      · exact differs (mem_singleton.mp added)

/-- The chunk is handed to its channel. -/
theorem push {old : RecvEnd} {reader : Reader}
    (forwards : side.reader = .forwarding header chan chunk)
    (seen : side.view chan = some old) (kept : old.recv ≠ .dropped) (idle : Reader.idle reader) :
    Taped { side with
      view := update side.view chan (some { old with queue := old.queue ++ [chunk] })
      reader := reader } tape := by
  have ok := taped.channels chan old seen
  obtain ⟨some_, found, there, unended⟩ := taped.forwarding header chan chunk forwards
  cases seen.symm.trans there
  have distinct := taped.others_distinct seen kept
  refine taped.change rfl (fun _ _ => rfl) ?_ (fun _ _ _ _ _ => Iff.rfl) ?_ (fun _ => distinct) ?_
    (fun _ _ _ isForwarding => absurd isForwarding (idle _ _ _)) ?_ taped.nodup ?_
  · refine ⟨ok.routed, fun _ => ?_, ?_, ?_, ok.waiting⟩
    · have before := ok.bytes kept
      rw [forwards] at before
      rw [← before, inFlight_idle idle]
      cases half : old.recv with
      | held | waiting | dropped => simp [takenIn, half, inFlight]
    · intro queued mem
      rcases mem_append.mp mem with before | added
      · exact ok.chunks queued before
      · exact mem_singleton.mp added ▸ some_
    · intro recv half eof
      have ended := (ok.finished recv half eof).1
      rw [unended kept] at ended
      cases ended
  · intro asked differs
    rw [inFlight_idle idle, forwards, inFlight, if_neg (Ne.symm differs)]
  · intro id asked routed
    have target := taped.target_cases seen routed
    exact target
  · intro asked mem
    have waits := (taped.queued asked mem).split seen mem
    exact waits
  · intro asked isSlot
    obtain ⟨outside, waits⟩ := taped.slotted asked isSlot
    have stillWaits := waits.split seen isSlot
    exact ⟨outside, stillWaits⟩

/-- Nobody will receive the chunk. -/
theorem discard {old : RecvEnd} {reader : Reader}
    (forwards : side.reader = .forwarding header chan chunk)
    (seen : side.view chan = some old) (gone : old.recv = .dropped) (idle : Reader.idle reader) :
    Taped { side with reader := reader } tape := by
  refine taped.reroute idle (fun _ _ _ _ => Iff.rfl) ?_ fun _ _ routed => routed
  intro asked found there kept
  rw [forwards, inFlight, if_neg]
  rintro rfl
  cases seen.symm.trans there
  exact kept gone

/-- What a frame adds to the accounts, in the terms of the receiving side. -/
def Noted (side : RecvSide) (frame : MuxFrame) (tape later : ChannelId → Tape) : Prop :=
  ∀ channel, later channel = tape channel ∧
      (∀ found, side.view channel = some found → found.recv ≠ .dropped →
        found.streamId ≠ frame.header.streamId) ∨
    later channel = (tape channel).note frame ∧
      ∃ found, side.view channel = some found ∧ found.recv ≠ .dropped ∧
        found.streamId = frame.header.streamId

/-- Payload for a stream that is not routed any more is not counted. -/
theorem noted_unrouted {later : ChannelId → Tape}
    (noted : Noted side frame tape later) (data : frame.header.flag = .data)
    (elsewhere : side.streams frame.header.streamId ≠ some channel) :
    later channel = tape channel := by
  rcases noted channel with ⟨same, -⟩ | ⟨changed, found, seen, kept, id⟩
  · exact same
  · have ended : (tape channel).ended = true := by
      rw [← Bool.not_eq_false]
      intro unended
      rw [← id] at elsewhere
      exact elsewhere (((taped.channels channel found seen).routed kept).mpr unended)
    rw [changed, Tape.note, data]
    simp [ended]

/-- A DATA frame for a stream in the table. -/
theorem arrive {later : ChannelId → Tape}
    (noted : Noted side frame tape later) (data : frame.header.flag = .data)
    (some_ : frame.payload ≠ []) (idle : Reader.idle side.reader)
    (routed : side.streams frame.header.streamId = some chan) :
    Taped { side with reader := .forwarding frame.header chan frame.payload } later := by
  obtain ⟨old, seen, id⟩ := taped.target _ chan routed
  have ok := taped.channels chan old seen
  have unended : old.recv ≠ .dropped → (tape chan).ended = false := by
    intro kept
    refine (ok.routed kept).mp ?_
    rw [id]
    exact routed
  have mine : old.recv ≠ .dropped →
      later chan = { tape chan with arrived := (tape chan).arrived ++ frame.payload } := by
    intro kept
    rcases noted chan with ⟨-, absent⟩ | ⟨changed, -⟩
    · exact absurd id (absent old seen kept)
    · rw [changed, Tape.note, data]
      simp [unended kept]
  have others : ∀ queried, queried ≠ chan → later queried = tape queried := by
    intro queried differs
    refine taped.noted_unrouted noted data ?_
    rw [routed]
    exact fun same => differs (Option.some.inj same).symm
  have opening : (later chan).opening = (tape chan).opening ∧
      (later chan).ended = (tape chan).ended := by
    rcases noted chan with ⟨same, -⟩ | ⟨changed, -⟩
    · rw [same]
      exact ⟨rfl, rfl⟩
    · rw [changed, Tape.note, data]
      dsimp only
      split <;> exact ⟨rfl, rfl⟩
  refine taped.change (Function.update_eq_self_iff.mpr seen.symm).symm others ?_
    (fun _ _ _ _ _ => Iff.rfl) ?_ (fun kept => taped.others_distinct seen kept)
    (fun _ _ routed => taped.target_cases seen routed) ?_ ?_ taped.nodup ?_
  · refine ⟨fun kept => ?_, fun kept => ?_, ok.chunks, ?_, ?_⟩
    · rw [opening.2]
      exact ok.routed kept
    · have before := ok.bytes kept
      rw [inFlight_idle idle, append_nil] at before
      rw [mine kept, before]
      simp [inFlight]
    · intro recv half eof
      rw [opening.2]
      exact ok.finished recv half eof
    · intro payload half
      rw [opening.1]
      exact ok.waiting payload half
  · intro queried differs
    rw [inFlight_idle idle, inFlight, if_neg (Ne.symm differs)]
  · intro header queried chunk isForwarding
    cases isForwarding
    refine ⟨some_, .inl ⟨rfl, fun kept => ?_⟩⟩
    rw [opening.2]
    exact unended kept
  · intro queried mem
    have waits := (taped.queued queried mem).split seen mem
    exact waits
  · intro queried isSlot
    obtain ⟨outside, waits⟩ := taped.slotted queried isSlot
    have stillWaits := waits.split seen isSlot
    exact ⟨outside, stillWaits⟩

/-- A FIN: the id is free, and a stream open under it has ended. -/
theorem fin {later : ChannelId → Tape} {reader : Reader}
    (noted : Noted side frame tape later) (fin : frame.header.flag = .fin)
    (idle : Reader.idle side.reader) (still : Reader.idle reader) : Taped { side with
      streams := update side.streams frame.header.streamId none
      reader := reader } later where
  fresh chan unseen := by
    rcases noted chan with ⟨same, -⟩ | ⟨-, found, seen, -⟩
    · exact same.trans (taped.fresh chan unseen)
    · cases unseen.symm.trans seen
  channels chan found seen := by
    have ok := taped.channels chan found seen
    rcases noted chan with ⟨same, absent⟩ | ⟨changed, other, also, kept, id⟩
    · rw [same]
      refine ok.congr (fun kept => ?_) fun _ => by rw [inFlight_idle idle, inFlight_idle still]
      dsimp only
      rw [update_of_ne (absent found seen kept)]
    · cases seen.symm.trans also
      rw [changed, Tape.note, fin]
      refine ⟨fun _ => ?_, fun _ => ?_, ok.chunks, ?_, ok.waiting⟩
      · dsimp only
        rw [id, update_self]
        simp
      · have before := ok.bytes kept
        rw [inFlight_idle idle] at before
        rw [inFlight_idle still]
        exact before
      · exact fun recv half eof => ⟨rfl, (ok.finished recv half eof).2⟩
  unique := taped.unique
  target streamId chan routed := by
    dsimp only at routed
    by_cases freed : streamId = frame.header.streamId
    · subst freed
      rw [update_self] at routed
      cases routed
    · rw [update_of_ne freed] at routed
      exact taped.target streamId chan routed
  forwarding _ _ _ isForwarding := absurd isForwarding (still _ _ _)
  queued := taped.queued
  nodup := taped.nodup
  slotted := taped.slotted

end

end Taped

/-! ## Every step keeps it -/

section Steps
variable {mux next : Mux} {tape : ChannelId → Tape}

theorem recvSide_view (found : mux.endpoints[chan]? = some endpoint) :
    (recvSide mux).view chan = some (recvEnd endpoint) := by
  simp only [recvSide, found, Option.map_some]

theorem view_endpoint {seen : RecvEnd} (there : (recvSide mux).view chan = some seen) :
    ∃ endpoint, mux.endpoints[chan]? = some endpoint ∧ recvEnd endpoint = seen :=
  Option.map_eq_some_iff.mp there

theorem recvSide_modify (mux : Mux) {change : Endpoint → Endpoint}
    (found : mux.endpoints[chan]? = some endpoint) :
    recvSide (mux.modify chan change) = { recvSide mux with
      view := update (recvSide mux).view chan (some (recvEnd (change endpoint))) } := by
  have views : (recvSide (mux.modify chan change)).view =
      update (recvSide mux).view chan (some (recvEnd (change endpoint))) := by
    funext asked
    simp only [recvSide, Mux.endpoint_modify]
    by_cases same : asked = chan
    · subst same
      rw [if_pos rfl, update_self, found]
      rfl
    · rw [if_neg same, update_of_ne same]
  rw [← views]
  rfl

theorem recvSide_register (mux : Mux) (endpoint : Endpoint) :
    recvSide (mux.register endpoint) = { recvSide mux with
      view := update (recvSide mux).view mux.endpoints.length (some (recvEnd endpoint))
      streams := update (recvSide mux).streams endpoint.streamId (some mux.endpoints.length) } := by
  have views : (recvSide (mux.register endpoint)).view =
      update (recvSide mux).view mux.endpoints.length (some (recvEnd endpoint)) := by
    funext asked
    simp only [recvSide, Mux.endpoint_register]
    by_cases same : asked = mux.endpoints.length
    · subst same
      rw [if_pos rfl, update_self]
      rfl
    · rw [if_neg same, update_of_ne same]
  rw [← views]
  rfl

theorem recvSide_setSend (mux : Mux) (chan : ChannelId) (send : SendStream) :
    recvSide (mux.setSend chan send) = recvSide mux := by
  have views : (recvSide (mux.setSend chan send)).view = (recvSide mux).view := by
    funext asked
    simp only [recvSide, Mux.setSend, Mux.endpoint_modify]
    split
    · rw [Option.map_map]
      rfl
    · rfl
  unfold recvSide at views ⊢
  simp only [RecvSide.mk.injEq]
  exact ⟨views, rfl, rfl, rfl, rfl⟩

theorem recvSide_nextHeader (mux : Mux) (frame : MuxFrame) :
    recvSide (mux.nextHeader frame) = { recvSide mux with reader := .header [] } := rfl

theorem recvSide_emit (emitted : mux.emit frame = some next) : recvSide next = recvSide mux := by
  obtain rfl := Mux.emit_eq_some frame emitted
  rfl

theorem recvSide_close (mux : Mux) : recvSide mux.close = recvSide mux := by
  unfold Mux.close
  split
  · rfl
  · dsimp only
    split <;> rfl

theorem recvSide_sending (sending : Mux.Sending mux next) : recvSide next = recvSide mux := by
  induction sending with
  | refl => rfl
  | tail _ sends ih =>
    cases sends with
    | emit _ emitted => exact (recvSide_emit emitted).trans ih
    | setSend => exact (recvSide_setSend _ _ _).trans ih

theorem free_of_not_inUse (free : inUse mux streamId = false) {found : RecvEnd}
    (seen : (recvSide mux).view chan = some found) (kept : found.recv ≠ .dropped) :
    found.streamId ≠ streamId := by
  obtain ⟨endpoint, there, rfl⟩ := view_endpoint seen
  have unused := any_eq_false.mp free endpoint (mem_of_getElem? there)
  rintro rfl
  apply unused
  simpa [recvEnd] using kept

/-- Our own opens, and `open_data_stream` after the writer is gone. -/
theorem register_taped (taped : Taped (recvSide mux) tape)
    (free : inUse mux endpoint.streamId = false) (empty : endpoint.queue = [])
    (undelivered : endpoint.delivered = [])
    (half : endpoint.recv = .dropped ∨ endpoint.recv = .held ⟨[], false⟩) :
    Taped (recvSide (mux.register endpoint)) tape := by
  rw [recvSide_register]
  refine taped.add ?_ (fun _ _ => free_of_not_inUse free) empty undelivered
    (half.imp_right .inl) (.inl rfl) (.inl rfl)
  simp [recvSide]

theorem openDataStream_taped (taped : Taped (recvSide mux) tape) (header)
    (free : mux.closed = true ∨ inUse mux mux.nextStreamId = false) :
    Taped (recvSide (mux.openDataStream header).2) tape := by
  unfold Mux.openDataStream
  split
  · exact taped
  next isOpen =>
    have unused := free.resolve_left isOpen
    have minted : Taped (recvSide mux.mintStreamId) tape := taped
    dsimp only
    split
    next emitted =>
      rw [recvSide_emit emitted]
      exact register_taped minted unused rfl rfl (.inr rfl)
    next => exact register_taped minted unused rfl rfl (.inl rfl)

theorem recvSide_handOut (mux : Mux) (leftover : List UInt8)
    (found : mux.endpoints[chan]? = some endpoint) :
    recvSide (mux.handOut chan leftover) = { recvSide mux with
      view := update (recvSide mux).view chan
        (some { recvEnd endpoint with recv := .held { leftover := leftover, eof := false } }) } :=
  recvSide_modify mux found

theorem openBi_taped (taped : Taped (recvSide mux) tape)
    (free : mux.closed = true ∨ (mux.isServer = false ∧ mux.controlRecvSlot.isSome = true) ∨
      inUse mux mux.nextStreamId = false) : Taped (recvSide mux.openBi.2) tape := by
  unfold Mux.openBi
  split
  · exact taped
  next isOpen =>
    have unused := free.resolve_left isOpen
    split
    next chan isClient slot =>
      obtain ⟨outside, seen, payload, there, waits⟩ := taped.slotted chan slot
      obtain ⟨endpoint, found, rfl⟩ := view_endpoint there
      have blank := ((taped.channels chan _ there).waiting payload waits).1
      dsimp only
      rw [recvSide_handOut { mux with controlRecvSlot := none } [] found]
      refine taped.hand there waits ?_ (fun _ _ => rfl) ?_ taped.nodup nofun
      · rw [← blank]
      · exact fun asked mem => ⟨fun same => outside (same ▸ mem), mem⟩
    next unslotted =>
      have unused := unused.resolve_left fun ⟨isClient, slotted⟩ => by
        obtain ⟨chan, slot⟩ := Option.isSome_iff_exists.mp slotted
        exact unslotted chan isClient slot
      have minted : Taped (recvSide mux.mintStreamId) tape := taped
      exact register_taped minted unused rfl rfl (.inr rfl)

theorem handAccepted_taped (taped : Taped (recvSide mux) tape) {rest : List ChannelId}
    {later : ChannelId → Tape} {log : List UInt32} (queue : mux.acceptQueue = chan :: rest)
    (opening : later chan = { tape chan with opening := leftover })
    (others : ∀ asked, asked ≠ chan → later asked = tape asked) :
    Taped (recvSide ({ mux with acceptQueue := rest, accepted := log }.handOut chan leftover))
      later := by
  have listed : chan ∈ (recvSide mux).acceptQueue := by
    simp [recvSide, queue]
  have nodup := taped.nodup
  obtain ⟨seen, payload, there, waits⟩ := taped.queued chan listed
  obtain ⟨endpoint, found, rfl⟩ := view_endpoint there
  simp only [recvSide, queue, nodup_cons] at nodup
  rw [recvSide_handOut { mux with acceptQueue := rest, accepted := log } leftover found]
  refine taped.hand there waits opening others ?_ nodup.2 ?_
  · intro asked mem
    refine ⟨fun same => nodup.1 (same ▸ mem), ?_⟩
    rw [recvSide, queue]
    exact mem_cons_of_mem chan mem
  · exact fun asked isSlot =>
      ⟨fun same => (taped.slotted asked isSlot).1 (same ▸ listed), isSlot⟩

theorem ended_of_gone {account : Tape}
    (ok : ChannelOk mux.streams mux.reader chan (recvEnd endpoint) account)
    (kept : (recvEnd endpoint).recv ≠ .dropped)
    (gone : mux.senderAlive chan endpoint.streamId = false) : account.ended = true := by
  rw [← Bool.not_eq_false]
  intro unended
  have routed := (ok.routed kept).mpr unended
  simp only [Mux.senderAlive, Bool.or_eq_false_iff, beq_eq_false_iff_ne] at gone
  exact gone.1 routed

theorem read_taped (taped : Taped (recvSide mux) tape) {space : Nat} {answer : Poll (List UInt8)}
    (polled : mux.pollRead chan space = some (answer, next)) : Taped (recvSide next) tape := by
  obtain ⟨endpoint, recv, found, held, outcome⟩ := Mux.pollRead_cases polled
  have seen := recvSide_view found
  have ok := taped.channels chan _ seen
  cases outcome with
  | ended | waits => exact taped
  | leftover =>
    rw [recvSide_modify mux found]
    refine taped.read seen held rfl rfl ?_ (fun _ mem => mem) (ok.finished recv held)
    simp only [recvEnd, takenIn, held, append_assoc]
    rw [← append_assoc (recv.leftover.take space), take_append_drop]
  | chunk none_left open_ chunk _ queue =>
    rw [recvSide_modify mux found]
    refine taped.read seen held rfl rfl ?_ ?_ ?_
    · simp only [recvEnd, takenIn, held, none_left, queue, append_assoc, nil_append, flatten_cons]
      rw [← append_assoc (chunk.take space), take_append_drop]
    · intro other mem
      simp only [recvEnd, queue]
      exact mem_cons_of_mem chunk mem
    · exact fun eof => absurd (open_.symm.trans eof) Bool.false_ne_true
  | ends _ _ queue gone =>
    rw [recvSide_modify mux found]
    refine taped.read seen held rfl rfl ?_ (fun _ mem => mem) fun _ => ⟨?_, queue⟩
    · simp only [recvEnd, takenIn, held]
    · -- the sender is gone, so the stream is in the table no more
      exact ended_of_gone ok (by simp [recvEnd, held]) gone

theorem dropRecv_taped (taped : Taped (recvSide mux) tape)
    (dropped : mux.dropRecv chan = some next) : Taped (recvSide next) tape := by
  unfold Mux.dropRecv at dropped
  split at dropped
  next streamId queue recv send delivered found =>
    cases dropped
    rw [recvSide_modify { mux with streams := update mux.streams streamId none } found]
    exact taped.drop (recvSide_view found) rfl
  next => cases dropped

theorem readerForward_taped (taped : Taped (recvSide mux) tape)
    (forwarded : mux.readerForward = some next) : Taped (recvSide next) tape := by
  unfold Mux.readerForward at forwarded
  split at forwarded
  next header chan chunk forwards =>
    split at forwarded
    next => cases forwarded
    next endpoint found =>
      have seen := recvSide_view found
      split at forwarded
      next gone =>
        cases forwarded
        exact taped.discard forwards seen gone nofun
      next kept =>
        split at forwarded
        next =>
          cases forwarded
          rw [recvSide_nextHeader, recvSide_modify mux found]
          exact taped.push forwards seen kept nofun
        next => cases forwarded
  next => cases forwarded

/-- A payload is read behind OPEN and DATA only. -/
def inFrame (reader : Reader) : Prop :=
  ∀ header buf, reader = .payload header buf → header.flag ≠ .fin

theorem noted_account (tape : ChannelId → Tape) (whole : completed mux byte = some frame) :
    Taped.Noted (recvSide mux) frame tape (Inbound.account ⟨mux, tape⟩ (.readerByte byte)) := by
  intro chan
  simp only [Inbound.account, whole]
  cases found : mux.endpoints[chan]? with
  | none =>
    refine .inl ⟨by simp [openUnder, found], fun seen there => ?_⟩
    simp [recvSide, found] at there
  | some endpoint =>
    by_cases matches_ : openUnder mux chan frame.header.streamId = true
    · refine .inr ⟨by rw [if_pos matches_], recvEnd endpoint, recvSide_view found, ?_⟩
      simpa [openUnder, found, recvEnd] using matches_
    · refine .inl ⟨by rw [if_neg matches_], fun seen there kept same => matches_ ?_⟩
      cases (recvSide_view found).symm.trans there
      simpa [openUnder, found, recvEnd] using And.intro kept same

theorem account_none (partial_ : completed mux byte = none) :
    Inbound.account ⟨mux, tape⟩ (.readerByte byte) = tape := by
  funext chan
  simp only [Inbound.account, partial_]

theorem noted_open {later : ChannelId → Tape} {side : RecvSide}
    (noted : Taped.Noted side frame tape later) (opens : frame.header.flag = .open_) :
    later = tape := by
  funext chan
  rcases noted chan with ⟨same, -⟩ | ⟨changed, -⟩
  · exact same
  · rw [changed, Tape.note, opens]

/-- The reader has a whole OPEN or DATA frame. -/
theorem afterPayload_taped (taped : Taped (recvSide mux) tape) (idle : Reader.idle mux.reader)
    (whole : completed mux byte = some ⟨header, payload⟩) (inside : header.flag ≠ .fin)
    (fine : distinct mux (.readerByte byte) = true) :
    Taped (recvSide (mux.afterPayload header payload))
      (Inbound.account ⟨mux, tape⟩ (.readerByte byte)) := by
  have noted := noted_account tape whole
  simp only [distinct, whole] at fine
  unfold Mux.afterPayload
  split
  next opens =>
    rw [noted_open noted opens]
    simp only [opens, Bool.or_eq_true, beq_iff_eq, Bool.not_eq_true'] at fine
    split
    next => exact taped.moveReader idle (by rintro _ _ _ ⟨⟩)
    next other =>
      have free := fine.resolve_left other
      change Taped { recvSide (mux.register _) with
        acceptQueue := mux.acceptQueue ++ [mux.endpoints.length], reader := .header [] } tape
      rw [recvSide_register]
      exact taped.add (by simp [recvSide]) (fun _ _ => free_of_not_inUse free) rfl rfl
        (.inr (.inr ⟨payload, rfl⟩)) (.inr ⟨idle, (by rintro _ _ _ ⟨⟩)⟩) (.inr ⟨rfl, payload, rfl⟩)
  next data =>
    simp only [data, Bool.or_eq_true, bne_iff_ne, ne_eq, Option.isNone_iff_eq_none] at fine
    split
    next unrouted =>
      have same : Inbound.account ⟨mux, tape⟩ (.readerByte byte) = tape := by
        funext chan
        exact taped.noted_unrouted noted data (by simp [recvSide, unrouted])
      rw [same]
      exact taped.moveReader idle (by rintro _ _ _ ⟨⟩)
    next chan routed =>
      have some_ := fine.resolve_right (by simp [routed])
      exact taped.arrive noted data some_ idle routed
  next ends => exact absurd ends inside

theorem readerByte_taped (taped : Taped (recvSide mux) tape) (framed : inFrame mux.reader)
    (read : mux.readerByte byte = some next) (fine : distinct mux (.readerByte byte) = true) :
    Taped (recvSide next) (Inbound.account ⟨mux, tape⟩ (.readerByte byte)) := by
  unfold Mux.readerByte at read
  split at read
  next buf inHeader =>
    have idle : Reader.idle mux.reader := by
      rw [inHeader]
      rintro _ _ _ ⟨⟩
    split at read
    next short =>
      cases read
      rw [account_none (by simp only [completed, inHeader, if_pos short])]
      exact taped.moveReader idle (by rintro _ _ _ ⟨⟩)
    next long =>
      split at read
      next refused =>
        cases read
        rw [account_none (by simp only [completed, inHeader, if_neg long, refused])]
        exact taped.moveReader idle (by rintro _ _ _ ⟨⟩)
      next header decoded =>
        cases read
        have parsed : completed mux byte =
            if Mux.payloadSize header = 0 then some ⟨header, []⟩ else none := by
          simp only [completed, inHeader, if_neg long, decoded]
        unfold Mux.afterHeader
        split
        next opens =>
          rw [account_none (by rw [parsed, if_neg]; simp [Mux.payloadSize, opens])]
          exact taped.moveReader idle (by rintro _ _ _ ⟨⟩)
        next data =>
          have size : Mux.payloadSize header = header.payloadLen.toNat := by
            simp [Mux.payloadSize, data]
          split
          next large =>
            rw [account_none (by rw [parsed, if_neg (by omega)])]
            exact taped.moveReader idle (by rintro _ _ _ ⟨⟩)
          next =>
            split
            next empty =>
              have none_left : Mux.payloadSize header = 0 := by rw [size, empty]; rfl
              refine afterPayload_taped taped idle ?_ (by simp [data]) fine
              rw [parsed, if_pos none_left]
            next some_ =>
              rw [account_none]
              · exact taped.moveReader idle (by rintro _ _ _ ⟨⟩)
              · rw [parsed, if_neg]
                rw [size]
                exact fun zero => some_ (UInt32.toNat_inj.mp zero)
        next ends =>
          have whole : completed mux byte = some ⟨header, []⟩ := by
            rw [parsed, if_pos]
            simp [Mux.payloadSize, ends]
          exact taped.fin (noted_account tape whole) ends idle (by rintro _ _ _ ⟨⟩)
  next header buf inPayload =>
    have idle : Reader.idle mux.reader := by
      rw [inPayload]
      rintro _ _ _ ⟨⟩
    split at read
    next short =>
      cases read
      rw [account_none (by simp only [completed, inPayload, if_pos short])]
      exact taped.moveReader idle (by rintro _ _ _ ⟨⟩)
    next long =>
      cases read
      refine afterPayload_taped taped idle ?_ (framed header buf inPayload) fine
      simp only [completed, inPayload, if_neg long]
  next => cases read

theorem afterPayload_inFrame (mux : Mux) (header : MuxHeader) (payload : List UInt8) :
    inFrame (mux.afterPayload header payload).reader := by
  unfold Mux.afterPayload
  split
  · split <;> nofun
  · split <;> nofun
  · nofun

theorem afterHeader_inFrame (mux : Mux) (header : MuxHeader) :
    inFrame (mux.afterHeader header).reader := by
  unfold Mux.afterHeader
  split
  next opens =>
    rintro _ _ ⟨⟩
    simp [opens]
  next data =>
    split
    · nofun
    · split
      · exact afterPayload_inFrame mux header []
      · rintro _ _ ⟨⟩
        simp [data]
  next => nofun

theorem readerByte_inFrame (framed : inFrame mux.reader) (read : mux.readerByte byte = some next) :
    inFrame next.reader := by
  unfold Mux.readerByte at read
  split at read
  · split at read
    · cases read
      nofun
    · split at read
      · cases read
        nofun
      · cases read
        exact afterHeader_inFrame mux _
  next header buf inPayload =>
    split at read
    · cases read
      rintro _ _ ⟨⟩
      exact framed header buf inPayload
    · cases read
      exact afterPayload_inFrame mux _ _
  · cases read

theorem readerForward_reader (forwarded : mux.readerForward = some next) :
    next.reader = .header [] := by
  unfold Mux.readerForward at forwarded
  split at forwarded
  · split at forwarded
    · cases forwarded
    · split at forwarded
      · cases forwarded
        rfl
      · split at forwarded <;> cases forwarded
        rfl
  · cases forwarded

theorem step_inFrame (framed : inFrame mux.reader) (step : mux.step event = some next) :
    inFrame next.reader := by
  cases event with
  | readerByte => exact readerByte_inFrame framed step
  | readerForward =>
    rw [readerForward_reader step]
    rintro _ _ ⟨⟩
  | readerEnd | readerStore | readerNotify =>
    simp only [Mux.step] at step
    split at step <;> cases step <;> rintro _ _ ⟨⟩
  | close =>
    cases step
    rw [(Mux.close_fields mux).1]
    exact framed
  | closedCheck =>
    cases step
    exact framed
  | closedRegister | writerTake | writerFail =>
    simp only [Mux.step] at step
    split at step <;> cases step <;> exact framed
  | writerByte =>
    simp only [Mux.step] at step
    split at step
    · split at step <;> cases step
      exact framed
    · cases step
  | openDataStream | openBi | acceptBi | acceptDataStream | write | finish | read | dropRecv =>
    rw [(Mux.step_called rfl step).reader]
    exact framed

theorem acceptBi_taped (taped : Taped (recvSide mux) tape) (step : mux.step .acceptBi = some next) :
    Taped (recvSide next) (Inbound.account ⟨mux, tape⟩ .acceptBi) := by
  simp only [Mux.step, Mux.acceptBi, Mux.takeAccepted] at step
  cases queue : mux.acceptQueue with
  | nil =>
    rw [queue] at step
    cases step
  | cons chan =>
    rw [queue] at step
    cases step
    refine handAccepted_taped taped queue ?_ fun queried differs => ?_
    · simp only [Inbound.account, queue, head?_cons, if_pos]
    · have other : ¬ chan = queried := Ne.symm differs
      simp only [Inbound.account, queue, head?_cons, Option.some.injEq, if_neg other]

theorem acceptDataStream_taped (taped : Taped (recvSide mux) tape)
    (step : mux.step .acceptDataStream = some next) : Taped (recvSide next) tape := by
  simp only [Mux.step, Mux.acceptDataStream, Mux.takeAccepted] at step
  cases queue : mux.acceptQueue with
  | nil =>
    rw [queue] at step
    cases step
  | cons chan =>
    rw [queue] at step
    cases step
    refine handAccepted_taped taped queue ?_ fun _ _ => rfl
    have listed : chan ∈ (recvSide mux).acceptQueue := by
      simp [recvSide, queue]
    obtain ⟨found, payload, there, waits⟩ := taped.queued chan listed
    rw [← ((taped.channels chan found there).waiting payload waits).1]

theorem step_taped (taped : Taped (recvSide mux) tape) (framed : inFrame mux.reader)
    (fine : distinct mux event = true) (step : mux.step event = some next) :
    Taped (recvSide next) (Inbound.account ⟨mux, tape⟩ event) := by
  cases event with
  | openDataStream header =>
    cases step
    simp only [distinct, Bool.or_eq_true, Bool.not_eq_true'] at fine
    exact openDataStream_taped taped header fine
  | openBi =>
    cases step
    simp only [distinct, Bool.or_eq_true, Bool.and_eq_true, Bool.not_eq_true', or_assoc] at fine
    exact openBi_taped taped fine
  | acceptBi => exact acceptBi_taped taped step
  | acceptDataStream => exact acceptDataStream_taped taped step
  | write =>
    obtain ⟨⟨answer, after⟩, polled, rfl⟩ := Option.map_eq_some_iff.mp step
    rw [recvSide_sending (Mux.Sending.pollWrite polled)]
    exact taped
  | finish =>
    obtain ⟨⟨answer, after⟩, polled, rfl⟩ := Option.map_eq_some_iff.mp step
    rw [recvSide_sending (Mux.Sending.finish polled)]
    exact taped
  | read =>
    obtain ⟨⟨answer, after⟩, polled, rfl⟩ := Option.map_eq_some_iff.mp step
    exact read_taped taped polled
  | dropRecv => exact dropRecv_taped taped step
  | close =>
    cases step
    rw [recvSide_close]
    exact taped
  | closedCheck =>
    cases step
    exact taped
  | closedRegister | writerTake | writerFail =>
    simp only [Mux.step] at step
    split at step <;> cases step <;> exact taped
  | writerByte =>
    simp only [Mux.step] at step
    split at step
    · split at step <;> cases step
      exact taped
    · cases step
  | readerByte => exact readerByte_taped taped framed step fine
  | readerForward => exact readerForward_taped taped step
  | readerEnd | readerStore | readerNotify =>
    simp only [Mux.step] at step
    split at step <;> cases step <;>
      next at_ => exact taped.moveReader (by simp only [recvSide, at_]; rintro _ _ _ ⟨⟩) (by rintro _ _ _ ⟨⟩)

end Steps

/-! ## Any peer -/

def controlEnd : RecvEnd := ⟨controlStreamId, [], .waiting (List.replicate 9 0), []⟩

theorem new_view (isServer : Bool) : (recvSide (Mux.new isServer)).view 0 = some controlEnd ∧
      ∀ chan found, (recvSide (Mux.new isServer)).view chan = some found →
        chan = 0 ∧ found = controlEnd := by
  refine ⟨rfl, fun chan found seen => ?_⟩
  cases chan with
  | zero => exact ⟨rfl, (Option.some.inj seen).symm⟩
  | succ => cases seen

theorem taped_new (isServer : Bool) :
    Taped (recvSide (Mux.new isServer)) (Inbound.new isServer).tape := by
  obtain ⟨there, only⟩ := new_view isServer
  have waits : Waits (recvSide (Mux.new isServer)).view 0 := ⟨_, _, there, rfl⟩
  refine ⟨fun _ _ => rfl, ?_, ?_, ?_, nofun, ?_, ?_, ?_⟩
  · intro chan found seen
    obtain ⟨rfl, rfl⟩ := only chan found seen
    refine ⟨fun _ => ⟨fun _ => rfl, fun _ => rfl⟩, fun _ => rfl, nofun, nofun, fun _ _ => ⟨rfl, rfl⟩⟩
  · intro first second one two seenFirst seenSecond _ _ _
    rw [(only first one seenFirst).1, (only second two seenSecond).1]
  · intro streamId chan routed
    by_cases control : streamId = controlStreamId
    · subst control
      cases routed
      exact ⟨controlEnd, there, rfl⟩
    · simp only [recvSide, Mux.new, update_of_ne control] at routed
      cases routed
  · intro chan mem
    cases isServer with
    | true => exact mem_singleton.mp mem ▸ waits
    | false => cases mem
  · cases isServer <;> simp [recvSide, Mux.new]
  · intro chan isSlot
    cases isServer with
    | true => cases isSlot
    | false =>
      cases isSlot
      exact ⟨nofun, waits⟩

/-- What the streams of this end make of what arrived for them. -/
structure Robust (inbound : Inbound) : Prop where
  /-- delivered so far, then what it holds, then what the reader is about to hand over -/
  reads : ∀ channel endpoint recv, inbound.mux.endpoints[channel]? = some endpoint →
    endpoint.recv = .held recv →
    endpoint.delivered ++ (recv.leftover ++ endpoint.queue.flatten) ++
        inFlight inbound.mux.reader channel =
      (inbound.tape channel).opening ++ (inbound.tape channel).arrived
  /-- a read with room finds the end only behind a FIN, and all that came before it -/
  ends : ∀ channel space endpoint next, 0 < space →
    inbound.mux.endpoints[channel]? = some endpoint →
    inbound.mux.pollRead channel space = some (.ready [], next) →
    (inbound.tape channel).ended = true ∧
      endpoint.delivered = (inbound.tape channel).opening ++ (inbound.tape channel).arrived
  /-- until then the id leads to its channel -/
  attached : ∀ channel endpoint, inbound.mux.endpoints[channel]? = some endpoint →
    endpoint.recv ≠ .dropped → (inbound.tape channel).ended = false →
    inbound.mux.streams endpoint.streamId = some channel

theorem Taped.ended_idle {side : RecvSide} {tape : ChannelId → Tape} (taped : Taped side tape)
    {found : RecvEnd} (seen : side.view chan = some found) (kept : found.recv ≠ .dropped)
    (ended : (tape chan).ended = true) : inFlight side.reader chan = [] := by
  cases shape : side.reader with
  | forwarding header target chunk =>
    rw [inFlight, if_neg]
    rintro rfl
    obtain ⟨-, other, also, unended⟩ := taped.forwarding header target chunk shape
    cases seen.symm.trans also
    rw [unended kept] at ended
    cases ended
  | header | payload | stopping | stored | exited => rfl

theorem Taped.robust {inbound : Inbound}
    (taped : Taped (recvSide inbound.mux) inbound.tape) : Robust inbound where
  reads chan endpoint recv found held := by
    have bytes := (taped.channels chan _ (recvSide_view found)).bytes (by simp [recvEnd, held])
    simp only [recvEnd, takenIn, held] at bytes
    exact bytes
  attached chan endpoint found kept unended :=
    ((taped.channels chan _ (recvSide_view found)).routed kept).mpr unended
  ends chan space endpoint next room found polled := by
    obtain ⟨other, recv, also, held, outcome⟩ := Mux.pollRead_cases polled
    cases found.symm.trans also
    have seen := recvSide_view found
    have ok := taped.channels chan _ seen
    have kept : (recvEnd endpoint).recv ≠ .dropped := by simp [recvEnd, held]
    have taken : ∀ bytes : List UInt8, bytes ≠ [] → bytes.take space ≠ [] := by
      intro bytes some_ nothing
      rcases take_eq_nil_iff.mp nothing with zero | none_
      · exact Nat.ne_of_gt room zero
      · exact some_ none_
    -- with room, a chunk or a rest of one is never read as nothing
    have found_end : recv.leftover = [] ∧ endpoint.queue = [] ∧
        (inbound.tape chan).ended = true := by
      generalize answered : Poll.ready [] = answer at outcome
      cases outcome with
      | leftover some_left =>
        exact absurd (Poll.ready.inj answered).symm (taken recv.leftover some_left)
      | ended none_left eof => exact ⟨none_left, (ok.finished recv held eof).symm⟩
      | chunk _ _ chunk _ queue =>
        refine absurd (Poll.ready.inj answered).symm (taken chunk (ok.chunks chunk ?_))
        rw [recvEnd, queue]
        exact mem_cons_self
      | waits => cases answered
      | ends none_left _ queue gone =>
        exact ⟨none_left, queue, ended_of_gone ok kept gone⟩
    obtain ⟨none_left, empty, ended⟩ := found_end
    have bytes := ok.bytes kept
    rw [taped.ended_idle seen kept ended] at bytes
    simp only [recvEnd, takenIn, held, none_left, empty, flatten_nil, append_nil] at bytes
    exact ⟨ended, bytes⟩

theorem Inbound.step_keeps {inbound next : Inbound}
    (kept : Taped (recvSide inbound.mux) inbound.tape ∧ inFrame inbound.mux.reader)
    (fine : distinct inbound.mux event = true) (step : inbound.step event = some next) :
    Taped (recvSide next.mux) next.tape ∧ inFrame next.mux.reader := by
  obtain ⟨after, moved, rfl⟩ := Option.map_eq_some_iff.mp step
  exact ⟨step_taped kept.1 kept.2 fine moved, step_inFrame kept.2 moved⟩

/-- In every run in which no OPEN and no open of our own takes an id in use and no empty DATA
frame is routed, every stream reads what came for it and ends at its FIN. -/
theorem mux_reader_robust (isServer : Bool) (events : List Mux.Event) (inbound : Inbound)
    (fine : Meets Inbound.step (fun inbound event => distinct inbound.mux event = true)
      (.new isServer) events)
    (reached : run Inbound.step (.new isServer) events = some inbound) : Robust inbound := by
  have outside : inFrame (Inbound.new isServer).mux.reader := by
    rintro _ _ ⟨⟩
  refine (run_meets
    (fun inbound => Taped (recvSide inbound.mux) inbound.tape ∧ inFrame inbound.mux.reader) ?_
    ⟨taped_new isServer, outside⟩ fine reached).1.robust
  exact fun before event after kept fine stepped => Inbound.step_keeps kept fine stepped

/-- The reader takes a frame in. -/
def arrives (frame : MuxFrame) : List Mux.Event := frame.bytes.map .readerByte

/-- A stream of the client: its OPEN, a byte of DATA and its FIN, read after all of them. -/
def oneByteStream : List Mux.Event :=
  arrives (Mux.openFrame 2 (List.replicate 9 7)) ++ [.acceptBi, .acceptDataStream] ++
    arrives (Mux.dataFrame 2 [71]) ++ [.readerForward] ++ arrives (Mux.finFrame 2) ++
    [.read 1 16, .read 1 16]

theorem mux_reader_robust_one_byte :
    ∃ inbound, run Inbound.step (.new true) oneByteStream = some inbound ∧
      inbound.tape 1 = ⟨[], [71], true⟩ ∧ Robust inbound := by
  have fine : Meets Inbound.step (fun inbound event => distinct inbound.mux event = true)
      (.new true) oneByteStream := by
    decide +kernel
  obtain ⟨inbound, reached, account⟩ : ∃ inbound,
      run Inbound.step (.new true) oneByteStream = some inbound ∧
        inbound.tape 1 = ⟨[], [71], true⟩ := by
    have evaluated : (run Inbound.step (.new true) oneByteStream).map (·.tape 1) =
        some ⟨[], [71], true⟩ := by
      decide +kernel
    exact Option.map_eq_some_iff.mp evaluated
  exact ⟨inbound, reached, account, mux_reader_robust true oneByteStream inbound fine reached⟩

/-- An empty DATA frame on Control, which the server then reads. -/
def emptyData : List Mux.Event :=
  [.acceptBi] ++ arrives (Mux.dataFrame controlStreamId []) ++ [.readerForward]

/-- A second OPEN for a stream that is open, and DATA for it. -/
def openedTwice : List Mux.Event :=
  arrives (Mux.openFrame 2 (List.replicate 9 7)) ++ [.acceptBi, .acceptDataStream] ++
    arrives (Mux.openFrame 2 (List.replicate 9 7)) ++ arrives (Mux.dataFrame 2 [71]) ++
    [.readerForward]

/-- The empty chunk is read as the end although no FIN came; the second OPEN takes the id
from its stream, which then finds an end and not the byte that came for it. -/
theorem empty_data_read_as_end : (∃ inbound, run Inbound.step (.new true) emptyData = some inbound ∧
      (inbound.tape 0).ended = false ∧
      (inbound.mux.pollRead 0 16).map (·.1) = some (.ready [])) ∧
    ∃ inbound, run Inbound.step (.new true) openedTwice = some inbound ∧
      inbound.tape 1 = ⟨[], [71], false⟩ ∧ inbound.mux.streams 2 = some 2 ∧
      (inbound.mux.pollRead 1 16).map (·.1) = some (.ready []) := by
  have first : (run Inbound.step (.new true) emptyData).map
      (fun inbound => ((inbound.tape 0).ended, (inbound.mux.pollRead 0 16).map (·.1))) =
        some (false, some (.ready [])) := by
    decide +kernel
  have second : (run Inbound.step (.new true) openedTwice).map
      (fun inbound => (inbound.tape 1, inbound.mux.streams 2,
        (inbound.mux.pollRead 1 16).map (·.1))) =
        some (⟨[], [71], false⟩, some 2, some (.ready [])) := by
    decide +kernel
  obtain ⟨one, reachedOne, factsOne⟩ := Option.map_eq_some_iff.mp first
  obtain ⟨two, reachedTwo, factsTwo⟩ := Option.map_eq_some_iff.mp second
  simp only [Prod.mk.injEq] at factsOne factsTwo
  exact ⟨⟨one, reachedOne, factsOne⟩, two, reachedTwo, factsTwo⟩

end KrotRelay.Guarantees
