import KrotRelay.Lib.Run
import KrotRelay.Source.MuxEffects

/-!
# What is left of a mux when its reader has exited

The reader stores the flag and notifies the waiters; it neither clears `streams` nor drops
the sending end of the accept queue. So a receiver ends only if its own sender was removed
before, an accept on an empty queue never ends, and a caller of `closed()` that had read
the flag but not yet registered at the notification is never released.
-/
namespace KrotRelay.Guarantees
open Source Lib

variable {event : Mux.Event} {channel : ChannelId}

variable {mux next : Mux}

/-- The receiver is held and has handed out everything that was queued for it. -/
def Drained (mux : Mux) (channel : ChannelId) (endpoint : Endpoint) : Prop :=
  mux.endpoints[channel]? = some endpoint ∧ endpoint.queue = [] ∧
    ∃ recv, endpoint.recv = .held recv ∧ recv.leftover = []

def AllReleased (mux : Mux) : Prop := ∀ caller ∈ mux.closers, caller = .returned

/-- Nothing on the mux can block: every operation ends at once, with the end of the
stream, an error, or, for `closed()`, the return. -/
structure NothingBlocks (mux : Mux) : Prop where
  readsEnd : ∀ channel endpoint space, Drained mux channel endpoint →
    (mux.pollRead channel space).map (·.1) = some (.ready [])
  acceptFails : mux.acceptQueue = [] → ∃ problem, mux.acceptBi = .ready (.error problem)
  acceptDataFails : mux.acceptQueue = [] → ∃ problem, mux.acceptDataStream = .ready (.error problem)
  openFails : mux.openBi = (.error .unexpectedEof, mux)
  openDataFails : ∀ header, mux.openDataStream header = (.error .unexpectedEof, mux)
  writesFail : ∀ channel buf answer after, mux.pollWrite channel buf = some (answer, after) →
    ∃ text, answer = .error text
  callersReleased : AllReleased mux
  laterReleased : mux.closedCheck = .returned

/-! ## A receiver that saw the end is out of the map -/

def EofDetached (mux : Mux) : Prop :=
  ∀ channel endpoint recv, mux.endpoints[channel]? = some endpoint →
    endpoint.recv = .held recv → recv.eof = true →
    mux.streams endpoint.streamId ≠ some channel

namespace EofDetached

section
variable (held : EofDetached mux)
include held

theorem congr (endpoints : next.endpoints = mux.endpoints)
    (streams : next.streams = mux.streams) : EofDetached next := by
  unfold EofDetached
  rw [endpoints, streams]
  exact held

/-- A change of one endpoint may set `eof` only where the sender is out of the map. -/
theorem modify (chan : ChannelId) (change : Endpoint → Endpoint)
    (sameId : ∀ endpoint, (change endpoint).streamId = endpoint.streamId)
    (ended : ∀ endpoint recv, mux.endpoints[chan]? = some endpoint →
      (change endpoint).recv = .held recv → recv.eof = true →
      mux.streams endpoint.streamId ≠ some chan) : EofDetached (mux.modify chan change) := by
  intro asked endpoint recv found half eof
  rw [Mux.endpoint_modify] at found
  by_cases same : asked = chan
  · subst same
    rw [if_pos rfl] at found
    obtain ⟨before, there, rfl⟩ := Option.map_eq_some_iff.mp found
    rw [sameId]
    exact ended before recv there half eof
  · rw [if_neg same] at found
    exact held asked endpoint recv found half eof

/-- A change that leaves the receiving half alone. -/
theorem keeping (chan : ChannelId) (change : Endpoint → Endpoint)
    (sameId : ∀ endpoint, (change endpoint).streamId = endpoint.streamId)
    (sameRecv : ∀ endpoint, (change endpoint).recv = endpoint.recv) :
    EofDetached (mux.modify chan change) :=
  held.modify chan change sameId fun endpoint recv found half eof =>
    held chan endpoint recv found ((sameRecv endpoint).symm.trans half) eof

theorem register (endpoint : Endpoint)
    (fresh : ∀ recv, endpoint.recv = .held recv → recv.eof = false) :
    EofDetached (mux.register endpoint) := by
  intro asked found recv there half eof stored
  rw [Mux.endpoint_register] at there
  by_cases same : asked = mux.endpoints.length
  · rw [if_pos same] at there
    obtain rfl := Option.some.inj there
    rw [fresh recv half] at eof
    cases eof
  · rw [if_neg same] at there
    have old := held asked found recv there half eof
    by_cases id : found.streamId = endpoint.streamId
    · rw [id] at stored
      simp only [Mux.register, Function.update_self, Option.some.injEq] at stored
      exact same stored.symm
    · simp only [Mux.register, Function.update_of_ne id] at stored
      exact old stored

theorem detach (streamId : UInt32) :
    EofDetached { mux with streams := Function.update mux.streams streamId none } := by
  intro chan endpoint recv found half eof stored
  by_cases id : endpoint.streamId = streamId
  · simp [id] at stored
  · simp only [Function.update_of_ne id] at stored
    exact held chan endpoint recv found half eof stored

theorem of_move (moved : Mux.Move mux next) : EofDetached next := by
  cases moved with
  | sends sends =>
    cases sends with
    | emit frame emitted =>
      obtain rfl := Mux.emit_eq_some frame emitted
      exact held.congr rfl rfl
    | setSend channel => exact held.keeping channel _ (fun _ => rfl) fun _ => rfl
  | mint | takeSlot => exact held.congr rfl rfl
  | register endpoint fresh => exact held.register endpoint fresh
  | takeAccepted taken =>
    unfold Mux.takeAccepted at taken
    split at taken
    · cases taken
    · cases taken
      exact held.congr rfl rfl
  | handOut channel =>
    refine held.modify channel _ (fun _ => rfl) fun endpoint recv _ half eof => ?_
    cases half
    cases eof
  | @read _ channel _ _ polled =>
    obtain ⟨endpoint, recv, found, half, outcome⟩ := Mux.pollRead_cases polled
    -- the receiver keeps its flag, unless no sender was left
    have kept : recv.eof = true → mux.streams endpoint.streamId ≠ some channel :=
      held channel endpoint recv found half
    cases outcome with
    | ended | waits => exact held
    | leftover | chunk =>
      refine held.modify channel _ (fun _ => rfl) ?_
      intro before after there changed eof
      obtain rfl := Option.some.inj (found.symm.trans there)
      cases changed
      exact kept eof
    | ends _ _ _ gone =>
      refine held.modify channel _ (fun _ => rfl) ?_
      intro before after there _ _ stored
      obtain rfl := Option.some.inj (found.symm.trans there)
      simp [Mux.senderAlive, stored] at gone
  | @dropRecv _ channel dropped =>
    unfold Mux.dropRecv at dropped
    split at dropped
    · cases dropped
      exact (held.detach _).modify channel _ (fun _ => rfl) fun _ _ _ half => by cases half
    · cases dropped

theorem of_moves (moves : Mux.Moves mux next) : EofDetached next := by
  induction moves with
  | refl => exact held
  | tail _ moved ih => exact ih.of_move moved

theorem of_reads (reads : Mux.Reads mux next) : EofDetached next := by
  cases reads with
  | moves | discards => exact held.congr rfl rfl
  | opens header payload =>
    have registered := held.register ⟨header.streamId, [], .waiting payload, none, []⟩
      fun recv half => by cases half
    exact registered.congr rfl rfl
  | ends streamId => exact (held.detach streamId).congr rfl rfl
  | pushes chan chunk =>
    have pushed := held.keeping chan
      (fun endpoint => { endpoint with queue := endpoint.queue ++ [chunk] })
      (fun _ => rfl) fun _ => rfl
    exact pushed.congr rfl rfl

theorem of_step (step : mux.step event = some next) : EofDetached next := by
  cases Mux.step_outcome step with
  | calls _ moves => exact held.of_moves moves
  | reads _ reads => exact held.of_reads reads
  | closes =>
    obtain ⟨-, -, endpoints, streams, -⟩ := Mux.close_fields mux
    exact held.congr endpoints streams
  | writes | checks | registers | stores | notifies => exact held.congr rfl rfl

end

theorem new (isServer : Bool) : EofDetached (Mux.new isServer) := by
  intro chan endpoint recv found half
  simp only [Mux.new, List.getElem?_singleton] at found
  split at found
  · cases found
    cases half
  · cases found

end EofDetached

/-! ## The flag and the callers of `closed()` -/

/-- The reader stores the flag before it is done. -/
def StoredBeforeExit (mux : Mux) : Prop :=
  mux.reader = .stored ∨ mux.reader = .exited → mux.closed = true

/-- The reader's loop itself never ends it: it only leaves the loop. -/
theorem reads_looping (reads : Mux.Reads mux next) :
    next.reader ≠ .stored ∧ next.reader ≠ .exited := by
  cases reads with
  | moves _ looping => exact looping
  | opens | discards | ends | pushes => exact ⟨nofun, nofun⟩

theorem StoredBeforeExit.of_step (held : StoredBeforeExit mux)
    (step : mux.step event = some next) : StoredBeforeExit next := by
  cases Mux.step_outcome step with
  | calls _ moves =>
    have called := Mux.Called.of_moves moves
    unfold StoredBeforeExit
    rw [called.reader, called.closed]
    exact held
  | reads _ reads => exact fun ended => absurd ended (not_or.mpr (reads_looping reads))
  | closes => exact fun _ => (Mux.close_fields mux).2.1
  | stores => exact fun _ => rfl
  | notifies stored => exact fun _ => held (.inl stored)
  | writes | checks | registers => exact held

theorem run_storedBeforeExit
    (ran : run Mux.step (Mux.new isServer) events = some mux) : StoredBeforeExit mux :=
  run_invariant StoredBeforeExit (fun _ _ _ held step => held.of_step step)
    (by simp [StoredBeforeExit, Mux.new]) ran

/-- Only the notification of the waiters ends the reader. -/
theorem exits_by_notify (step : mux.step event = some next) (running : mux.reader ≠ .exited)
    (exited : next.reader = .exited) : event = .readerNotify ∧ mux.reader = .stored ∧
      next = { mux with reader := .exited }.notifyWaiters := by
  cases Mux.step_outcome step with
  | notifies stored => exact ⟨rfl, stored, rfl⟩
  | calls _ moves => exact absurd ((Mux.Called.of_moves moves).reader ▸ exited) running
  | reads _ reads => exact absurd exited (reads_looping reads).2
  | closes => exact absurd ((Mux.close_fields mux).1 ▸ exited) running
  | stores => cases exited
  | writes | checks | registers => exact absurd exited running

/-- The notification reaches those who wait and nobody who is about to. -/
theorem allReleased_notifyWaiters (mux : Mux) :
    AllReleased mux.notifyWaiters ↔ Closer.checked ∉ mux.closers := by
  simp only [AllReleased, Mux.notifyWaiters, List.forall_mem_map]
  constructor
  · intro all mem
    cases all _ mem
  · intro none_between caller mem
    cases caller with
    | checked => exact absurd mem none_between
    | waiting | returned => rfl

/-- Once the reader has exited nothing releases a caller any more: `close` finds the flag
set and does not notify. -/
theorem exited_step (exited : mux.reader = .exited) (closed : mux.closed = true)
    (step : mux.step event = some next) :
    next.reader = .exited ∧ next.closed = true ∧ (AllReleased next ↔ AllReleased mux) := by
  cases Mux.step_outcome step with
  | calls _ moves =>
    have called := Mux.Called.of_moves moves
    unfold AllReleased
    rw [called.reader, called.closed, called.closers]
    exact ⟨exited, closed, Iff.rfl⟩
  | reads running => exact absurd exited running
  | writes => exact ⟨exited, closed, Iff.rfl⟩
  | closes => simp [Mux.close, closed, exited]
  | checks =>
    refine ⟨exited, closed, ?_⟩
    simp [AllReleased, Mux.closedCheck, closed, or_imp]
  | registers caller found =>
    refine ⟨exited, closed, iff_of_false (fun all => ?_) fun all => ?_⟩
    · have there : caller < mux.closers.length := (List.getElem?_eq_some_iff.mp found).1
      cases all .waiting (List.mem_set there .waiting)
    · cases all .checked (List.mem_of_getElem? found)
  | stores stopping => simp [exited] at stopping
  | notifies stored => simp [exited] at stored

theorem exited_run {final : Mux} (exited : mux.reader = .exited) (closed : mux.closed = true)
    (ran : run Mux.step mux events = some final) :
    AllReleased final ↔ AllReleased mux := by
  have kept := run_invariant (fun later => later.reader = .exited ∧ later.closed = true ∧
      (AllReleased later ↔ AllReleased mux))
    (fun state event after held step => by
      obtain ⟨still, set, same⟩ := exited_step held.1 held.2.1 step
      exact ⟨still, set, same.trans held.2.2⟩)
    ⟨exited, closed, Iff.rfl⟩ ran
  exact kept.2.2

/-! ## When nothing blocks -/

/-- A drained receiver of a mux without a reader ends exactly if its sender is gone. -/
theorem drained_ends_iff (exited : mux.reader = .exited) (held : EofDetached mux)
    {endpoint : Endpoint} (drained : Drained mux channel endpoint) (space : Nat) :
    (mux.pollRead channel space).map (·.1) = some (.ready []) ↔
      mux.streams endpoint.streamId ≠ some channel := by
  obtain ⟨found, queue, recv, half, leftover⟩ := drained
  obtain ⟨streamId, _, _, send, delivered⟩ := endpoint
  dsimp only at queue half ⊢
  subst queue half
  have detached := held channel _ recv found rfl
  cases eof : recv.eof with
  | true => simpa [Mux.pollRead, found, leftover, eof] using detached eof
  | false =>
    by_cases stored : mux.streams streamId = some channel <;>
      simp [Mux.pollRead, found, leftover, eof, Mux.senderAlive, stored, exited]

theorem accept_empty (empty : mux.acceptQueue = []) :
    mux.acceptBi = .pending ∧ mux.acceptDataStream = .pending := by
  have taken : mux.takeAccepted = .pending := by simp only [Mux.takeAccepted, empty]
  simp only [Mux.acceptBi, Mux.acceptDataStream, taken, and_self]

theorem closed_pollWrite (closed : mux.closed = true) {buf : List UInt8}
    {answer : Except String Nat} (polled : mux.pollWrite chan buf = some (answer, next)) :
    answer = .error "mux stream closed" := by
  unfold Mux.pollWrite at polled
  split at polled
  · rw [closed, Bool.or_true, if_pos rfl] at polled
    cases polled
    rfl
  · cases polled

/-- In every state in which the reader has exited: nothing blocks exactly if every drained
receiver had lost its sender, the accept queue is not empty, and at the reader's
notification no caller of `closed()` stood between its check and its registration. -/
theorem nothing_blocks_iff (isServer : Bool) (events : List Mux.Event) (mux : Mux)
    (finished : run Mux.step (Mux.new isServer) events = some mux) (exited : mux.reader = .exited) :
    ∃ earlier later before, events = earlier ++ .readerNotify :: later ∧
      run Mux.step (Mux.new isServer) earlier = some before ∧ before.reader = .stored ∧
      (NothingBlocks mux ↔ (∀ channel endpoint, Drained mux channel endpoint →
          mux.streams endpoint.streamId ≠ some channel) ∧
        mux.acceptQueue ≠ [] ∧ Closer.checked ∉ before.closers) := by
  have held : EofDetached mux :=
    run_invariant EofDetached (fun _ _ _ held stepped => held.of_step stepped)
      (EofDetached.new isServer) finished
  have closed : mux.closed = true :=
    run_storedBeforeExit finished (.inr exited)
  obtain ⟨earlier, event, later, before, after, rfl, reached, running, stepped, ended, rest⟩ :=
    run_turns Mux.step (·.reader = .exited) _ mux events finished nofun exited
  obtain ⟨rfl, stored, rfl⟩ := exits_by_notify stepped running ended
  refine ⟨earlier, later, before, rfl, reached, stored, ?_⟩
  have set : before.closed = true :=
    run_storedBeforeExit reached (.inl stored)
  have released : AllReleased mux ↔ Closer.checked ∉ before.closers :=
    (exited_run ended set rest).trans (allReleased_notifyWaiters _)
  constructor
  · intro free
    refine ⟨fun channel endpoint drained => ?_, fun empty => ?_, released.mp free.callersReleased⟩
    · exact (drained_ends_iff exited held drained 0).mp (free.readsEnd channel endpoint 0 drained)
    · obtain ⟨problem, failed⟩ := free.acceptFails empty
      rw [(accept_empty empty).1] at failed
      cases failed
  · rintro ⟨detached, queued, none_between⟩
    exact {
      readsEnd := fun channel endpoint space drained =>
        (drained_ends_iff exited held drained space).mpr (detached channel endpoint drained)
      acceptFails := fun empty => absurd empty queued
      acceptDataFails := fun empty => absurd empty queued
      openFails := by rw [Mux.openBi, if_pos closed]
      openDataFails := fun header => by rw [Mux.openDataStream, if_pos closed]
      writesFail := fun channel buf answer after polled => ⟨_, closed_pollWrite closed polled⟩
      callersReleased := released.mpr none_between
      laterReleased := by rw [Mux.closedCheck, if_pos closed] }

/-- A caller waits in `closed()`, Control was accepted, stream 1 is still queued, and the peer
ends Control with a FIN before its pipe ends. -/
def untilWake : List Mux.Event :=
  [.closedCheck, .closedRegister 0, .acceptBi] ++
    ([1, 1, 0, 0, 0, 9, 0, 0, 0, 0, 0, 0, 0, 0, 0, 0, 0, 0,
      3, 0, 0, 0, 0, 0, 0, 0, 0] : List UInt8).map .readerByte ++
    [.readerEnd, .readerStore]

abbrev awoken : Mux := final Mux.step (Mux.new true) (untilWake ++ [.readerNotify])

theorem nothing_blocks_iff_finished : (∃ endpoint, Drained awoken 0 endpoint) ∧
    (awoken.pollRead 0 1).map (·.1) = some (.ready []) ∧ awoken.closers = [.returned] ∧
    NothingBlocks awoken := by
  have drained : ∃ endpoint, Drained awoken 0 endpoint := ⟨_, rfl, rfl, _, rfl, rfl⟩
  obtain ⟨earlier, later, before, split, reached, -, free⟩ := nothing_blocks_iff true
    (untilWake ++ [.readerNotify]) _ (run_final rfl) rfl
  obtain ⟨rfl, -⟩ := (List.append_cons_inj_of_notMem (by simp [untilWake]) (by simp)).mp split
  have waiting : [.waiting] = before.closers :=
    Option.some.inj (congrArg (Option.map Mux.closers) reached)
  have blocks : NothingBlocks awoken := by
    refine free.mpr ⟨?_, List.cons_ne_nil 1 [], by simp [← waiting]⟩
    rintro (_ | _ | _) endpoint ⟨found, -, recv, half, -⟩ <;> cases found
    · rintro ⟨⟩
    · cases half
  exact ⟨drained, drained.elim fun endpoint => blocks.readsEnd 0 endpoint 1, rfl, blocks⟩

/-- The pipe of a server's mux ends after Control was accepted and while a caller of
`closed()` has read the flag: the read of Control, an accept and that caller all wait. -/
theorem control_read_outlives_pipe : ∃ mux, run Mux.step (Mux.new true)
        [.closedCheck, .acceptBi, .readerEnd, .readerStore, .readerNotify, .closedRegister 0] =
        some mux ∧
      mux.reader = .exited ∧ (mux.pollRead 0 1).map (·.1) = some .pending ∧
      mux.acceptBi = .pending ∧ mux.closers = [.waiting] ∧ ¬ NothingBlocks mux := by
  refine ⟨_, rfl, rfl, rfl, rfl, rfl, fun free => ?_⟩
  cases free.callersReleased .waiting List.mem_cons_self

end KrotRelay.Guarantees
