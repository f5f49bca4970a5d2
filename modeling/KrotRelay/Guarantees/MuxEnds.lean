import KrotRelay.Guarantees.MuxSending

/-!
# The end of a sending half

`finish` and `poll_shutdown` queue a FIN, behind the OPEN if one is still owed. A
`TcpMuxSendStream` that is dropped queues nothing: it has no `Drop`. So the peer is told of
the end of a dropped half only if it was finished before.
-/
namespace KrotRelay.Guarantees
open Source Lib

/-- A mux, and the sending halves whose handle is gone. -/
structure HeldMux where
  outbound : Outbound
  dropped : List ChannelId

inductive HeldEvent where
  | mux (event : Mux.Event)
  /-- nothing runs: there is no `Drop` for a `TcpMuxSendStream` -/
  | dropSend (channel : ChannelId)

/-- The sending half an event needs the handle of. -/
def sendHandle : Mux.Event → Option ChannelId
  | .write channel _ | .finish channel => some channel
  | _ => none

namespace HeldMux

def new (isServer : Bool) : HeldMux := ⟨.new isServer, []⟩

def step (held : HeldMux) : HeldEvent → Option HeldMux
  | .mux event =>
    if (sendHandle event).any held.dropped.contains then none
    else (held.outbound.step event).map fun after => { held with outbound := after }
  | .dropSend channel =>
    match sendHalf held.outbound.mux channel with
    | some (_, some _) =>
      if channel ∈ held.dropped then none
      else some { held with dropped := held.dropped ++ [channel] }
    | _ => none

def Finished (held : HeldMux) (channel : ChannelId) : Prop :=
  ∃ streamId send, sendHalf held.outbound.mux channel = some (streamId, some send) ∧
    send.finished = true

def Ended (held : HeldMux) (channel : ChannelId) : Prop :=
  held.Finished channel ∨ channel ∈ held.dropped

/-- A FIN of the half is queued, behind an OPEN if the stream was opened here. -/
def FinQueued (held : HeldMux) (channel : ChannelId) : Prop :=
  ∃ streamId half before after, sendHalf held.outbound.mux channel = some (streamId, half) ∧
      held.outbound.framesOf channel = before ++ Mux.finFrame streamId :: after ∧
      (channel ∈ held.outbound.opened → ∃ payload, Mux.openFrame streamId payload ∈ before)

/-- Neither end has closed the connection and the writer task is there. -/
structure IsOpen (held : HeldMux) : Prop where
  notClosed : held.outbound.mux.closed = false
  writes : held.outbound.mux.writer ≠ .done

end HeldMux

theorem logged_run {isServer : Bool} {events : List HeldEvent} {held : HeldMux}
    (ran : run HeldMux.step (.new isServer) events = some held) : Logged held.outbound := by
  refine run_invariant (fun held => Logged held.outbound) ?_ (logged_new isServer) ran
  intro before event after logged step
  cases event with
  | mux event =>
    simp only [HeldMux.step] at step
    split at step
    · cases step
    · obtain ⟨outbound, moved, rfl⟩ := Option.map_eq_some_iff.mp step
      exact logged.step moved
  | dropSend chan =>
    simp only [HeldMux.step] at step
    split at step
    · split at step <;> cases step
      exact logged
    · cases step

theorem finQueued_iff {isServer : Bool} {events : List HeldEvent} {held : HeldMux}
    (ran : run HeldMux.step (.new isServer) events = some held) (isOpen : held.IsOpen)
    (channel : ChannelId) : held.FinQueued channel ↔ held.Finished channel := by
  have logged := logged_run ran
  constructor
  · rintro ⟨streamId, half, before, after, found, frames, -⟩
    cases half with
    | none =>
      rw [logged.silent channel streamId found] at frames
      simp at frames
    | some send =>
      refine ⟨streamId, send, found, Bool.of_not_eq_false fun running => ?_⟩
      refine (logged.half channel streamId send found).running running (Mux.finFrame streamId) ?_ rfl
      rw [frames]
      exact List.mem_append_right _ List.mem_cons_self
  · rintro ⟨streamId, send, found, finished⟩
    have log := logged.half channel streamId send found
    obtain ⟨before, frames⟩ := log.ended finished isOpen.writes
    refine ⟨streamId, some send, before, [], found, frames, fun mine => ?_⟩
    cases owed : send.pendingOpen with
    | some pending =>
      have none_ := (log.owed pending owed).2.2
      simp [frames] at none_
    | none =>
      rcases log.opening mine owed with ⟨payload, rest, begins⟩ | ⟨none_, -⟩
      · -- the FIN is not the OPEN
        rw [frames] at begins
        cases before with
        | nil => cases begins
        | cons first =>
          cases begins
          exact ⟨payload, List.mem_cons_self⟩
      · simp [frames] at none_

/-- After any schedule that leaves the connection open, the peer is told of the end of every
half that was finished or dropped exactly if every dropped half had been finished. -/
theorem ended_halves_told_iff (isServer : Bool) (events : List HeldEvent) (held : HeldMux)
    (ran : run HeldMux.step (.new isServer) events = some held) (isOpen : held.IsOpen) :
    (∀ channel, held.Ended channel → held.FinQueued channel) ↔
      ∀ channel ∈ held.dropped, held.Finished channel := by
  have told := finQueued_iff ran isOpen
  constructor
  · intro all channel dropped
    exact (told channel).mp (all channel (.inr dropped))
  · rintro finished channel (ended | dropped)
    · exact (told channel).mpr ended
    · exact (told channel).mpr (finished channel dropped)

/-- The server opens a stream, writes a byte, and drops the half, finished or not. -/
def lifeOfHalf (finish : Bool) : List HeldEvent :=
  [.mux (.openDataStream (Vector.replicate 9 0)), .mux (.write 1 [42])] ++
    (if finish then [.mux (.finish 1)] else []) ++ [.dropSend 1]

theorem finished_half_told :
    ∃ held, run HeldMux.step (.new true) (lifeOfHalf true) = some held ∧ held.IsOpen ∧
      held.Ended 1 ∧ ∀ channel, held.Ended channel → held.FinQueued channel := by
  refine ⟨_, rfl, ⟨rfl, by decide⟩, .inr (by decide), ?_⟩
  refine (ended_halves_told_iff true (lifeOfHalf true) _ rfl ⟨rfl, by decide⟩).mpr ?_
  intro channel dropped
  cases List.mem_singleton.mp dropped
  exact ⟨_, _, rfl, rfl⟩

/-- Without `finish`, as when `run_metered` runs into its deadline, no FIN is queued. -/
theorem dropped_half_untold :
    ∃ held, run HeldMux.step (.new true) (lifeOfHalf false) = some held ∧ held.IsOpen ∧
      held.Ended 1 ∧ ¬ held.FinQueued 1 := by
  refine ⟨_, rfl, ⟨rfl, by decide⟩, .inr (by decide), ?_⟩
  rintro ⟨streamId, half, before, after, -, frames, -⟩
  have fin : Mux.finFrame streamId ∈ before ++ Mux.finFrame streamId :: after :=
    List.mem_append_right _ List.mem_cons_self
  rw [← frames] at fin
  rcases fin with - | ⟨-, - | ⟨-, ⟨⟩⟩⟩

end KrotRelay.Guarantees
