import KrotRelay.Lib.Run
import KrotRelay.Source.Framing
import KrotRelay.Source.Session

/-!
# The Control stream of one session (krot-server/src/session.rs: `Session::run`)

The `select!` loop at the level of bytes. The client's bytes arrive in pieces of any
size; data-path tasks post frames on `ctrl_rx`; every evaluation of the `select!` is
one `poll`. It is `biased`: the two watches first, then the pending `read_frame`, then
`ctrl_rx`. Whichever branch completes, the futures of the others are dropped, and the
next iteration starts a new `read_frame`.

Three fields only observe: `consumed` (what the present `read_frame` has taken off the
stream), `forwarded` and `dispatched`.
-/
namespace KrotRelay.Source

structure ControlLoop where
  /-- written by the client and not arrived yet -/
  incoming : List UInt8
  /-- nothing more will arrive -/
  ended : Bool
  arrived : List UInt8
  reader : FrameReader
  consumed : List UInt8
  ctrl : List ServerFrame
  shutdown : Bool
  revoked : Bool
  forwarded : List ServerFrame
  dispatched : List ClientFrame
  outcome : Option (Except ServerError SessionOutcome)

namespace ControlLoop

inductive Event where
  | arrive (count : Nat)
  | endOfStream
  | post (frame : ServerFrame)
  | shutdown
  | revoke
  /-- one evaluation of the `select!`; a dispatch it starts may fail -/
  | poll (problem : Option ServerError)

def start (written : List UInt8) : ControlLoop where
  incoming := written
  ended := false
  arrived := []
  reader := .start
  consumed := []
  ctrl := []
  shutdown := false
  revoked := false
  forwarded := []
  dispatched := []
  outcome := none

/-- How `Session::dispatch` ends if none of its calls fails. -/
def dispatchOutcome : ClientFrame → DispatchOutcome
  | .ping _ | .registerTunnel _ _ _ _ | .unregisterTunnel _ | .listPeers => .continue
  | .bye => .stop .bye
  | _ => .stop .terminal

/-- The loop after `dispatch` returned. -/
def afterDispatch (loop : ControlLoop) (frame : ClientFrame) : Option ServerError → ControlLoop
  | some problem => { loop with outcome := some (.error problem) }
  | none =>
    match dispatchOutcome frame with
    | .continue => loop
    | .stop reason => { loop with outcome := some (.ok reason) }

/-- The `read_frame` branch completed: the future is gone, with or without a frame. -/
def received (postcard : Postcard) (loop : ControlLoop) (payload rest : List UInt8)
    (problem : Option ServerError) : ControlLoop :=
  let loop := { loop with arrived := rest, reader := .start, consumed := [] }
  match postcard.fromBytes payload with
  | none => { loop with outcome := some (.ok .dropped) }
  | some frame =>
    afterDispatch { loop with dispatched := loop.dispatched ++ [frame] } frame problem

/-- `read_frame` has taken all there was and waits: the last branch gets its turn. -/
def waiting (loop : ControlLoop) (reader : FrameReader) : ControlLoop :=
  let loop := { loop with
    arrived := [], reader := reader, consumed := loop.consumed ++ loop.arrived }
  if loop.ended then { loop with outcome := some (.ok .dropped) }
  else
    match loop.ctrl with
    | [] => loop
    | outbound :: rest =>
      { loop with
        ctrl := rest
        forwarded := loop.forwarded ++ [outbound]
        -- the pending `read_frame` is dropped with everything it has read
        reader := .start
        consumed := [] }

def poll (postcard : Postcard) (loop : ControlLoop) (problem : Option ServerError) : ControlLoop :=
  if loop.shutdown || loop.revoked then { loop with outcome := some (.ok .terminal) }
  else
    match loop.reader.poll loop.arrived with
    | .frame payload rest => loop.received postcard payload rest problem
    | .failed _ => { loop with outcome := some (.ok .dropped) }
    | .pending reader => loop.waiting reader

def step (postcard : Postcard) (loop : ControlLoop) : Event → Option ControlLoop
  | .arrive count =>
    if loop.ended then none
    else some { loop with
      incoming := loop.incoming.drop count
      arrived := loop.arrived ++ loop.incoming.take count }
  | .endOfStream => some { loop with ended := true }
  | .post frame => some { loop with ctrl := loop.ctrl ++ [frame] }
  | .shutdown => some { loop with shutdown := true }
  | .revoke => some { loop with revoked := true }
  | .poll problem =>
    match loop.outcome with
    | some _ => none
    | none => some (loop.poll postcard problem)

end ControlLoop

section Dispatch
open Lib

/-- No restriction on the calls of a program, only on what it returns. -/
private def anyCalls : Discipline relayInterface Unit where
  allowed := fun _ _ => True
  possible := fun _ _ => True
  next := fun _ _ _ => ()

private theorem follows_anyCalls {α : Type} (accept : α → Unit → Prop)
    (all : ∀ result, accept result ()) (program : Prog relayInterface α) :
    Follows anyCalls accept () program := by
  induction program with
  | ret result => exact all result
  | call request rest ih => exact ⟨trivial, fun reply _ => ih reply⟩

/-- `dispatchOutcome` is what `Session::dispatch` returns, unless a call fails. -/
theorem dispatch_returns (session : Session) (frame : ClientFrame) :
    Follows anyCalls (fun result _ => ∀ outcome, result = .ok outcome →
      outcome = ControlLoop.dispatchOutcome frame) () (session.dispatch frame).run := by
  have last : ∀ {α : Type} (prog : Relay α) (outcome : DispatchOutcome),
      outcome = ControlLoop.dispatchOutcome frame →
      Follows anyCalls (fun result _ => ∀ outcome, result = .ok outcome →
        outcome = ControlLoop.dispatchOutcome frame) ()
        (prog >>= fun _ => pure outcome : Relay DispatchOutcome).run := by
    intro α prog outcome same
    refine (follows_except _ _ _ _).mpr (follows_anyCalls _ ?_ _)
    rintro (problem | value)
    · intro returned impossible
      cases impossible
    · intro returned done
      cases done
      exact same
  cases frame with
  | listPeers =>
    refine follows_ask trivial fun relays _ => ?_
    exact last _ _ rfl
  | bye =>
    intro outcome done
    cases done
    rfl
  | _ => exact last _ _ rfl

end Dispatch

end KrotRelay.Source
