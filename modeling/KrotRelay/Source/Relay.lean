import KrotRelay.Lib.Program
import KrotRelay.Source.Keys

/-!
What the task of one connection asks of the rest of the relay: one call per lock
acquisition on shared state, per awaited operation on its Control stream, and per
use of the operating system. Between two calls the task touches only its own data,
so every interleaving of tasks is an interleaving of calls. Logging and metrics are
left out, and so are `send.finish()` and `send.stopped()`, whose results the source
discards.
-/
namespace KrotRelay.Source

inductive PeerLookupOutcome where
  | notFound
  | found (owner : PubKey)
  | unavailable
  deriving DecidableEq

inductive Call where
  -- registry.rs
  | tryResume (label : String) (sessionId : SessionId) (pubkey : PubKey) (connection : Connection)
  | countOwnedBy (owner : PubKey)
  | allocateHttp (label : String)
  | allocateTcp (allowlist : Option (List UInt16))
  | insert (info : TunnelInfo)
  | remove (id : TunnelId)
  | setTcpAbort (id : TunnelId) (newAbort : AbortHandle)
  -- keys.rs, admin.rs
  | keysGet (pubkey : PubKey)
  | consume (token : String)
  | appendLine (line : String)
  -- peers.rs, peer_lookup.rs
  | peersSnapshot
  | findOwner (peerApex label : String)
  -- Control stream
  | readKind
  | readFrame
  | writeFrame (frame : ServerFrame)
  -- operating system and runtime
  | bind (port : UInt16)
  | localAddr (listener : TcpListener)
  | spawnTcpTunnel (listener : TcpListener) (connection : Connection) (tunnelId : TunnelId)
      (rate : RateHandle) (inspect : Bool)
  | freshNonce
  | freshSessionId
  | nowUtc

@[reducible] def Call.Reply : Call → Type
  | .tryResume _ _ _ _ => ResumeOutcome
  | .countOwnedBy _ => Nat
  | .allocateHttp _ => Except ServerError TunnelId
  | .allocateTcp _ => Except ServerError (TunnelId × UInt16)
  | .insert _ => Unit
  | .remove _ => Unit
  | .setTcpAbort _ _ => Unit
  | .keysGet _ => Option AuthorizedEntry
  | .consume _ => Except String Unit
  | .appendLine _ => Except String String
  | .peersSnapshot => List String
  | .findOwner _ _ => PeerLookupOutcome
  | .readKind => Except String UInt8
  | .readFrame => Except String ClientFrame
  | .writeFrame _ => Except String Unit
  | .bind _ => Except String TcpListener
  | .localAddr _ => Except String UInt16
  | .spawnTcpTunnel _ _ _ _ _ => AbortHandle
  | .freshNonce => Nonce
  | .freshSessionId => SessionId
  | .nowUtc => String

def relayInterface : Lib.Interface where
  Call := Call
  Reply := Call.Reply

/-- Code of a connection task: `?` is the exception. -/
abbrev Relay (α : Type) := ExceptT ServerError (Lib.Prog relayInterface) α

def ask (call : Call) : Relay call.Reply :=
  ExceptT.lift (Lib.Prog.request (I := relayInterface) call)

def writeFrame (frame : ServerFrame) : Relay Unit := do
  match ← ask (.writeFrame frame) with
  | .ok () => pure ()
  | .error detail => throw (.transport detail)

def readFrame : Relay ClientFrame := do
  match ← ask .readFrame with
  | .ok frame => pure frame
  | .error detail => throw (.transport detail)

section Rules
open Lib
variable {G α : Type} {D : Discipline relayInterface G} {accept : Except ServerError α → G → Prop}
  {stage : G}

/-- One call: it is allowed, and the rest copes with every possible reply. -/
theorem follows_ask {call : Call} {after : call.Reply → Relay α}
    (allowed : D.allowed stage call)
    (rest : ∀ reply, D.possible call reply →
      Follows D accept (D.next stage call reply) (after reply).run) :
    Follows D accept stage (ask call >>= after).run :=
  (follows_except accept (ask call) after stage).mpr ⟨allowed, rest⟩

theorem follows_write_bind (frame : ServerFrame) {after : Unit → Relay α}
    (allowed : D.allowed stage (.writeFrame frame))
    (failed : ∀ detail, accept (.error (.transport detail))
      (D.next stage (.writeFrame frame) (.error detail)))
    (rest : Follows D accept (D.next stage (.writeFrame frame) (.ok ())) (after ()).run) :
    Follows D accept stage (writeFrame frame >>= after).run := by
  refine (follows_except accept (writeFrame frame) after stage).mpr ?_
  refine follows_ask allowed ?_
  rintro (detail | ⟨⟩) _
  · exact failed detail
  · exact rest

theorem follows_read {after : ClientFrame → Relay α} (allowed : D.allowed stage .readFrame)
    (failed : ∀ detail, accept (.error (.transport detail))
      (D.next stage .readFrame (.error detail)))
    (rest : ∀ frame, Follows D accept (D.next stage .readFrame (.ok frame)) (after frame).run) :
    Follows D accept stage (readFrame >>= after).run := by
  refine (follows_except accept readFrame after stage).mpr ?_
  refine follows_ask allowed ?_
  rintro (detail | frame) _
  · exact failed detail
  · exact rest frame

end Rules
end KrotRelay.Source
