import KrotRelay.Source.Ledger
import KrotRelay.Source.Server

/-!
What a dispatch may do to the shared registry, as a typestate. While a frame is
dispatched the session is in one stage; the stage says which registry call may come
next and with which arguments. Results about interleavings never look inside the
registration code again: they use `dispatch_follows` and the table of `allowed`.
-/
namespace KrotRelay.Guarantees
open Source Lib

inductive Stage where
  | idle
  | resumed (id : TunnelId)
  /-- an allocation was returned and nothing has been inserted for it yet -/
  | reserved (alloc : Alloc)
  /-- the allocation was given up without telling the registry -/
  | leaked (alloc : Alloc)
  | published
  | rejected
  deriving DecidableEq

/-- The allocation a stage still answers for. -/
def Stage.alloc? : Stage → Option Alloc
  | .reserved alloc => some alloc
  | _ => none

def Stage.giveUp : Stage → Stage
  | .reserved alloc => .leaked alloc
  | stage => stage

/-- A rejection is written before anything was taken, or after it was leaked. -/
def Stage.mayReject : Stage → Prop
  | .idle => True
  | .leaked _ => True
  | _ => False

def Stage.reject : Stage → Stage
  | .idle => .rejected
  | stage => stage

def isRejection : ServerFrame → Bool
  | .tunnelRejected _ _ => true
  | _ => false

def isRegistration : ClientFrame → Bool
  | .registerTunnel _ _ _ _ => true
  | _ => false

def isHttpResume : ResumeOutcome → Bool
  | .reattached _ (.http _) _ => true
  | _ => false

def inIpMode : Mode → Bool
  | .ip _ => true
  | .domain _ => false

section Discipline
variable (session : Session) (frame : ClientFrame)

def allowedCall (stage : Stage) : Call → Prop
  | .tryResume _ _ pubkey connection =>
    stage = .idle ∧ pubkey = session.pubkey ∧ connection = session.connection
  | .countOwnedBy _ => True
  | .allocateHttp _ => stage = .idle ∧ isRegistration frame = true
  | .allocateTcp _ => stage = .idle ∧ isRegistration frame = true
  | .insert info =>
    info.owner = session.pubkey ∧ (∃ abort, info.state = .live session.connection abort) ∧
      (inIpMode session.mode = true → info.kind.isTcp = true) ∧
      ∃ alloc, stage = .reserved alloc ∧ Ledger.Fits alloc info = true
  | .remove id => stage = .idle ∧ frame = .unregisterTunnel id
  | .setTcpAbort id _ => stage = .resumed id
  | .peersSnapshot => True
  | .findOwner _ _ => True
  | .writeFrame sent => isRejection sent = true → stage.mayReject
  | .bind port => ∃ id, stage = .reserved ⟨id, .tcp port⟩
  | .localAddr _ => ∃ alloc, stage = .reserved alloc
  | .spawnTcpTunnel _ connection _ _ _ => connection = session.connection
  | .keysGet _ | .consume _ | .appendLine _ | .readKind | .readFrame | .freshNonce
  | .freshSessionId | .nowUtc => False

/-- What the registry and the operating system promise about their answers. A relay
in IP mode has no HTTP tunnel to resume. -/
def possibleReply : (call : Call) → call.Reply → Prop
  | .tryResume _ _ _ _, outcome => inIpMode session.mode = true → isHttpResume outcome = false
  | .bind port, .ok listener => port = 0 ∨ listener.localPort = port
  | .localAddr listener, .ok port => port = listener.localPort
  | _, _ => True

def nextStage (stage : Stage) : (call : Call) → call.Reply → Stage
  | .tryResume _ _ _ _, .reattached id _ _ => .resumed id
  | .allocateHttp label, .ok id => .reserved ⟨id, .http label⟩
  | .allocateTcp _, .ok (id, port) => .reserved ⟨id, .tcp port⟩
  | .insert _, _ => .published
  | .bind _, .error _ => stage.giveUp
  | .localAddr _, .error _ => stage.giveUp
  | .writeFrame sent, .ok _ => if isRejection sent then stage.reject else stage
  | _, _ => stage

def sessionDiscipline : Discipline relayInterface Stage where
  allowed := allowedCall session frame
  possible := possibleReply session
  next := nextStage

end Discipline

/-- A dispatch returns with no allocation in hand. -/
def Settled {α : Type} (_ : Except ServerError α) (stage : Stage) : Prop :=
  stage.alloc? = none

section Rules
variable {session : Session} {frame : ClientFrame} (stage : Stage)

/-- Writing a frame that rejects nothing keeps the stage, whether it succeeds or not. -/
theorem follows_write (plain : isRejection sent = false)
    (accept : Except ServerError Unit → Stage → Prop) (done : ∀ result, accept result stage) :
    Follows (sessionDiscipline session frame) accept stage (writeFrame sent).run := by
  unfold writeFrame
  refine follows_ask (fun rejection => by simp [plain] at rejection) ?_
  rintro (detail | ⟨⟩) _
  · exact done _
  · simpa [sessionDiscipline, nextStage, plain] using done _

/-- An answer that is written before the dispatch returns. -/
theorem follows_write_then (plain : isRejection sent = false)
    (outcome : DispatchOutcome) (settled : stage.alloc? = none) :
    Follows (sessionDiscipline session frame) Settled stage
      (writeFrame sent >>= fun _ => pure outcome : Relay DispatchOutcome).run := by
  refine (follows_except _ _ _ _).mpr (follows_write _ plain _ ?_)
  rintro (_ | _) <;> exact settled

theorem follows_reject (code : ErrorCode) (detail : String) (may : stage.mayReject) :
    Follows (sessionDiscipline session frame) Settled stage (reject code detail).run := by
  unfold reject writeFrame
  refine follows_ask (fun _ => may) ?_
  rintro (problem | ⟨⟩) _
  · cases stage <;> first | rfl | cases may
  · cases stage <;> first | rfl | cases may

end Rules

section Programs
variable (session : Session) (frame : ClientFrame)

theorem finishResume_follows (id : TunnelId) (info : ResumedInfo) (inspect : Bool)
    (sound : inIpMode session.mode = true → isHttpResume (.reattached id info inspect) = false) :
    Follows (sessionDiscipline session frame) Settled (.resumed id)
      (session.finishResume id info inspect).run := by
  unfold Session.finishResume
  cases info with
  | http =>
    cases mode : session.mode with
    | domain => exact follows_write _ rfl _ fun _ => rfl
    | ip => cases sound (by rw [mode]; rfl)
  | tcp =>
    refine follows_ask rfl fun handle _ => ?_
    refine follows_ask rfl fun _ _ => ?_
    exact follows_write _ rfl _ fun _ => rfl

theorem openPort_follows (id : TunnelId) (inspect : Bool)
    (bound : port = 0 ∨ listener.localPort = port) :
    Follows (sessionDiscipline session frame) Settled (.reserved ⟨id, .tcp port⟩)
      (session.openPort id listener inspect).run := by
  unfold Session.openPort
  refine follows_ask ⟨_, rfl⟩ ?_
  rintro (detail | publicPort) reported
  · rfl
  · refine follows_ask rfl fun abort _ => ?_
    refine follows_ask ⟨rfl, ⟨some abort, rfl⟩, fun _ => rfl, _, rfl, ?_⟩ fun _ _ => ?_
    · have same : publicPort = listener.localPort := reported
      rcases bound with zero | equal <;> simp [Ledger.Fits, TunnelState.isDangling, *]
    · exact follows_write _ rfl _ fun _ => rfl

variable (registering : isRegistration frame = true)
include registering

theorem claimLabel_follows (apex label : String) (inspect : Bool)
    (domain : inIpMode session.mode = false) :
    Follows (sessionDiscipline session frame) Settled .idle
      (session.claimLabel apex label inspect).run := by
  unfold Session.claimLabel
  refine follows_ask ⟨rfl, registering⟩ ?_
  rintro (problem | id) _
  · exact follows_reject _ _ _ trivial
  · refine follows_ask ⟨rfl, ⟨none, rfl⟩, ?_, _, rfl, ?_⟩ fun _ _ => ?_
    · simp [domain]
    · simp [Ledger.Fits, TunnelState.isDangling]
    · exact follows_write _ rfl _ fun _ => rfl

theorem registerHttp_follows (label : String) (inspect : Bool) :
    Follows (sessionDiscipline session frame) Settled .idle
      (session.registerHttp label inspect).run := by
  unfold Session.registerHttp
  cases mode : session.mode with
  | ip host => exact follows_reject _ _ _ trivial
  | domain apex =>
    have domain : inIpMode session.mode = false := by rw [mode]; rfl
    dsimp only
    split
    · exact follows_reject _ _ _ trivial
    · split
      · exact follows_reject _ _ _ trivial
      · refine follows_ask trivial fun snapshot _ => ?_
        have clear := claimLabel_follows session frame registering apex label inspect domain
        split
        · exact clear
        · refine (follows_except _ _ _ _).mpr ?_
          refine follows_checkCollisionFrom (fun _ => trivial) (fun _ _ => rfl) ?_ _ _ _
          -- whatever the peers answer, the stage is still idle
          rintro (matched | conflict)
          · exact clear
          · exact follows_reject _ _ _ trivial

theorem claimPort_follows (inspect : Bool) :
    Follows (sessionDiscipline session frame) Settled .idle (session.claimPort inspect).run := by
  unfold Session.claimPort
  refine follows_ask ⟨rfl, registering⟩ ?_
  rintro (problem | ⟨id, port⟩) _
  · exact follows_reject _ _ _ trivial
  · refine follows_ask ⟨id, rfl⟩ ?_
    rintro (detail | listener) bound
    · exact follows_reject _ _ _ trivial
    · exact openPort_follows session frame id inspect bound

theorem registerTcp_follows (remotePort : Option UInt16) (inspect : Bool) :
    Follows (sessionDiscipline session frame) Settled .idle
      (session.registerTcp remotePort inspect).run := by
  unfold Session.registerTcp
  split
  · split
    · exact follows_reject _ _ _ trivial
    · exact claimPort_follows session frame registering inspect
  · exact claimPort_follows session frame registering inspect

theorem registerFresh_follows (label : String) (kind : TunnelKind) (inspect : Bool) :
    Follows (sessionDiscipline session frame) Settled .idle
      (session.registerFresh label kind inspect).run := by
  have labels := registerHttp_follows session frame registering label inspect
  have ports := fun remotePort =>
    registerTcp_follows session frame registering remotePort inspect
  unfold Session.registerFresh
  cases session.entry.maxConns with
  | none =>
    cases kind with
    | http => exact labels
    | tcp remotePort => exact ports remotePort
  | some cap =>
    refine follows_ask trivial fun live _ => ?_
    split
    · exact follows_reject _ _ _ trivial
    · cases kind with
      | http => exact labels
      | tcp remotePort => exact ports remotePort

theorem register_follows (label : String) (kind : TunnelKind)
    (resumeSessionId : Option SessionId) (inspect : Bool) :
    Follows (sessionDiscipline session frame) Settled .idle
      (session.register label kind resumeSessionId inspect).run := by
  unfold Session.register
  cases resumeSessionId with
  | none => exact registerFresh_follows session frame registering label kind inspect
  | some previous =>
    refine follows_ask ⟨rfl, rfl, rfl⟩ ?_
    rintro (⟨id, info, resumedInspect⟩ | _ | _) sound
    · exact finishResume_follows session frame id info resumedInspect sound
    · exact registerFresh_follows session frame registering label kind inspect
    · exact follows_reject _ _ _ trivial

end Programs

theorem dispatch_follows (session : Session) (frame : ClientFrame) :
    Follows (sessionDiscipline session frame) Settled .idle (session.dispatch frame).run := by
  cases frame with
  | ping | authRequest | authResponse | enroll =>
    exact follows_write_then _ rfl _ rfl
  | registerTunnel label kind resumeSessionId inspect =>
    unfold Session.dispatch
    rw [follows_except]
    refine follows_mono ?_ _ _ (register_follows session _ rfl label kind resumeSessionId inspect)
    rintro (_ | _) stage settled <;> exact settled
  | unregisterTunnel id =>
    exact follows_ask ⟨rfl, rfl⟩ fun _ _ => rfl
  | listPeers =>
    refine follows_ask trivial fun snapshot _ => ?_
    exact follows_write_then _ rfl _ rfl
  | bye => rfl

end KrotRelay.Guarantees
