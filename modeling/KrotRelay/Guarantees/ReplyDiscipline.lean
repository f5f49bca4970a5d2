import KrotRelay.Guarantees.SessionDiscipline

/-!
How a dispatch answers. Every request that has an answer gets one frame of the kind that
answers it, and a registration that is confirmed has obtained the tunnel before: by inserting
it with the flag of the request, or from `try_resume` with the flag the tunnel had.
-/
namespace KrotRelay.Guarantees
open Source Lib

inductive ReplyStage where
  | open
  /-- the tunnel the request is about to be answered with, and its `inspect` flag -/
  | obtained (id : TunnelId) (inspect : Bool)
  | answered
  deriving DecidableEq

/-- The frame answers the request. -/
def isReply : ClientFrame → ServerFrame → Bool
  | .listPeers, .peers _ => true
  | .registerTunnel _ _ _ _, .tunnelRegistered _ _ _ => true
  | .registerTunnel _ _ _ _, .tunnelRejected _ _ => true
  | .ping _, .pong _ => true
  | .authRequest _, .serverBye _ | .authResponse _, .serverBye _ | .enroll _ _ _, .serverBye _ =>
    true
  | _, _ => false

/-- The requests whose dispatch goes on only after an answer. -/
def hasAnswer : ClientFrame → Bool
  | .listPeers | .registerTunnel _ _ _ _ | .ping _ => true
  | _ => false

def inspectOf : ClientFrame → Bool
  | .registerTunnel _ _ _ inspect => inspect
  | _ => false

def replyAllows (frame : ClientFrame) (stage : ReplyStage) : Call → Prop
  | .writeFrame (.tunnelRegistered id _ _) =>
    isRegistration frame = true ∧ ∃ inspect, stage = .obtained id inspect
  | .writeFrame sent => stage ≠ .answered ∧ isReply frame sent = true
  | .tryResume _ _ _ _ => stage = .open
  | .insert info => stage = .open ∧ info.inspect = inspectOf frame
  | .spawnTcpTunnel _ _ id _ inspect =>
    stage = .open ∧ inspect = inspectOf frame ∨ stage = .obtained id inspect
  | _ => True

def replyNext (stage : ReplyStage) : (call : Call) → call.Reply → ReplyStage
  | .writeFrame _, .ok _ => .answered
  | .tryResume _ _ _ _, .reattached id _ inspect => .obtained id inspect
  | .insert info, _ => .obtained info.id info.inspect
  | _, _ => stage

def replying (frame : ClientFrame) : Discipline relayInterface ReplyStage where
  allowed := replyAllows frame
  possible := fun _ _ => True
  next := replyNext

/-- A program that returns has answered. -/
abbrev Answers (frame : ClientFrame) (stage : ReplyStage) (program : Relay Unit) : Prop :=
  Follows (replying frame) (fun result stage => result = .ok () → stage = .answered) stage
    program.run

section Programs
variable (session : Session) {frame : ClientFrame} (registers : isRegistration frame = true)
include registers

theorem answers_reject {stage : ReplyStage} (code : ErrorCode) (detail : String)
    (unanswered : stage ≠ .answered) : Answers frame stage (reject code detail) := by
  have fits : isReply frame (.tunnelRejected code detail) = true := by
    cases frame <;> first | rfl | cases registers
  unfold reject writeFrame
  refine follows_ask ⟨unanswered, fits⟩ ?_
  rintro (problem | ⟨⟩) _
  · intro success
    cases success
  · exact fun _ => rfl

theorem answers_registered (id : TunnelId) (inspect : Bool) (url : String)
    (publicPort : Option UInt16) :
    Answers frame (.obtained id inspect) (writeFrame (.tunnelRegistered id url publicPort)) := by
  unfold writeFrame
  refine follows_ask ⟨registers, inspect, rfl⟩ ?_
  rintro (problem | ⟨⟩) _
  · intro success
    cases success
  · exact fun _ => rfl

theorem finishResume_answers (id : TunnelId) (info : ResumedInfo) (inspect : Bool) :
    Answers frame (.obtained id inspect) (session.finishResume id info inspect) := by
  unfold Session.finishResume
  cases info with
  | http label =>
    cases session.mode with
    | domain => exact answers_registered registers id inspect _ _
    | ip host =>
      -- the tunnel is removed after the rejection has been sent
      refine (follows_except _ _ _ _).mpr ?_
      refine follows_mono ?_ _ _ (answers_reject registers _ _ (by rintro ⟨⟩))
      rintro (problem | ⟨⟩) stage answered
      · intro success
        cases success
      · exact ⟨trivial, fun _ _ _ => answered rfl⟩
  | tcp port listener =>
    refine follows_ask (.inr rfl) fun handle _ => ?_
    refine follows_ask trivial fun _ _ => ?_
    exact answers_registered registers id inspect _ _

variable {inspect : Bool} (flag : inspect = inspectOf frame)
include flag

theorem openPort_answers (id : TunnelId) (listener : TcpListener) :
    Answers frame .open (session.openPort id listener inspect) := by
  unfold Session.openPort
  refine follows_ask trivial ?_
  rintro (detail | publicPort) _
  · intro success
    cases success
  · refine follows_ask (.inl ⟨rfl, flag⟩) fun handle _ => ?_
    refine follows_ask ⟨rfl, flag⟩ fun _ _ => ?_
    exact answers_registered registers id inspect _ _

theorem claimPort_answers : Answers frame .open (session.claimPort inspect) := by
  unfold Session.claimPort
  refine follows_ask trivial ?_
  rintro (problem | ⟨id, port⟩) _
  · exact answers_reject registers _ _ (by rintro ⟨⟩)
  · refine follows_ask trivial ?_
    rintro (detail | listener) _
    · exact answers_reject registers _ _ (by rintro ⟨⟩)
    · exact openPort_answers session registers flag id listener

theorem registerTcp_answers (remotePort : Option UInt16) :
    Answers frame .open (session.registerTcp remotePort inspect) := by
  unfold Session.registerTcp
  split
  · split
    · exact answers_reject registers _ _ (by rintro ⟨⟩)
    · exact claimPort_answers session registers flag
  · exact claimPort_answers session registers flag

theorem claimLabel_answers (apex label : String) :
    Answers frame .open (session.claimLabel apex label inspect) := by
  unfold Session.claimLabel
  refine follows_ask trivial ?_
  rintro (problem | id) _
  · exact answers_reject registers _ _ (by rintro ⟨⟩)
  · refine follows_ask ⟨rfl, flag⟩ fun _ _ => ?_
    exact answers_registered registers id inspect _ _

theorem registerHttp_answers (label : String) :
    Answers frame .open (session.registerHttp label inspect) := by
  unfold Session.registerHttp
  cases session.mode with
  | ip => exact answers_reject registers _ _ (by rintro ⟨⟩)
  | domain apex =>
    have clear := claimLabel_answers session registers flag apex label
    dsimp only
    split
    · exact answers_reject registers _ _ (by rintro ⟨⟩)
    · split
      · exact answers_reject registers _ _ (by rintro ⟨⟩)
      · refine follows_ask trivial fun snapshot _ => ?_
        split
        · exact clear
        · refine (follows_except _ _ _ _).mpr ?_
          refine follows_checkCollisionFrom (fun _ => trivial) (fun _ _ => rfl) ?_ _ _ _
          rintro (matched | conflict)
          · exact clear
          · exact answers_reject registers _ _ (by rintro ⟨⟩)

theorem registerFresh_answers (label : String) (kind : TunnelKind) :
    Answers frame .open (session.registerFresh label kind inspect) := by
  unfold Session.registerFresh
  cases session.entry.maxConns with
  | none =>
    cases kind with
    | http => exact registerHttp_answers session registers flag label
    | tcp remotePort => exact registerTcp_answers session registers flag remotePort
  | some cap =>
    refine follows_ask trivial fun live _ => ?_
    dsimp only
    split
    · exact answers_reject registers _ _ (by rintro ⟨⟩)
    · cases kind with
      | http => exact registerHttp_answers session registers flag label
      | tcp remotePort => exact registerTcp_answers session registers flag remotePort

theorem register_answers (label : String) (kind : TunnelKind) (resumeSessionId : Option SessionId) :
    Answers frame .open (session.register label kind resumeSessionId inspect) := by
  unfold Session.register
  cases resumeSessionId with
  | none => exact registerFresh_answers session registers flag label kind
  | some =>
    refine follows_ask rfl ?_
    rintro (⟨id, info, resumedInspect⟩ | _ | _) _
    · exact finishResume_answers session registers id info resumedInspect
    · exact registerFresh_answers session registers flag label kind
    · exact answers_reject registers _ _ (by rintro ⟨⟩)

end Programs

/-- A dispatch goes on to the next frame only after it has answered a request that has one. -/
def Replied (frame : ClientFrame) (result : Except ServerError DispatchOutcome)
    (stage : ReplyStage) : Prop :=
  result = .ok .continue → hasAnswer frame = true → stage = .answered

theorem replied_write {frame : ClientFrame} (outcome : DispatchOutcome)
    (allowed : replyAllows frame .open (.writeFrame sent)) :
    Follows (replying frame) (Replied frame) .open
      (writeFrame sent >>= fun _ => pure outcome : Relay DispatchOutcome).run := by
  refine follows_write_bind sent allowed (fun detail => ?_) (fun _ _ => rfl)
  intro success
  cases success

theorem dispatch_replies (session : Session) (frame : ClientFrame) :
    Follows (replying frame) (Replied frame) .open (session.dispatch frame).run := by
  have plain (sent : ServerFrame) (fits : isReply frame sent = true)
      (other : ∀ id url port, sent ≠ .tunnelRegistered id url port) :
      replyAllows frame .open (.writeFrame sent) := by
    cases sent with
    | tunnelRegistered id url port => exact absurd rfl (other id url port)
    | _ => exact ⟨by rintro ⟨⟩, fits⟩
  cases frame with
  | ping | authRequest | authResponse => exact replied_write _ (plain _ rfl (by rintro _ _ _ ⟨⟩))
  | registerTunnel label kind resumeSessionId =>
    refine (follows_except _ _ _ _).mpr ?_
    refine follows_mono ?_ _ _ (register_answers session rfl rfl label kind resumeSessionId)
    rintro (_ | ⟨⟩) stage answered
    · intro success
      cases success
    · exact fun _ _ => answered rfl
  | unregisterTunnel id => exact follows_ask trivial fun _ _ _ none => nomatch none
  | listPeers =>
    refine follows_ask trivial fun snapshot _ => ?_
    exact replied_write _ (plain _ rfl (by rintro _ _ _ ⟨⟩))
  | bye =>
    intro success
    cases success
  | enroll =>
    exact replied_write _ (plain _ rfl (by rintro _ _ _ ⟨⟩))

end KrotRelay.Guarantees
