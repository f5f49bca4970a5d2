import KrotRelay.Guarantees.Tracking

/-!
How far a registration has got, as a typestate with everything later steps depend on: the
`conns=` check, the reservation, the listener, the spawned task and the tunnel obtained.
The results on listener tasks, permissions and caps all read the registration code
through `dispatch_progress` and the table of `progressAllows`.
-/
namespace KrotRelay.Guarantees
open Source Lib

inductive Milestone where
  | idle
  /-- the `conns=` check was passed -/
  | cleared
  | reservedHttp (id : TunnelId) (label : String)
  | reservedTcp (id : TunnelId) (port : UInt16)
  | bound (id : TunnelId) (port : UInt16) (listener : TcpListener)
  | located (id : TunnelId) (port : UInt16) (listener : TcpListener)
  /-- the task of a fresh tunnel runs, and the tunnel is not in the table yet -/
  | spawned (id : TunnelId) (port : UInt16) (listener : TcpListener) (handle : AbortHandle)
  /-- `try_resume` made a TCP tunnel Live, and no task serves it yet -/
  | reattached (id : TunnelId) (port : UInt16) (listener : TcpListener)
  /-- the task of a resumed tunnel runs, and its handle is not recorded yet -/
  | respawned (id : TunnelId) (port : UInt16) (handle : AbortHandle)
  | obtained (id : TunnelId) (kind : RegisteredKind)
  | finished
  deriving DecidableEq

namespace Milestone

/-- The stages a dispatch may return in. -/
def Settled : Milestone → Prop
  | .idle | .obtained _ _ | .finished => True
  | _ => False

/-- A task was spawned and nothing in the registry knows it. -/
def Unrecorded : Milestone → Prop
  | .spawned _ _ _ _ | .respawned _ _ _ => True
  | _ => False

/-- Past the `conns=` check: an allocation may be asked for. -/
def MayAllocate (session : Session) (stage : Milestone) : Prop :=
  stage = .cleared ∨ (stage = .idle ∧ session.entry.maxConns = none)

end Milestone

/-- The entry grants the label (`subdomain=`). -/
def permitsLabel (entry : AuthorizedEntry) (label : String) : Bool :=
  entry.allowAnySubdomain || entry.allowedSubdomains.any fun allowed => allowed == label

/-- The frame tells the client about a tunnel of this kind. -/
def Announces (mode : Mode) (url : String) (publicPort : Option UInt16) : RegisteredKind → Prop
  | .http label => (∃ apex, mode = .domain apex ∧ url = "https://" ++ label ++ "." ++ apex) ∧
      publicPort = none
  | .tcp port => url = "tcp://" ++ mode.publicHost ++ ":" ++ portText port ∧ publicPort = some port

def progressAllows (session : Session) (frame : ClientFrame) (stage : Milestone) : Call → Prop
  | .tryResume _ _ pubkey connection =>
    stage = .idle ∧ pubkey = session.pubkey ∧ connection = session.connection
  | .countOwnedBy owner => stage = .idle ∧ owner = session.pubkey
  | .allocateHttp label =>
    stage.MayAllocate session ∧ isValidLabel label = true ∧ permitsLabel session.entry label = true
  | .allocateTcp allowlist => stage.MayAllocate session ∧ allowlist = session.entry.allowedPorts
  | .bind port => ∃ id, stage = .reservedTcp id port
  | .localAddr listener => ∃ id port, stage = .bound id port listener
  | .spawnTcpTunnel listener connection id _ _ =>
    connection = session.connection ∧
      ∃ port, stage = .located id port listener ∨ stage = .reattached id port listener
  | .insert info =>
    isRegistration frame = true ∧ info.owner = session.pubkey ∧
      ((∃ label, stage = .reservedHttp info.id label ∧ info.kind = .http label ∧
          info.state = .live session.connection none) ∨
        ∃ port listener handle, stage = .spawned info.id port listener handle ∧
          info.kind = .tcp listener.localPort ∧
          info.state = .live session.connection (some handle))
  | .setTcpAbort id handle =>
    isRegistration frame = true ∧ ∃ port, stage = .respawned id port handle
  | .remove id => stage = .idle ∧ frame = .unregisterTunnel id
  | .writeFrame (.tunnelRegistered id url publicPort) =>
    ∃ kind, stage = .obtained id kind ∧ Announces session.mode url publicPort kind
  | .writeFrame (.tunnelRejected _ _) => ¬ stage.Unrecorded
  | .writeFrame _ => stage = .idle
  | .peersSnapshot => ¬ stage.Unrecorded
  | .findOwner _ _ => ¬ stage.Unrecorded
  | .keysGet _ | .consume _ | .appendLine _ | .readKind | .readFrame | .freshNonce
  | .freshSessionId | .nowUtc => False

/-- The outcome of the `conns=` check. -/
def afterCount (session : Session) (live : Nat) : Milestone :=
  match session.entry.maxConns with
  | some cap => if cap.toNat ≤ live then .finished else .cleared
  | none => .idle

def progressNext (session : Session) (stage : Milestone) : (call : Call) → call.Reply → Milestone
  | .tryResume _ _ _ _, .reattached id (.http label) _ => .obtained id (.http label)
  | .tryResume _ _ _ _, .reattached id (.tcp port listener) _ => .reattached id port listener
  | .countOwnedBy _, live => afterCount session live
  | .allocateHttp label, .ok id => .reservedHttp id label
  | .allocateTcp _, .ok (id, port) => .reservedTcp id port
  | .bind _, .ok listener =>
    match stage with
    | .reservedTcp id port => .bound id port listener
    | _ => stage
  | .bind _, .error _ => .finished
  | .localAddr _, .ok _ =>
    match stage with
    | .bound id port listener => .located id port listener
    | _ => stage
  | .localAddr _, .error _ => .finished
  | .spawnTcpTunnel _ _ _ _ _, handle =>
    match stage with
    | .located id port listener => .spawned id port listener handle
    | .reattached id port _ => .respawned id port handle
    | _ => stage
  | .insert info, _ => .obtained info.id info.kind
  | .setTcpAbort id _, _ =>
    match stage with
    | .respawned _ port _ => .obtained id (.tcp port)
    | _ => stage
  | .writeFrame (.tunnelRejected _ _), _ => .finished
  | _, _ => stage

def registration : Typestate Milestone where
  start := .idle
  allowed := progressAllows
  next := progressNext
  settled := Milestone.Settled

/-- The discipline with its acceptance: a dispatch returns in a settled stage. -/
abbrev Progresses {α : Type} (session : Session) (frame : ClientFrame) (stage : Milestone)
    (program : Prog relayInterface (Except ServerError α)) : Prop :=
  Follows (registration.discipline session frame) (fun _ stage => stage.Settled) stage program

section Rules
variable {session : Session} {frame : ClientFrame} {stage : Milestone}

theorem progresses_write (allowed : progressAllows session frame stage (.writeFrame sent))
    (settled : (progressNext session stage (.writeFrame sent) (.ok ())).Settled)
    (failed : ∀ detail, (progressNext session stage (.writeFrame sent) (.error detail)).Settled) :
    Progresses session frame stage (writeFrame sent).run := by
  unfold writeFrame
  refine follows_ask allowed ?_
  rintro (detail | ⟨⟩) _
  · exact failed detail
  · exact settled

theorem progresses_reject (code : ErrorCode) (detail : String) (recorded : ¬ stage.Unrecorded) :
    Progresses session frame stage (reject code detail).run :=
  progresses_write recorded trivial fun _ => trivial

/-- An answer other than a rejection, before the dispatch returns. -/
theorem progresses_write_then (sent : ServerFrame)
    (allowed : progressAllows session frame .idle (.writeFrame sent))
    (same : ∀ reply, progressNext session .idle (.writeFrame sent) reply = .idle)
    (outcome : DispatchOutcome) : Progresses session frame .idle
      (writeFrame sent >>= fun _ => pure outcome : Relay DispatchOutcome).run := by
  refine follows_write_bind sent allowed (fun detail => ?_) ?_
  · show (progressNext session .idle (.writeFrame sent) (.error detail)).Settled
    rw [same]
    trivial
  · show (progressNext session .idle (.writeFrame sent) (.ok ())).Settled
    rw [same]
    trivial

theorem progresses_registered (id : TunnelId)
    (announces : Announces session.mode url publicPort kind) :
    Progresses session frame (.obtained id kind)
      (writeFrame (.tunnelRegistered id url publicPort)).run :=
  progresses_write ⟨kind, rfl, announces⟩ trivial fun _ => trivial

theorem mayAllocate_recorded (may : stage.MayAllocate session) : ¬ stage.Unrecorded := by
  rcases may with rfl | ⟨rfl, _⟩ <;> exact id

/-- While a task is spawned and not recorded, only a registration goes on. -/
theorem unrecorded_registers {request : Call} (allowed : progressAllows session frame stage request)
    (unrecorded : stage.Unrecorded) : isRegistration frame = true := by
  cases request with
  | insert | setTcpAbort => exact allowed.1
  | writeFrame sent =>
    cases sent with
    | tunnelRegistered =>
      obtain ⟨kind, rfl, _⟩ := allowed
      cases unrecorded
    | tunnelRejected => exact absurd unrecorded allowed
    | _ =>
      obtain rfl : stage = .idle := allowed
      cases unrecorded
  | peersSnapshot | findOwner => exact absurd unrecorded allowed
  | tryResume | countOwnedBy | remove =>
    obtain ⟨rfl, _⟩ := allowed
    cases unrecorded
  | allocateHttp | allocateTcp => exact absurd unrecorded (mayAllocate_recorded allowed.1)
  | bind =>
    obtain ⟨id, rfl⟩ := allowed
    cases unrecorded
  | localAddr =>
    obtain ⟨id, port, rfl⟩ := allowed
    cases unrecorded
  | spawnTcpTunnel =>
    obtain ⟨_, port, rfl | rfl⟩ := allowed <;> cases unrecorded
  | _ => exact allowed.elim

end Rules

section Programs
variable (session : Session) (frame : ClientFrame)

variable (registers : isRegistration frame = true)
include registers

theorem finishResume_progress (id : TunnelId) (info : ResumedInfo) (inspect : Bool)
    (label : String) (previous : SessionId) (pubkey : PubKey) (conn : Connection)
    (sound : inIpMode session.mode = true →
      isHttpResume (.reattached id info inspect) = false) : Progresses session frame
      (progressNext session .idle (.tryResume label previous pubkey conn)
        (.reattached id info inspect))
      (session.finishResume id info inspect).run := by
  unfold Session.finishResume
  cases info with
  | http =>
    cases mode : session.mode with
    | domain apex => exact progresses_registered id ⟨⟨apex, mode, rfl⟩, rfl⟩
    | ip => cases sound (by rw [mode]; rfl)
  | tcp port =>
    refine follows_ask ⟨rfl, port, .inr rfl⟩ fun handle _ => ?_
    refine follows_ask ⟨registers, port, rfl⟩ fun _ _ => ?_
    exact progresses_registered id ⟨rfl, rfl⟩

theorem openPort_progress (id : TunnelId) (port : UInt16) (listener : TcpListener)
    (inspect : Bool) : Progresses session frame (.bound id port listener)
      (session.openPort id listener inspect).run := by
  unfold Session.openPort
  refine follows_ask ⟨id, port, rfl⟩ ?_
  rintro (detail | publicPort) reported
  · trivial
  · have same : publicPort = listener.localPort := reported
    subst same
    refine follows_ask ⟨rfl, port, .inl rfl⟩ fun handle _ => ?_
    refine follows_ask
      ⟨registers, rfl, .inr ⟨port, listener, handle, rfl, rfl, rfl⟩⟩ fun _ _ => ?_
    exact progresses_registered id ⟨rfl, rfl⟩

theorem claimPort_progress (inspect : Bool) (may : stage.MayAllocate session) :
    Progresses session frame stage (session.claimPort inspect).run := by
  unfold Session.claimPort
  refine follows_ask ⟨may, rfl⟩ ?_
  rintro (problem | ⟨id, port⟩) _
  · exact progresses_reject _ _ (mayAllocate_recorded may)
  · refine follows_ask ⟨id, rfl⟩ ?_
    rintro (detail | listener) bound
    · exact progresses_reject _ _ not_false
    · exact openPort_progress session frame registers id port listener inspect

theorem registerTcp_progress (remotePort : Option UInt16) (inspect : Bool) (stage : Milestone)
    (may : stage.MayAllocate session) :
    Progresses session frame stage (session.registerTcp remotePort inspect).run := by
  unfold Session.registerTcp
  split
  · split
    · exact progresses_reject _ _ (mayAllocate_recorded may)
    · exact claimPort_progress session frame registers inspect may
  · exact claimPort_progress session frame registers inspect may

theorem claimLabel_progress (inspect : Bool)
    (mode : session.mode = .domain apex) (may : stage.MayAllocate session)
    (valid : isValidLabel label = true) (permitted : permitsLabel session.entry label = true) :
    Progresses session frame stage (session.claimLabel apex label inspect).run := by
  unfold Session.claimLabel
  refine follows_ask ⟨may, valid, permitted⟩ ?_
  rintro (problem | id) _
  · exact progresses_reject _ _ (mayAllocate_recorded may)
  · refine follows_ask ⟨registers, rfl, .inl ⟨label, rfl, rfl, rfl⟩⟩ fun _ _ => ?_
    exact progresses_registered id ⟨⟨apex, mode, rfl⟩, rfl⟩

theorem registerHttp_progress (label : String) (inspect : Bool) (stage : Milestone)
    (may : stage.MayAllocate session) :
    Progresses session frame stage (session.registerHttp label inspect).run := by
  have recorded := mayAllocate_recorded may
  unfold Session.registerHttp
  cases mode : session.mode with
  | ip => exact progresses_reject _ _ recorded
  | domain apex =>
    dsimp only
    split
    · exact progresses_reject _ _ recorded
    · rename_i valid
      split
      · exact progresses_reject _ _ recorded
      · rename_i permitted
        have valid : isValidLabel label = true := by simpa using valid
        have permitted : permitsLabel session.entry label = true := by
          simp only [permitsLabel]
          revert permitted
          cases session.entry.allowAnySubdomain <;> simp
        refine follows_ask recorded fun snapshot _ => ?_
        have clear := claimLabel_progress session frame registers inspect mode may valid permitted
        split
        · exact clear
        · refine (follows_except _ _ _ _).mpr ?_
          refine follows_checkCollisionFrom (fun _ => recorded) (fun _ _ => rfl) ?_ _ _ _
          -- the peers are asked in the same stage, whatever they answer
          rintro (matched | conflict)
          · exact clear
          · exact progresses_reject _ _ recorded

theorem registerFresh_progress (label : String) (kind : TunnelKind) (inspect : Bool) :
    Progresses session frame .idle (session.registerFresh label kind inspect).run := by
  have labels := registerHttp_progress session frame registers label inspect
  have ports := fun remotePort =>
    registerTcp_progress session frame registers remotePort inspect
  unfold Session.registerFresh
  cases cap : session.entry.maxConns with
  | none =>
    cases kind with
    | http => exact labels .idle (.inr ⟨rfl, cap⟩)
    | tcp remotePort => exact ports remotePort .idle (.inr ⟨rfl, cap⟩)
  | some =>
    refine follows_ask ⟨rfl, rfl⟩ fun live _ => ?_
    change Progresses session frame (afterCount session live) _
    simp only [afterCount, cap]
    split
    · exact progresses_reject _ _ not_false
    · cases kind with
      | http => exact labels .cleared (.inl rfl)
      | tcp remotePort => exact ports remotePort .cleared (.inl rfl)

theorem register_progress (label : String) (kind : TunnelKind)
    (resumeSessionId : Option SessionId) (inspect : Bool) :
    Progresses session frame .idle (session.register label kind resumeSessionId inspect).run := by
  unfold Session.register
  cases resumeSessionId with
  | none => exact registerFresh_progress session frame registers label kind inspect
  | some =>
    refine follows_ask ⟨rfl, rfl, rfl⟩ ?_
    rintro (⟨id, info, resumedInspect⟩ | _ | _) sound
    · exact finishResume_progress session frame registers id info resumedInspect _ _ _ _ sound
    · exact registerFresh_progress session frame registers label kind inspect
    · exact progresses_reject _ _ not_false

end Programs

theorem dispatch_progress (session : Session) (frame : ClientFrame) :
    Progresses session frame .idle (session.dispatch frame).run := by
  cases frame with
  | ping nonce => exact progresses_write_then (.pong nonce) rfl (fun _ => rfl) _
  | registerTunnel label kind resumeSessionId inspect =>
    refine (follows_except _ _ _ _).mpr ?_
    refine follows_mono ?_ _ _ (register_progress session _ rfl label kind resumeSessionId inspect)
    rintro (_ | _) stage settled <;> exact settled
  | unregisterTunnel id => exact follows_ask ⟨rfl, rfl⟩ fun _ _ => trivial
  | listPeers =>
    refine follows_ask not_false fun snapshot _ => ?_
    exact progresses_write_then (.peers _) rfl (fun _ => rfl) _
  | bye => trivial
  | authRequest | authResponse => exact progresses_write_then (.serverBye _) rfl (fun _ => rfl) _
  | enroll =>
    exact progresses_write_then (.serverBye _) rfl (fun _ => rfl) _

end KrotRelay.Guarantees
