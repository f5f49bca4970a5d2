import KrotRelay.Guarantees.Tracking

/-!
The collision check of `register_http` as a typestate. A label is claimed only after the
other relay was asked about it and did not name a different identity, provided that relay is
on the list of peers and in the identity's `federation=` list.
-/
namespace KrotRelay.Guarantees
open Source Lib

variable {label : String}

inductive CheckStage where
  | open
  /-- the list of peers does not have the other relay -/
  | unlisted
  | cleared (label : String)
  | reserved (id : TunnelId) (label : String)
  deriving DecidableEq

/-- Nothing is claimed or about to be. -/
def CheckStage.Rests (stage : CheckStage) : Prop := stage = .open ∨ stage = .unlisted

theorem CheckStage.Rests.not_reserved {id : TunnelId}
    (rests : (CheckStage.reserved id label).Rests) : False := by
  rcases rests with ⟨⟨⟩⟩ | ⟨⟨⟩⟩

theorem CheckStage.Rests.not_cleared (rests : (CheckStage.cleared label).Rests) : False := by
  rcases rests with ⟨⟨⟩⟩ | ⟨⟨⟩⟩

def checkAllows (other : String) (session : Session) (stage : CheckStage) : Call → Prop
  | .findOwner _ label => stage.Rests ∨ stage = .cleared label
  | .allocateHttp label =>
    stage = .unlisted ∨ stage = .cleared label ∨ stage = .open ∧ other ∉ session.entry.federation
  | .insert info =>
    match info.kind with
    | .http label => stage = .reserved info.id label ∧ info.owner = session.pubkey
    | .tcp _ => stage.Rests
  | _ => stage.Rests

/-- The answer names a different identity. -/
def isConflict (pubkey : PubKey) : PeerLookupOutcome → Bool
  | .found owner => owner != pubkey
  | _ => false

def checkNext (other : String) (session : Session) (stage : CheckStage) :
    (call : Call) → call.Reply → CheckStage
  | .peersSnapshot, snapshot => if other ∈ snapshot then stage else .unlisted
  | .findOwner peer label, outcome =>
    if isConflict session.pubkey outcome then .open
    else if peer = other then .cleared label
    else stage
  | .allocateHttp label, .ok id => .reserved id label
  | .allocateHttp _, .error _ => .open
  | .insert _, _ => .open
  | _, _ => stage

/-- The collision check, seen from the name of the other relay. -/
def checking (other : String) : Typestate CheckStage where
  start := .open
  allowed := fun session _ stage => checkAllows other session stage
  next := checkNext other
  settled := CheckStage.Rests

section Programs
variable (other : String) (session : Session) (frame : ClientFrame)

abbrev Checks (stage : CheckStage) (program : Relay Unit) : Prop :=
  Follows ((checking other).discipline session frame) (fun _ stage => stage.Rests) stage program.run

theorem checks_write {stage : CheckStage} (sent : ServerFrame) (rests : stage.Rests) :
    Checks other session frame stage (writeFrame sent) := by
  unfold writeFrame
  refine follows_ask rests ?_
  rintro (problem | ⟨⟩) _
  · exact rests
  · exact rests

theorem finishResume_checks (id : TunnelId) (info : ResumedInfo) (inspect : Bool) :
    Checks other session frame .open (session.finishResume id info inspect) := by
  unfold Session.finishResume
  cases info with
  | http =>
    cases session.mode with
    | domain => exact checks_write other session frame _ (.inl rfl)
    | ip =>
      refine (follows_except _ _ _ _).mpr ?_
      refine follows_mono ?_ _ _ (checks_write other session frame _ (.inl rfl))
      rintro (problem | ⟨⟩) stage rests
      · exact rests
      · exact ⟨rests, fun _ _ => rests⟩
  | tcp =>
    refine follows_ask (.inl rfl) fun handle _ => ?_
    refine follows_ask (.inl rfl) fun _ _ => ?_
    exact checks_write other session frame _ (.inl rfl)

theorem claimPort_checks (inspect : Bool) :
    Checks other session frame .open (session.claimPort inspect) := by
  unfold Session.claimPort
  refine follows_ask (.inl rfl) ?_
  rintro (problem | ⟨id, port⟩) _
  · exact checks_write other session frame _ (.inl rfl)
  · refine follows_ask (.inl rfl) ?_
    rintro (detail | listener) _
    · exact checks_write other session frame _ (.inl rfl)
    · dsimp only
      unfold Session.openPort
      refine follows_ask (.inl rfl) ?_
      rintro (detail | publicPort) _
      · exact .inl rfl
      · refine follows_ask (.inl rfl) fun handle _ => ?_
        refine follows_ask (.inl rfl) fun _ _ => ?_
        exact checks_write other session frame _ (.inl rfl)

theorem registerTcp_checks (remotePort : Option UInt16) (inspect : Bool) :
    Checks other session frame .open (session.registerTcp remotePort inspect) := by
  unfold Session.registerTcp
  split
  · split
    · exact checks_write other session frame _ (.inl rfl)
    · exact claimPort_checks other session frame inspect
  · exact claimPort_checks other session frame inspect

/-- The label may be claimed once the remaining peers have been asked. -/
def Ready (label : String) (peers : List String) (stage : CheckStage) : Prop :=
  stage = .unlisted ∨ stage = .cleared label ∨
    stage = .open ∧ (other ∈ peers ∨ other ∉ session.entry.federation)

variable {other session} in
theorem Ready.asked {peer : String} {rest : List String} {stage : CheckStage}
    (ready : Ready other session label (peer :: rest) stage) :
    Ready other session label rest (if peer = other then .cleared label else stage) := by
  split
  · exact .inr (.inl rfl)
  · rename_i differs
    refine ready.imp_right (Or.imp_right fun ⟨opened, listed⟩ => ⟨opened, listed.imp_left ?_⟩)
    exact fun mem => (List.mem_cons.mp mem).resolve_left fun same => differs same.symm

theorem claimLabel_checks {stage : CheckStage} (ready : Ready other session label [] stage)
    (apex : String) (inspect : Bool) :
    Checks other session frame stage (session.claimLabel apex label inspect) := by
  unfold Session.claimLabel
  refine follows_ask ?_ ?_
  · exact ready.imp_right (Or.imp_right (And.imp_right (Or.resolve_left · List.not_mem_nil)))
  · rintro (problem | id) _
    · exact checks_write other session frame _ (.inl rfl)
    · refine follows_ask ⟨rfl, rfl⟩ fun _ _ => ?_
      exact checks_write other session frame _ (.inl rfl)

/-- The loop of `check_collision`: at the end every peer was asked. -/
theorem checkCollisionFrom_checks (accept : Except ServerError CollisionCheck → CheckStage → Prop)
    (clear : ∀ matched stage, Ready other session label [] stage →
      accept (.ok (.clear matched)) stage)
    (conflict : ∀ peer, accept (.ok (.conflict peer)) .open)
    (peers matched : List String) (stage : CheckStage)
    (ready : Ready other session label peers stage) :
    Follows ((checking other).discipline session frame) accept stage
      (checkCollisionFrom label session.pubkey matched peers).run := by
  induction peers generalizing matched stage with
  | nil => exact clear matched stage ready
  | cons peer rest ih =>
    have allowed : checkAllows other session stage (.findOwner peer label) := by
      rcases ready with same | same | ⟨same, _⟩
      · exact .inl (.inr same)
      · exact .inr same
      · exact .inl (.inl same)
    unfold checkCollisionFrom
    refine follows_ask allowed ?_
    rintro (_ | owner | _) _
    · exact ih matched _ ready.asked
    · dsimp only
      split
      · rename_i same
        have next : checkNext other session stage (.findOwner peer label) (.found owner) =
            if peer = other then .cleared label else stage := by
          simp [checkNext, isConflict, same]
        rw [show ((checking other).discipline session frame).next stage (.findOwner peer label)
          (.found owner) = _ from next]
        exact ih _ _ ready.asked
      · rename_i differs
        have next : checkNext other session stage (.findOwner peer label) (.found owner) =
            .open := by
          simp [checkNext, isConflict, differs]
        rw [show ((checking other).discipline session frame).next stage (.findOwner peer label)
          (.found owner) = _ from next]
        exact conflict peer
    · exact ih matched _ ready.asked

theorem registerHttp_checks (label : String) (inspect : Bool) :
    Checks other session frame .open (session.registerHttp label inspect) := by
  unfold Session.registerHttp
  cases session.mode with
  | ip => exact checks_write other session frame _ (.inl rfl)
  | domain apex =>
    dsimp only
    split
    · exact checks_write other session frame _ (.inl rfl)
    · split
      · exact checks_write other session frame _ (.inl rfl)
      · refine follows_ask (.inl rfl) fun (snapshot : List String) _ => ?_
        -- the other relay is asked, or it is missing from one of the two lists
        have ready : Ready other session label (session.authorizedPeers snapshot)
            (checkNext other session .open .peersSnapshot snapshot) := by
          by_cases listed : other ∈ snapshot
          · refine .inr (.inr ⟨if_pos listed, ?_⟩)
            by_cases named : other ∈ session.entry.federation
            · exact .inl (List.mem_filter.mpr ⟨listed, by simpa using named⟩)
            · exact .inr named
          · exact .inl (if_neg listed)
        split
        · rename_i empty
          rw [List.isEmpty_iff.mp empty] at ready
          exact claimLabel_checks other session frame ready apex inspect
        · refine (follows_except _ _ _ _).mpr ?_
          refine checkCollisionFrom_checks other session frame _ ?_ ?_ _ _ _ ready
          · exact fun _ _ ready => claimLabel_checks other session frame ready apex inspect
          · exact fun _ => checks_write other session frame _ (.inl rfl)

theorem registerFresh_checks (label : String) (kind : TunnelKind) (inspect : Bool) :
    Checks other session frame .open (session.registerFresh label kind inspect) := by
  unfold Session.registerFresh
  cases session.entry.maxConns with
  | none =>
    cases kind with
    | http => exact registerHttp_checks other session frame label inspect
    | tcp remotePort => exact registerTcp_checks other session frame remotePort inspect
  | some =>
    refine follows_ask (.inl rfl) fun live _ => ?_
    dsimp only
    split
    · exact checks_write other session frame _ (.inl rfl)
    · cases kind with
      | http => exact registerHttp_checks other session frame label inspect
      | tcp remotePort => exact registerTcp_checks other session frame remotePort inspect

theorem register_checks (label : String) (kind : TunnelKind)
    (resumeSessionId : Option SessionId) (inspect : Bool) :
    Checks other session frame .open (session.register label kind resumeSessionId inspect) := by
  unfold Session.register
  cases resumeSessionId with
  | none => exact registerFresh_checks other session frame label kind inspect
  | some =>
    refine follows_ask (.inl rfl) ?_
    rintro (⟨id, info, resumedInspect⟩ | _ | _) _
    · exact finishResume_checks other session frame id info resumedInspect
    · exact registerFresh_checks other session frame label kind inspect
    · exact checks_write other session frame _ (.inl rfl)

theorem dispatch_checks : Follows ((checking other).discipline session frame)
      (fun _ stage => (checking other).settled stage) (checking other).start
      (session.dispatch frame).run := by
  have writes {stage : CheckStage} (rests : stage.Rests) (sent : ServerFrame)
      (outcome : DispatchOutcome) :
      Follows ((checking other).discipline session frame) (fun _ stage => stage.Rests) stage
        (writeFrame sent >>= fun _ => pure outcome : Relay DispatchOutcome).run :=
    follows_write_bind sent rests (fun _ => rests) rests
  cases frame with
  | registerTunnel label kind resumeSessionId inspect =>
    refine (follows_except _ _ _ _).mpr ?_
    refine follows_mono ?_ _ _ (register_checks other session _ label kind resumeSessionId inspect)
    rintro (_ | ⟨⟩) stage rests
    · exact rests
    · exact rests
  | unregisterTunnel id => exact follows_ask (.inl rfl) fun _ _ => .inl rfl
  | listPeers =>
    refine follows_ask (.inl rfl) fun (snapshot : List String) _ => ?_
    refine writes ?_ _ _
    show (if other ∈ snapshot then CheckStage.open else .unlisted).Rests
    split
    · exact .inl rfl
    · exact .inr rfl
  | bye => exact .inl rfl
  | ping | authRequest | authResponse | enroll => exact writes (.inl rfl) _ _

end Programs

end KrotRelay.Guarantees
