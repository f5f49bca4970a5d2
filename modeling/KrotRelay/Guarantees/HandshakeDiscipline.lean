import KrotRelay.Source.Server

/-!
What a handshake may do: it never touches the tunnel registry, it reads the key
index once, and an authenticated outcome carries exactly the entry it read.
-/
namespace KrotRelay.Guarantees
open Source Lib

inductive HandshakeStage where
  | fresh
  | fetched (pubkey : PubKey) (entry : AuthorizedEntry)
  deriving DecidableEq

def handshakeAllows (stage : HandshakeStage) : Call → Prop
  | .keysGet _ => stage = .fresh
  | .consume _ | .appendLine _ | .readKind | .readFrame | .writeFrame _ | .freshNonce
  | .freshSessionId | .nowUtc => True
  | .tryResume _ _ _ _ | .countOwnedBy _ | .allocateHttp _ | .allocateTcp _ | .insert _
  | .remove _ | .setTcpAbort _ _ | .peersSnapshot | .findOwner _ _ | .bind _ | .localAddr _
  | .spawnTcpTunnel _ _ _ _ _ => False

def handshakeNext (stage : HandshakeStage) : (call : Call) → call.Reply → HandshakeStage
  | .keysGet pubkey, some entry => .fetched pubkey entry
  | _, _ => stage

def handshakeDiscipline : Discipline relayInterface HandshakeStage where
  allowed := handshakeAllows
  possible := fun _ _ => True
  next := handshakeNext

/-- An authenticated outcome names the key and the entry that were read. -/
def Vouched (result : Except ServerError HandshakeOutcome) (stage : HandshakeStage) : Prop :=
  ∀ ok, result = .ok (.auth ok) → stage = .fetched ok.pubkey ok.entry

theorem vouched_error (problem : ServerError) (stage : HandshakeStage) :
    Vouched (.error problem) stage := by
  intro ok success
  cases success

theorem vouched_failed (code : ErrorCode) (stage : HandshakeStage) :
    Vouched (.ok (.failed code)) stage := by
  intro ok success
  cases success

theorem vouched_enrolled (success : Bool) (stage : HandshakeStage) :
    Vouched (.ok (.enrollmentDone success)) stage := by
  intro ok granted
  cases granted

theorem authReject_follows (code : ErrorCode) (stage : HandshakeStage) :
    Follows handshakeDiscipline Vouched stage (authReject code).run :=
  follows_write_bind _ trivial (fun _ => vouched_error _ _) (vouched_failed _ _)

theorem handleEnroll_follows (ext : External) (token : String) (pubkey : PubKey)
    (labelHint : Option String) (stage : HandshakeStage) :
    Follows handshakeDiscipline Vouched stage (handleEnroll ext token pubkey labelHint).run := by
  refine follows_ask trivial ?_
  rintro (detail | ⟨⟩) _
  · exact follows_write_bind _ trivial (fun _ => vouched_error _ _) (vouched_enrolled _ _)
  · refine follows_ask trivial fun now _ => ?_
    refine follows_ask trivial ?_
    rintro (detail | stored) _
    · exact vouched_error _ _
    · exact follows_write_bind _ trivial (fun _ => vouched_error _ _) (vouched_enrolled _ _)

theorem handleAuth_follows (ext : External) (pubkey : PubKey) :
    Follows handshakeDiscipline Vouched .fresh (handleAuth ext pubkey).run := by
  refine follows_ask rfl ?_
  rintro (_ | entry) _
  · exact authReject_follows _ _
  · refine follows_ask trivial fun nonce _ => ?_
    refine follows_write_bind _ trivial (fun _ => vouched_error _ _) ?_
    refine follows_read trivial (fun _ => vouched_error _ _) fun frame => ?_
    cases frame with
    | authResponse signature =>
      dsimp only
      split
      · exact authReject_follows _ _
      · refine follows_ask trivial fun sessionId _ => ?_
        refine follows_write_bind _ trivial (fun _ => vouched_error _ _) ?_
        rintro ok success
        cases success
        rfl
    | _ => exact authReject_follows _ _

theorem perform_follows (ext : External) :
    Follows handshakeDiscipline Vouched .fresh (perform ext).run := by
  refine follows_ask trivial ?_
  rintro (detail | byte) _
  · exact vouched_error _ _
  · dsimp only
    split
    · exact vouched_failed _ _
    · refine follows_read trivial (fun _ => vouched_error _ _) fun frame => ?_
      cases frame with
      | enroll => exact handleEnroll_follows ext _ _ _ _
      | authRequest pubkey => exact handleAuth_follows ext pubkey
      | _ => exact follows_ask trivial fun _ _ => vouched_failed _ _
    · exact vouched_failed _ _

end KrotRelay.Guarantees
