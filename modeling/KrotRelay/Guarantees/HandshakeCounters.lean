import KrotRelay.Lib.Trace
import KrotRelay.Source.Metrics

/-!
What the handshake counters count. The cause of an outcome is read off the log of the
handshake: the kind byte and the frames the client sent, what the registry said of its key,
the nonce it was given and what became of its token. The outcome names the cause only by the
code the connection is closed with, and three causes share one code.
-/
namespace KrotRelay.Guarantees
open Source Lib

inductive Cause where
  | authenticated
  | unknownIdentity
  | signatureInvalid
  /-- the first stream is not a control stream -/
  | wrongStream
  /-- a frame that does not belong where it was read -/
  | wrongFrame
  | enrolled
  | enrollmentRefused
  deriving DecidableEq

section Log
variable (log : List (Answered relayInterface))

def kindRead : Option UInt8 :=
  log.findSome? fun
    | ⟨.readKind, .ok byte⟩ => some byte
    | _ => none

def framesRead : List ClientFrame :=
  log.filterMap fun
    | ⟨.readFrame, .ok frame⟩ => some frame
    | _ => none

/-- What the registry had for the key. -/
def entryFound : Option AuthorizedEntry :=
  log.findSome? fun
    | ⟨.keysGet _, entry⟩ => entry
    | _ => none

def nonceDrawn : Option Nonce :=
  log.findSome? fun
    | ⟨.freshNonce, nonce⟩ => some nonce
    | _ => none

def tokenConsumed : Bool :=
  log.any fun
    | ⟨.consume _, .ok _⟩ => true
    | _ => false

/-- Whether the signature verifies for the key and the nonce drawn. -/
def verified (ext : External) (pubkey : PubKey) (signature : Signature) : Bool :=
  (nonceDrawn log).any fun nonce => ext.verifyChallenge pubkey nonce signature

/-- Why a handshake ended as it did. -/
def causeOf (ext : External) : Cause :=
  if (kindRead log).bind StreamKind.tryFrom ≠ some .control then .wrongStream
  else
    match framesRead log with
    | .enroll _ _ _ :: _ => if tokenConsumed log then .enrolled else .enrollmentRefused
    | .authRequest pubkey :: answer =>
      if (entryFound log).isNone then .unknownIdentity
      else
        match answer with
        | .authResponse signature :: _ =>
          if verified log ext pubkey signature then .authenticated else .signatureInvalid
        | _ => .wrongFrame
    | _ => .wrongFrame

end Log

/-- The outcomes a cause can have. -/
def Cause.Ends : Cause → HandshakeOutcome → Prop
  | .authenticated, outcome => ∃ ok, outcome = .auth ok
  | .unknownIdentity, outcome | .signatureInvalid, outcome | .wrongFrame, outcome =>
    outcome = .failed .authenticationFailed
  | .wrongStream, outcome =>
    outcome = .failed .unknownStreamKind ∨ outcome = .failed .unexpectedStream
  | .enrolled, outcome => outcome = .enrollmentDone true
  | .enrollmentRefused, outcome => outcome = .enrollmentDone false

/-- A run that completes has the outcome its cause calls for. -/
abbrev Explained (ext : External) (past : List (Answered relayInterface))
    (program : Relay HandshakeOutcome) : Prop :=
  Follows (recording relayInterface)
    (fun result log => ∀ outcome, result = .ok outcome → (causeOf log ext).Ends outcome) past
    program.run

theorem authReject_explained
    (cause : (causeOf (past ++ [⟨Call.writeFrame (.authReject code), .ok ()⟩]) ext).Ends
      (.failed .authenticationFailed)) : Explained ext past (authReject code) := by
  unfold authReject
  refine follows_write_bind (.authReject code) trivial ?_ ?_
  · rintro detail _ ⟨⟩
  · rintro _ ⟨⟩
    exact cause

theorem unexpectedFirst_explained (ext : External) (past : List (Answered relayInterface))
    (cause : ∀ reply,
      (causeOf (past ++ [⟨Call.writeFrame (.authReject .protocolViolation), reply⟩]) ext).Ends
        (.failed .authenticationFailed)) : Explained ext past unexpectedFirst := by
  unfold unexpectedFirst
  refine follows_ask trivial fun reply _ => ?_
  rintro _ ⟨⟩
  exact cause reply

section Control
variable (ext : External) {byte : UInt8} (kind : StreamKind.tryFrom byte = some .control)

include kind in
theorem handleEnroll_explained (token : String) (pubkey : PubKey) (labelHint : Option String) :
    Explained ext
      [⟨Call.readKind, .ok byte⟩, ⟨Call.readFrame, .ok (.enroll token pubkey labelHint)⟩]
      (handleEnroll ext token pubkey labelHint) := by
  unfold handleEnroll
  refine follows_ask trivial ?_
  rintro (detail | ⟨⟩) _
  · refine follows_write_bind _ trivial ?_ ?_
    · rintro detail _ ⟨⟩
    · rintro _ ⟨⟩
      simp [causeOf, kindRead, framesRead, tokenConsumed, recording, kind, Cause.Ends]
  · refine follows_ask trivial fun now _ => ?_
    refine follows_ask trivial ?_
    rintro (detail | stored) _
    · rintro _ ⟨⟩
    · refine follows_write_bind _ trivial ?_ ?_
      · rintro detail _ ⟨⟩
      · rintro _ ⟨⟩
        simp [causeOf, kindRead, framesRead, tokenConsumed, recording, kind, Cause.Ends]

include kind in
theorem handleAuth_explained (pubkey : PubKey) :
    Explained ext [⟨Call.readKind, .ok byte⟩, ⟨Call.readFrame, .ok (.authRequest pubkey)⟩]
      (handleAuth ext pubkey) := by
  unfold handleAuth
  refine follows_ask trivial ?_
  rintro (none | entry) _
  · refine authReject_explained ?_
    simp [causeOf, kindRead, framesRead, entryFound, recording, kind, Cause.Ends]
  · refine follows_ask trivial fun (nonce : Nonce) _ => ?_
    refine follows_write_bind _ trivial ?_ ?_
    · rintro detail _ ⟨⟩
    · refine follows_read trivial ?_ fun answer => ?_
      · rintro detail _ ⟨⟩
      · cases answer with
        | authResponse signature =>
          cases valid : ext.verifyChallenge pubkey nonce signature with
          | false =>
            simp only [valid, Bool.not_false, if_true]
            refine authReject_explained ?_
            simp [causeOf, kindRead, framesRead, entryFound, verified, nonceDrawn, recording, kind,
              valid, Cause.Ends]
          | true =>
            simp only [valid, Bool.not_true, Bool.false_eq_true, if_false]
            refine follows_ask trivial fun (sessionId : SessionId) _ => ?_
            refine follows_write_bind _ trivial ?_ ?_
            · rintro detail _ ⟨⟩
            · rintro _ ⟨⟩
              simp [causeOf, kindRead, framesRead, entryFound, verified, nonceDrawn, recording,
                kind, valid, Cause.Ends]
        | _ =>
          refine authReject_explained ?_
          simp [causeOf, kindRead, framesRead, entryFound, recording, kind, Cause.Ends]

end Control

theorem perform_explained (ext : External) : Explained ext [] (perform ext) := by
  unfold perform
  refine follows_ask trivial ?_
  rintro (detail | byte) _
  · rintro _ ⟨⟩
  · cases kind : StreamKind.tryFrom byte with
    | none =>
      simp only [kind]
      rintro _ ⟨⟩
      simp [causeOf, kindRead, recording, kind, Cause.Ends]
    | some stream =>
      cases stream with
      | control =>
        simp only [kind]
        refine follows_read trivial ?_ fun first => ?_
        · rintro detail _ ⟨⟩
        · cases first with
          | enroll token pubkey hint => exact handleEnroll_explained ext kind token pubkey hint
          | authRequest pubkey => exact handleAuth_explained ext kind pubkey
          | _ =>
            refine unexpectedFirst_explained ext _ fun reply => ?_
            simp [causeOf, kindRead, framesRead, recording, kind, Cause.Ends]
      | _ =>
        simp only [kind]
        rintro _ ⟨⟩
        simp [causeOf, kindRead, recording, kind, Cause.Ends]

inductive HandshakeCounter where
  | authOk
  | unknownIdentity
  | signatureInvalid
  | protocolViolation
  | enrollmentOk
  | enrollmentRejected
  deriving DecidableEq

def HandshakeCounter.get (m : HandshakeCounters) : HandshakeCounter → UInt64
  | .authOk => m.handshakeAuthOk
  | .unknownIdentity => m.handshakeUnknownIdentity
  | .signatureInvalid => m.handshakeSignatureInvalid
  | .protocolViolation => m.handshakeProtocolViolation
  | .enrollmentOk => m.enrollmentOk
  | .enrollmentRejected => m.enrollmentRejected

/-- The counter that is meant for a cause. -/
def Cause.meant : Cause → HandshakeCounter
  | .authenticated => .authOk
  | .unknownIdentity => .unknownIdentity
  | .signatureInvalid => .signatureInvalid
  | .wrongStream | .wrongFrame => .protocolViolation
  | .enrolled => .enrollmentOk
  | .enrollmentRefused => .enrollmentRejected

/-- The counter a cause ends up in. -/
def Cause.filed : Cause → HandshakeCounter
  | .unknownIdentity | .wrongFrame => .signatureInvalid
  | cause => cause.meant

theorem Cause.filed_eq_meant {cause : Cause} (known : cause ≠ .unknownIdentity)
    (inPlace : cause ≠ .wrongFrame) : cause.filed = cause.meant := by
  cases cause with
  | unknownIdentity => exact absurd rfl known
  | wrongFrame => exact absurd rfl inPlace
  | _ => rfl

/-- One counter goes up by one and the others stay. -/
def CountsOnce (before after : HandshakeCounters) (counter : HandshakeCounter) : Prop :=
  ∀ other : HandshakeCounter,
    other.get after = if other = counter then other.get before + 1 else other.get before

theorem bump_counts {cause : Cause} {outcome : HandshakeOutcome} (ends : cause.Ends outcome)
    (m : HandshakeCounters) : CountsOnce m (m.bump outcome) cause.filed := by
  intro other
  cases cause with
  | authenticated =>
    obtain ⟨ok, rfl⟩ := ends
    cases other <;> rfl
  | wrongStream =>
    rcases ends with rfl | rfl
    · cases other <;> rfl
    · cases other <;> rfl
  | _ =>
    cases ends
    cases other <;> rfl

/-- A connection whose handshake completes: what the relay was told, and the outcome. -/
structure CompletedHandshake (ext : External) where
  world : World relayInterface
  outcome : HandshakeOutcome
  completes : ((perform ext).run.outcome world []).2 = .ok outcome

section Connections
variable {ext : External}

def CompletedHandshake.cause (conn : CompletedHandshake ext) : Cause :=
  causeOf ((perform ext).run.outcome conn.world []).1 ext

theorem CompletedHandshake.ends (conn : CompletedHandshake ext) : conn.cause.Ends conn.outcome :=
  outcome_accepted conn.world [] _ (perform_explained ext) conn.outcome conn.completes

/-- The counters after the connections, from the start of the process. -/
def processed (connections : List (CompletedHandshake ext)) : HandshakeCounters :=
  connections.foldl (fun m conn => m.bump conn.outcome) {}

/-- How many connections have a cause with this property. -/
def numberOf (connections : List (CompletedHandshake ext)) (property : Cause → Bool) : Nat :=
  connections.countP fun conn => property conn.cause

/-- Every counter has the number of connections it is meant for. -/
def Tells (connections : List (CompletedHandshake ext)) (m : HandshakeCounters) : Prop :=
  ∀ counter : HandshakeCounter,
    (counter.get m).toNat = numberOf connections fun cause => cause.meant = counter

theorem foldl_bump (connections : List (CompletedHandshake ext)) (m : HandshakeCounters)
    (counter : HandshakeCounter) :
    counter.get (connections.foldl (fun m conn => m.bump conn.outcome) m) =
      counter.get m + .ofNat (numberOf connections fun cause => cause.filed = counter) := by
  induction connections generalizing m with
  | nil => simp [numberOf]
  | cons conn rest ih =>
    rw [List.foldl_cons, ih, bump_counts conn.ends m counter]
    by_cases same : conn.cause.filed = counter
    · simp [numberOf, same, UInt64.ofNat_add, UInt64.add_assoc, UInt64.add_comm 1]
    · simp [numberOf, same, Ne.symm same]

theorem processed_get (connections : List (CompletedHandshake ext)) (counter : HandshakeCounter) :
    (counter.get (processed connections)).toNat =
      (numberOf connections fun cause => cause.filed = counter) % 2 ^ 64 := by
  rw [processed, foldl_bump]
  cases counter <;> simp [HandshakeCounter.get]

theorem numberOf_violations (connections : List (CompletedHandshake ext)) :
    (numberOf connections fun cause => cause.meant = .protocolViolation) =
      (numberOf connections fun cause => cause.filed = .protocolViolation) +
        numberOf connections fun cause => cause = .wrongFrame := by
  induction connections with
  | nil => rfl
  | cons conn rest ih =>
    have one : ∀ cause : Cause, (if cause.meant = .protocolViolation then 1 else 0) =
        (if cause.filed = .protocolViolation then 1 else 0) +
          if cause = .wrongFrame then 1 else 0 := by
      intro cause
      cases cause <;> rfl
    simp only [numberOf, List.countP_cons, decide_eq_true_eq] at ih ⊢
    rw [ih, one]
    omega

/-- A cause nobody has is one whose number is zero. -/
theorem numberOf_eq_zero {connections : List (CompletedHandshake ext)} {cause : Cause}
    {property : Cause → Bool} (zero : numberOf connections property = 0)
    (holds : property cause = true) : ∀ conn ∈ connections, conn.cause ≠ cause := by
  rintro conn mem rfl
  exact List.countP_eq_zero.mp zero conn mem holds

/-- The counters tell the causes exactly as long as nobody is refused for an unknown key or a
frame out of place, whom they count among the bad signatures, and no counter overflows. -/
theorem counters_tell_iff (ext : External) (connections : List (CompletedHandshake ext)) :
    (∀ conn ∈ connections, ∃ counter, ∀ m, CountsOnce m (m.bump conn.outcome) counter) ∧
      (Tells connections (processed connections) ↔
        (∀ conn ∈ connections, conn.cause ≠ .unknownIdentity ∧ conn.cause ≠ .wrongFrame) ∧
          ∀ counter : HandshakeCounter,
            (numberOf connections fun cause => cause.meant = counter) < 2 ^ 64) := by
  refine ⟨fun conn _ => ⟨conn.cause.filed, bump_counts conn.ends⟩, ?_⟩
  constructor
  · intro tells
    have counted : ∀ counter : HandshakeCounter,
        (numberOf connections fun cause => cause.filed = counter) % 2 ^ 64 =
          numberOf connections fun cause => cause.meant = counter := by
      intro counter
      rw [← tells counter, processed_get]
    have unknown : (numberOf connections fun cause => cause.meant = .unknownIdentity) = 0 := by
      have never : (numberOf connections fun cause => cause.filed = .unknownIdentity) = 0 := by
        refine List.countP_eq_zero.mpr fun conn _ => ?_
        cases conn.cause <;> decide
      rw [← counted, never, Nat.zero_mod]
    have violations : (numberOf connections fun cause => cause = .wrongFrame) = 0 := by
      have split := numberOf_violations connections
      have bound := Nat.mod_le (numberOf connections fun cause => cause.filed = .protocolViolation)
        (2 ^ 64)
      rw [counted] at bound
      omega
    refine ⟨fun conn member => ⟨?_, ?_⟩, fun counter => ?_⟩
    · exact numberOf_eq_zero unknown rfl conn member
    · exact numberOf_eq_zero violations rfl conn member
    · rw [← counted]
      exact Nat.mod_lt _ (by decide)
  · rintro ⟨filed, bounded⟩ counter
    have same : (numberOf connections fun cause => cause.filed = counter) =
        numberOf connections fun cause => cause.meant = counter := by
      refine List.countP_congr fun conn member => ?_
      have none := filed conn member
      simp only [Cause.filed_eq_meant none.1 none.2]
    rw [processed_get, same, Nat.mod_eq_of_lt (bounded counter)]

end Connections

/-- A client asks for a key that is not in the registry; the calls that a handshake does not
make get replies that say nothing. -/
def unknownClient : World relayInterface := fun _ call =>
  match call with
  | .readKind => .ok 1
  | .readFrame => .ok (.authRequest ⟨Vector.replicate 32 0⟩)
  | .keysGet _ => none
  | .writeFrame _ => .ok ()
  | .freshNonce => ⟨Vector.replicate 32 0⟩
  | .freshSessionId => ⟨Vector.replicate 16 0⟩
  | .consume _ | .appendLine _ | .bind _ | .localAddr _ => .error ""
  | .allocateHttp _ | .allocateTcp _ => .error (.io "")
  | .tryResume _ _ _ _ => .unknown
  | .insert _ | .remove _ | .setTcpAbort _ _ => ()
  | .countOwnedBy _ => (0 : Nat)
  | .spawnTcpTunnel _ _ _ _ _ => ⟨0⟩
  | .findOwner _ _ => .notFound
  | .peersSnapshot => []
  | .nowUtc => ""

def refusingExternal : External where
  verifyChallenge := fun _ _ _ => false
  base64 := fun _ => ""

def unknownHandshake : CompletedHandshake refusingExternal where
  world := unknownClient
  outcome := .failed .authenticationFailed
  completes := rfl

/-- The unknown key is counted as a bad signature. -/
theorem unknown_key_counted_as_signature : unknownHandshake.cause = .unknownIdentity ∧
      processed [unknownHandshake] = { handshakeSignatureInvalid := 1 } ∧
      ¬ Tells [unknownHandshake] (processed [unknownHandshake]) := by
  refine ⟨rfl, rfl, fun tells => ?_⟩
  have unknown := tells .unknownIdentity
  cases unknown

end KrotRelay.Guarantees
