import KrotRelay.Guarantees.HandshakeAgreement
import KrotRelay.Source.KeyStore

/-!
# Both ends of an enrollment

`enroll` and `perform` over one reliable ordered stream, as for the handshake. The token
store, the clock and the key registry answer the server once each, whatever they answer.
-/
namespace KrotRelay.Guarantees
open Source Lib

/-- The two options of the client, and what the server's stores answer. -/
structure EnrollSetting extends HandshakeSetting where
  adminToken : String
  labelHint : Option String
  consume : String → Except String Unit
  now : String
  appendLine : String → Except String String

abbrev EnrollLink := Duplex (Prog clientInterface (Except ClientError (Except ErrorCode String)))
  ServerProgram ServerFrame Upstream

namespace EnrollSetting
variable (setting : EnrollSetting)

def clientParty :=
  @programParty clientInterface (Except ClientError (Except ErrorCode String)) _ _ clientReply
    (fun _ => true) (by
      intro call inbox answer rest said replied more ended
      cases call with
      | readFrame =>
        cases inbox <;> cases replied
        rfl
      | readFrameWithin => cases replied
      | _ =>
        cases replied
        rfl)

def reply : (call : Call) → List Upstream → Bool →
    Option (call.Reply × List Upstream × List ServerFrame)
  | .consume token, inbox, _ => some (setting.consume token, inbox, [])
  | .nowUtc, inbox, _ => some (setting.now, inbox, [])
  | .appendLine line, inbox, _ => some (setting.appendLine line, inbox, [])
  | call, inbox, ended =>
    serverReply setting.entries setting.nonce setting.sessionId call inbox ended

def serverParty :=
  @programParty relayInterface (Except ServerError HandshakeOutcome) _ _ setting.reply
    (fun result => serverGone (.ret result)) (by
      intro call inbox answer rest said replied more ended
      cases call with
      | readKind | readFrame =>
        cases inbox with
        | nil => cases replied
        | cons message =>
          cases message <;> cases replied
          rfl
      | writeFrame | keysGet | freshNonce | freshSessionId | consume | nowUtc | appendLine =>
        cases replied
        rfl
      | _ => cases replied)

def start : EnrollLink where
  left := (Client.enroll setting.crates setting.identity setting.adminToken setting.labelHint).run
  right := (perform setting.external).run
  toLeft := []
  toRight := []
  leftSaid := []
  rightSaid := []

def step : EnrollLink → Turn → Option EnrollLink := Duplex.step clientParty setting.serverParty

/-- What an enrollment is for: the token decides, then the registry, and both sides are told. -/
def outcome : Except ClientError (Except ErrorCode String) × Except ServerError HandshakeOutcome :=
  match setting.identity.pubkey setting.crates with
  | .error problem => (.error problem, .error (.transport "stream ended"))
  | .ok pubkey =>
    match setting.consume setting.adminToken with
    | .error detail => (.ok (.error (enrollErrorCode detail)), .ok (.enrollmentDone false))
    | .ok () =>
      let line := enrollLine setting.external pubkey setting.now setting.labelHint
      match setting.appendLine line with
      | .error detail => (.error (.transport "stream ended"), .error (.keys detail))
      | .ok stored => (.ok (.ok stored), .ok (.enrollmentDone true))

variable {setting}

/-- Some schedule ends so. -/
def Comes (setting : EnrollSetting) (link : EnrollLink)
    (ends : Except ClientError (Except ErrorCode String) × Except ServerError HandshakeOutcome) :
    Prop :=
  ∃ turns last, run setting.step link turns = some last ∧
    last.left = .ret ends.1 ∧ last.right = .ret ends.2

theorem Comes.after {link next ends} (turns : List Turn)
    (moved : run setting.step link turns = some next) (rest : setting.Comes next ends) :
    setting.Comes link ends := by
  obtain ⟨later, last, ran, ends⟩ := rest
  exact ⟨turns ++ later, last, (run_append _ _ _ _ _).mpr ⟨next, moved, ran⟩, ends⟩

theorem comes_to_outcome : setting.Comes setting.start setting.outcome := by
  unfold outcome start Client.enroll
  cases setting.identity.pubkey setting.crates with
  | error problem => exact ⟨[.left, .right, .right], _, rfl, rfl, rfl⟩
  | ok pubkey =>
    dsimp only
    -- the client has written its frame, the server has looked at the token
    refine .after [.left, .left, .right, .right, .right] rfl ?_
    cases setting.consume setting.adminToken with
    | error detail => exact ⟨[.right, .left], _, rfl, rfl, rfl⟩
    | ok =>
      dsimp only
      refine .after [.right, .right] rfl ?_
      unfold enrollLine
      cases setting.appendLine ("ed25519 " ++ setting.external.base64 pubkey ++
        " subdomain=* # enrolled " ++ setting.now ++ " " ++ setting.labelHint.getD "") with
      | error detail => exact ⟨[.left], _, rfl, rfl, rfl⟩
      | ok stored => exact ⟨[.right, .left], _, rfl, rfl, rfl⟩

variable (setting)

/-- Every schedule of an enrollment can be carried on to one end, where both sides have
returned what the stores' answers make of it. -/
theorem enrollment_agreed : ∃ last, Halted setting.step last ∧
    (∀ turns link, run setting.step setting.start turns = some link →
      ∃ rest, run setting.step link rest = some last) ∧
    last.left = .ret setting.outcome.1 ∧ last.right = .ret setting.outcome.2 := by
  obtain ⟨turns, last, ran, left, right⟩ := setting.comes_to_outcome
  have halted : Halted setting.step last := by
    intro turn
    cases turn
    · simp only [step, Duplex.step, left]
      rfl
    · simp only [step, Duplex.step, right]
      rfl
  refine ⟨last, halted, fun other link reached => ?_, left, right⟩
  obtain ⟨rest, ends, -⟩ := (Duplex.commutes clientParty setting.serverParty).run_to_end
    ran halted other link reached
  exact ⟨rest, ends⟩

end EnrollSetting
end KrotRelay.Guarantees
