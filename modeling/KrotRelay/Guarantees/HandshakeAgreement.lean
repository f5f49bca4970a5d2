import KrotRelay.Lib.Confluence
import KrotRelay.Source.ClientSession
import KrotRelay.Source.LoginPage
import KrotRelay.Source.DataPath

/-!
# Both ends of a handshake

`finish_auth` and `perform` over one reliable ordered stream. Each side runs when it can; a
read waits for a frame, and fails once the other side has given up and nothing is left. The
two sides touch opposite ends of the queues, so all schedules end alike, and each end is
found by following one of them.
-/
namespace KrotRelay.Guarantees
open Source Lib

/-- What a handshake depends on besides the schedule. -/
structure HandshakeSetting where
  crates : ClientCrates
  base64 : PubKey → String
  identity : Identity
  entries : HashMap PubKey AuthorizedEntry
  nonce : Nonce
  sessionId : SessionId

def HandshakeSetting.external (setting : HandshakeSetting) : External where
  verifyChallenge := verifyChallenge setting.crates.ed25519
  base64 := setting.base64

abbrev ClientProgram := Prog clientInterface (Except ClientError SessionId)

abbrev ServerProgram := Prog relayInterface (Except ServerError HandshakeOutcome)

/-- What the client puts on the stream. -/
inductive Upstream where
  | kind (byte : UInt8)
  | frame (frame : ClientFrame)
  deriving DecidableEq

/-- What a call of the client gets from the stream: the reply, what is left to read, and
what is written. No result: the call waits. -/
def clientReply : (call : ClientCall) → List ServerFrame → Bool →
    Option (call.Reply × List ServerFrame × List Upstream)
  | .sendKind kind, inbox, _ => some (.ok (), inbox, [.kind kind.asByte])
  | .writeFrame frame, inbox, _ => some (.ok (), inbox, [.frame frame])
  | .readFrame, frame :: rest, _ => some (.ok frame, rest, [])
  | .readFrame, [], true => some (.error "stream ended", [], [])
  | .readFrame, [], false => none
  -- `finish_auth` reads without a deadline
  | .readFrameWithin _, _, _ => none

def clientTurn : ClientProgram → List ServerFrame → Bool →
    Option (ClientProgram × List ServerFrame × List Upstream)
  | .ret _, _, _ => none
  | .call call next, inbox, ended =>
    (clientReply call inbox ended).map fun (reply, rest, said) => (next reply, rest, said)

/-- A client that has failed has dropped its stream. -/
def clientGone : ClientProgram → Bool
  | .ret (.error _) => true
  | _ => false

def finishAuthParty : Party ClientProgram ServerFrame Upstream where
  turn := clientTurn
  gone := clientGone
  patient := by
    intro program inbox next rest said moved more ended
    cases program with
    | ret => cases moved
    | call call =>
      cases call with
      | readFrame =>
        cases inbox with
        | nil => cases moved
        | cons =>
          cases moved
          rfl
      | readFrameWithin => cases moved
      | _ =>
        cases moved
        rfl
  finished := by
    intro program inbox ended gone
    cases program with
    | ret => rfl
    | call => cases gone

/-- The same for the server, whose key index and random values are given. -/
def serverReply (entries : HashMap PubKey AuthorizedEntry) (nonce : Nonce)
    (sessionId : SessionId) : (call : Call) → List Upstream → Bool →
    Option (call.Reply × List Upstream × List ServerFrame)
  | .readKind, .kind byte :: rest, _ => some (.ok byte, rest, [])
  | .readKind, [], true => some (.error "stream ended", [], [])
  | .readFrame, .frame frame :: rest, _ => some (.ok frame, rest, [])
  | .readFrame, [], true => some (.error "stream ended", [], [])
  | .writeFrame frame, inbox, _ => some (.ok (), inbox, [frame])
  | .keysGet pubkey, inbox, _ => some (entries.lookup pubkey, inbox, [])
  | .freshNonce, inbox, _ => some (nonce, inbox, [])
  | .freshSessionId, inbox, _ => some (sessionId, inbox, [])
  -- an authentication makes no other call
  | _, _, _ => none

def serverTurn (entries : HashMap PubKey AuthorizedEntry) (nonce : Nonce)
    (sessionId : SessionId) : ServerProgram → List Upstream → Bool →
    Option (ServerProgram × List Upstream × List ServerFrame)
  | .ret _, _, _ => none
  | .call call next, inbox, ended =>
    (serverReply entries nonce sessionId call inbox ended).map fun (reply, rest, said) =>
      (next reply, rest, said)

/-- A server that has not authenticated the client has finished its stream. -/
def serverGone : ServerProgram → Bool
  | .ret (.ok (.auth _)) => false
  | .ret _ => true
  | _ => false

def performParty (setting : HandshakeSetting) : Party ServerProgram Upstream ServerFrame where
  turn := serverTurn setting.entries setting.nonce setting.sessionId
  gone := serverGone
  patient := by
    intro program inbox next rest said moved more ended
    cases program with
    | ret => cases moved
    | call request =>
      cases request with
      | readKind | readFrame =>
        cases inbox with
        | nil => cases moved
        | cons message =>
          cases message <;> cases moved
          rfl
      | writeFrame | keysGet | freshNonce | freshSessionId =>
        cases moved
        rfl
      | _ => cases moved
  finished := by
    intro program inbox ended gone
    cases program with
    | ret => rfl
    | call => cases gone

abbrev HandshakeLink := Duplex ClientProgram ServerProgram ServerFrame Upstream

/-- Before the first byte; the client is on the left. -/
def HandshakeSetting.start (setting : HandshakeSetting) : HandshakeLink where
  left := (Client.finishAuth setting.crates setting.identity).run
  right := (perform setting.external).run
  toLeft := []
  toRight := []
  leftSaid := []
  rightSaid := []

def HandshakeSetting.step (setting : HandshakeSetting) : HandshakeLink → Turn → Option HandshakeLink :=
  Duplex.step finishAuthParty (performParty setting)

/-- The outcomes of the two sides match: a session exactly with the id the server gave it, a
rejection exactly with a code the server sent. -/
def OutcomesMatch (result : Except ClientError SessionId)
    (outcome : Except ServerError HandshakeOutcome) (said : List ServerFrame) : Prop :=
  (∀ sessionId, result = .ok sessionId ↔
    ∃ ok, outcome = .ok (.auth ok) ∧ ok.sessionId = sessionId) ∧
  ∀ code, result = .error (.authRejected code) ↔ .authReject code ∈ said

/-- The two sides have returned and agree. -/
def Matching (link : HandshakeLink) : Prop :=
  ∃ result outcome, link.left = .ret result ∧ link.right = .ret outcome ∧
    OutcomesMatch result outcome link.rightSaid

section Ends
variable {setting : HandshakeSetting} {link next : HandshakeLink}
  {result : Except ClientError SessionId} {outcome : Except ServerError HandshakeOutcome}
  {said : List ServerFrame} {n : Nat}

/-- Within `n` steps the client returns, the server returns, and this is all the server
has written. -/
def Ends (setting : HandshakeSetting) (link : HandshakeLink) (n : Nat)
    (result : Except ClientError SessionId) (outcome : Except ServerError HandshakeOutcome)
    (said : List ServerFrame) : Prop :=
  ∃ turns last, run setting.step link turns = some last ∧ turns.length ≤ n ∧
    last.left = .ret result ∧ last.right = .ret outcome ∧ last.rightSaid = said

theorem Ends.done (left : link.left = .ret result) (right : link.right = .ret outcome)
    (wrote : link.rightSaid = said) : Ends setting link 0 result outcome said :=
  ⟨[], link, rfl, le_rfl, left, right, wrote⟩

theorem Ends.turn {turn : Turn} (moved : setting.step link turn = some next)
    (rest : Ends setting next n result outcome said) :
    Ends setting link (n + 1) result outcome said := by
  obtain ⟨turns, last, ran, short, ends⟩ := rest
  exact ⟨turn :: turns, last, (run_cons _ _ _ _ _).mpr ⟨next, moved, ran⟩,
    Nat.succ_le_succ short, ends⟩

/-- The client's turn. -/
theorem Ends.client (moved : setting.step link .left = some next)
    (rest : Ends setting next n result outcome said) :
    Ends setting link (n + 1) result outcome said :=
  rest.turn moved

theorem Ends.server (moved : setting.step link .right = some next)
    (rest : Ends setting next n result outcome said) :
    Ends setting link (n + 1) result outcome said :=
  rest.turn moved

/-- The end of `handle_auth`, once the signature was looked at. -/
def judged (verdict : Bool) (pubkey : PubKey) (entry : AuthorizedEntry) : Relay HandshakeOutcome :=
  if !verdict then authReject .authenticationFailed
  else do
    let sessionId ← ask .freshSessionId
    writeFrame (.authOk sessionId)
    pure (.auth { pubkey, sessionId, entry })

/-- The end of `finish_auth`, once the signature was sent. -/
def awaitVerdict : Client SessionId := do
  match ← Client.readFrame with
  | .authOk sessionId => pure sessionId
  | .authReject code => throw (.authRejected code)
  | _ => throw (.protocol "expected AuthOk")

/-- The signature has been looked at and the client waits. -/
def judgedLink (verdict : Bool) (pubkey : PubKey) (entry : AuthorizedEntry)
    (leftSaid : List Upstream) (rightSaid : List ServerFrame) : HandshakeLink where
  left := awaitVerdict.run
  right := (judged verdict pubkey entry).run
  toLeft := []
  toRight := []
  leftSaid := leftSaid
  rightSaid := rightSaid

theorem ends_judged_false {verdict : Bool} {pubkey : PubKey} {entry : AuthorizedEntry}
    {leftSaid : List Upstream} (bad : verdict = false) :
    Ends setting (judgedLink verdict pubkey entry leftSaid said) 2
      (.error (.authRejected .authenticationFailed)) (.ok (.failed .authenticationFailed))
      (said ++ [.authReject .authenticationFailed]) := by
  subst bad
  refine .server rfl ?_
  refine .client rfl ?_
  exact .done rfl rfl rfl

theorem ends_judged_true {verdict : Bool} {pubkey : PubKey} {entry : AuthorizedEntry}
    {leftSaid : List Upstream} (good : verdict = true) :
    Ends setting (judgedLink verdict pubkey entry leftSaid said) 3 (.ok setting.sessionId)
      (.ok (.auth { pubkey, sessionId := setting.sessionId, entry }))
      (said ++ [.authOk setting.sessionId]) := by
  subst good
  refine .server rfl ?_
  refine .server rfl ?_
  refine .client rfl ?_
  exact .done rfl rfl (by simp [judgedLink])

/-- Whether the client's signature passes. -/
def HandshakeSetting.verdict (setting : HandshakeSetting) (pubkey : PubKey)
    (key : Vector UInt8 32) : Bool :=
  verifyChallenge setting.crates.ed25519 pubkey setting.nonce
    (signChallenge setting.crates.ed25519 key setting.nonce)

theorem ends_unreadable {problem : ClientError}
    (unreadable : setting.identity.pubkey setting.crates = .error problem) :
    Ends setting setting.start 3 (.error problem) (.error (.transport "stream ended")) [] := by
  unfold HandshakeSetting.start Client.finishAuth
  rw [unreadable]
  refine .client rfl ?_
  refine .server rfl ?_
  refine .server rfl ?_
  exact .done rfl rfl rfl

theorem ends_unknown {pubkey : PubKey}
    (readable : setting.identity.pubkey setting.crates = .ok pubkey)
    (unknown : setting.entries.lookup pubkey = none) :
    Ends setting setting.start 8 (.error (.protocol "expected AuthChallenge"))
      (.ok (.failed .authenticationFailed)) [.authReject .unknownIdentity] := by
  unfold HandshakeSetting.start Client.finishAuth
  rw [readable]
  refine .client rfl ?_
  refine .client rfl ?_
  refine .server rfl ?_
  refine .server rfl ?_
  refine .server rfl ?_
  rw [unknown]
  refine .server rfl ?_
  refine .client rfl ?_
  refine .client rfl ?_
  exact .done rfl rfl rfl

variable {pubkey : PubKey} {entry : AuthorizedEntry}
  (readable : setting.identity.pubkey setting.crates = .ok pubkey)
  (known : setting.entries.lookup pubkey = some entry)
include readable known

theorem ends_unsigned {problem : ClientError}
    (unsigned : setting.identity.signingKey setting.crates = .error problem) :
    Ends setting setting.start 9 (.error problem) (.error (.transport "stream ended"))
      [.authChallenge setting.nonce] := by
  unfold HandshakeSetting.start Client.finishAuth
  rw [readable]
  simp only [unsigned]
  refine .client rfl ?_
  refine .client rfl ?_
  refine .server rfl ?_
  refine .server rfl ?_
  refine .server rfl ?_
  rw [known]
  refine .server rfl ?_
  refine .server rfl ?_
  refine .client rfl ?_
  refine .server rfl ?_
  exact .done rfl rfl rfl

variable {key : Vector UInt8 32} (signs : setting.identity.signingKey setting.crates = .ok key)
include signs

/-- Ten steps up to the server's verdict. -/
theorem ends_signed (rest : Ends setting (judgedLink (setting.verdict pubkey key) pubkey entry
      [.kind 0x01, .frame (.authRequest pubkey),
        .frame (.authResponse (signChallenge setting.crates.ed25519 key setting.nonce))]
      [.authChallenge setting.nonce]) n result outcome said) :
    Ends setting setting.start (n + 10) result outcome said := by
  unfold HandshakeSetting.start Client.finishAuth
  rw [readable]
  simp only [signs]
  refine .client rfl ?_
  refine .client rfl ?_
  refine .server rfl ?_
  refine .server rfl ?_
  refine .server rfl ?_
  rw [known]
  refine .server rfl ?_
  refine .server rfl ?_
  refine .client rfl ?_
  refine .client rfl ?_
  refine .server rfl ?_
  exact rest

end Ends

section Schedules

/-- A key that cannot be read is an error of the configuration. -/
theorem decodeKey_config {crates : ClientCrates} {field text : String} {problem : ClientError}
    (failed : decodeKey crates field text = .error problem) : ∃ detail, problem = .config detail := by
  unfold decodeKey at failed
  split at failed
  · cases failed
    exact ⟨_, rfl⟩
  · split at failed
    · cases failed
      exact ⟨_, rfl⟩
    · cases failed

theorem pubkey_config {crates : ClientCrates} {identity : Identity} {problem : ClientError}
    (failed : identity.pubkey crates = .error problem) : ∃ detail, problem = .config detail := by
  unfold Identity.pubkey at failed
  cases decoded : decodeKey crates "public_key" identity.publicKey with
  | error =>
    rw [decoded] at failed
    cases failed
    exact decodeKey_config decoded
  | ok =>
    rw [decoded] at failed
    cases failed

variable {setting : HandshakeSetting} {result : Except ClientError SessionId}
  {outcome : Except ServerError HandshakeOutcome} {said : List ServerFrame} {n : Nat}

/-- All schedules come to the end that one of them comes to. -/
theorem Ends.everywhere (ends : Ends setting setting.start n result outcome said) :
    ∃ last, Halted setting.step last ∧
      (∀ turns link, run setting.step setting.start turns = some link →
        turns.length ≤ n ∧ ∃ rest, run setting.step link rest = some last) ∧
      (Matching last ↔ OutcomesMatch result outcome said) := by
  obtain ⟨turns, last, ran, short, left, right, wrote⟩ := ends
  have halted : Halted setting.step last := by
    intro turn
    cases turn
    · simp only [HandshakeSetting.step, Duplex.step, left]
      rfl
    · simp only [HandshakeSetting.step, Duplex.step, right]
      rfl
  refine ⟨last, halted, ?_, ?_⟩
  · intro other link reached
    obtain ⟨rest, ends, length⟩ := (Duplex.commutes finishAuthParty (performParty setting)).run_to_end
      ran halted other link reached
    exact ⟨by omega, rest, ends⟩
  · unfold Matching
    rw [left, right, wrote]
    constructor
    · rintro ⟨result, outcome, ⟨⟩, ⟨⟩, agree⟩
      exact agree
    · exact fun agree => ⟨result, outcome, rfl, rfl, agree⟩

end Schedules

/-- The server has an entry for the client's key (if the client can read its own key). -/
def KnowsClient (setting : HandshakeSetting) : Prop :=
  ∀ pubkey, setting.identity.pubkey setting.crates = .ok pubkey →
    (setting.entries.lookup pubkey).isSome = true

/-- The ways a handshake can go, and whether the outcomes match. -/
theorem ends_matching (setting : HandshakeSetting) :
    ∃ result outcome said, Ends setting setting.start 13 result outcome said ∧
      (OutcomesMatch result outcome said ↔ KnowsClient setting) := by
  have upTo {result outcome said m n} (ends : Ends setting setting.start m result outcome said)
      (short : m ≤ n) : Ends setting setting.start n result outcome said := by
    obtain ⟨turns, last, ran, length, rest⟩ := ends
    exact ⟨turns, last, ran, length.trans short, rest⟩
  cases readable : setting.identity.pubkey setting.crates with
  | error problem =>
    refine ⟨_, _, _, upTo (ends_unreadable readable) (by decide), ?_⟩
    obtain ⟨detail, rfl⟩ := pubkey_config readable
    simp [OutcomesMatch, KnowsClient, readable]
  | ok pubkey =>
    cases known : setting.entries.lookup pubkey with
    | none =>
      refine ⟨_, _, _, upTo (ends_unknown readable known) (by decide), ?_⟩
      simp [OutcomesMatch, KnowsClient, readable, known]
    | some entry =>
      cases signs : setting.identity.signingKey setting.crates with
      | error problem =>
        refine ⟨_, _, _, upTo (ends_unsigned readable known signs) (by decide), ?_⟩
        obtain ⟨detail, rfl⟩ := decodeKey_config signs
        simp [OutcomesMatch, KnowsClient, readable, known]
      | ok key =>
        have judging {n result outcome said} := @ends_signed setting result outcome said n pubkey
          entry readable known key signs
        cases verdict : setting.verdict pubkey key with
        | false =>
          refine ⟨_, _, _, upTo (judging (ends_judged_false verdict)) (by decide), ?_⟩
          have same : ∀ code, ErrorCode.authenticationFailed = code ↔
              code = .authenticationFailed := fun _ => eq_comm
          simp [OutcomesMatch, KnowsClient, readable, known, same]
        | true =>
          refine ⟨_, _, _, judging (ends_judged_true verdict), ?_⟩
          simp [OutcomesMatch, KnowsClient, readable, known]

/-- Every schedule of a handshake ends, after at most 13 steps, with both sides returned, and
their outcomes match exactly if the server knows the client. -/
theorem handshake_outcomes_match (setting : HandshakeSetting) : ∃ last, Halted setting.step last ∧
      (∀ turns link, run setting.step setting.start turns = some link →
        turns.length ≤ 13 ∧ ∃ rest, run setting.step link rest = some last) ∧
      (Matching last ↔ KnowsClient setting) := by
  obtain ⟨result, outcome, said, ends, agree⟩ := ends_matching setting
  obtain ⟨last, halted, schedules, same⟩ := ends.everywhere
  exact ⟨last, halted, schedules, same.trans agree⟩

/-- `hex::decode`, for texts of lower-case digits. -/
def hexPairs : List Char → Except String (List UInt8)
  | high :: low :: rest =>
    match hexVal high.toNat.toUInt8, hexVal low.toNat.toUInt8, hexPairs rest with
    | some h, some l, .ok bytes => .ok ((h <<< 4 ||| l) :: bytes)
    | _, _, .error detail => .error detail
    | _, _, _ => .error "Invalid character"
  | [_] => .error "Odd number of digits"
  | [] => .ok []

/-- A client whose key the relay does not have. -/
def strangerSetting : HandshakeSetting where
  crates := { ed25519 := ⟨fun _ _ => ⟨.replicate 64 0⟩, fun _ _ _ => false⟩
              hexDecode := fun text => hexPairs text.toList }
  base64 := fun _ => ""
  identity := { privateKey := "0101010101010101010101010101010101010101010101010101010101010101"
                publicKey := "8a88e3dd7409f195fd52db2d3cba5d72ca6709bf1d94121bf3748801b40f6f5c" }
  entries := ∅
  nonce := ⟨.replicate 32 7⟩
  sessionId := ⟨.replicate 16 1⟩

/-- The server rejects with UNKNOWN_IDENTITY; the client has taken that frame for the missing
challenge and looks for the rejection in the next one. -/
theorem unknown_identity_misreported : ∃ last, run strangerSetting.step strangerSetting.start
        [.left, .left, .right, .right, .right, .right, .left, .left] = some last ∧
      last.left = .ret (.error (.protocol "expected AuthChallenge")) ∧
      last.right = .ret (.ok (.failed .authenticationFailed)) ∧
      last.rightSaid = [.authReject .unknownIdentity] ∧ ¬ Matching last := by
  refine ⟨_, rfl, rfl, rfl, rfl, ?_⟩
  rintro ⟨result, outcome, ⟨⟩, ⟨⟩, _, rejected⟩
  cases (rejected .unknownIdentity).mpr List.mem_cons_self

end KrotRelay.Guarantees
