import KrotRelay.Guarantees.HandshakeAgreement

/-!
# Handshakes with several relays, some of them malicious

Any number of connections at once. The end of a connection is either honest, and then runs
`finish_auth` or `perform`, or it is in the attacker's hand, who sends what they like there.
Between two honest ends nobody interferes: the client pins the relay's certificate. What
the attacker cannot do is stated as a condition on their steps: no signature under an honest
key that its holder has not made, no guess of a random nonce.

Observed only: how far each end has got, what honest clients have signed, the nonces that
honest relays drew and those the attacker put into challenges.
-/
namespace KrotRelay.Guarantees
open Source Lib List
open Function (update update_self update_of_ne)

section Signer

/-- How far `finish_auth` has got with signing. -/
inductive SignerStage where
  | fresh
  | challenged (nonce : Nonce)
  deriving DecidableEq

def signerNext (stage : SignerStage) : (call : ClientCall) → call.Reply → SignerStage
  | .readFrame, .ok (.authChallenge nonce) =>
    match stage with
    | .fresh => .challenged nonce
    | _ => stage
  | _, _ => stage

/-- A signature is written only for the challenge that was read first. -/
def signerAllows (crates : ClientCrates) (identity : Identity) (stage : SignerStage) :
    ClientCall → Prop
  | .writeFrame (.authResponse signature) =>
    (∃ pubkey, identity.pubkey crates = .ok pubkey) ∧
      ∃ nonce key, stage = .challenged nonce ∧ signature = signChallenge crates.ed25519 key nonce
  | _ => True

def signer (crates : ClientCrates) (identity : Identity) :
    Discipline clientInterface SignerStage where
  allowed := signerAllows crates identity
  possible := fun _ _ => True
  next := signerNext

/-- Whatever the stream gives it, `finish_auth` signs only what it was challenged with. -/
theorem finishAuth_follows (crates : ClientCrates) (identity : Identity) :
    Follows (signer crates identity) (fun _ _ => True) .fresh
      (Client.finishAuth crates identity).run := by
  unfold Client.finishAuth
  refine And.intro trivial fun reply _ => ?_
  cases reply with
  | error detail => trivial
  | ok _ =>
    cases readable : identity.pubkey crates with
    | error problem => trivial
    | ok pubkey =>
      refine And.intro trivial fun reply _ => ?_
      cases reply with
      | error detail => trivial
      | ok _ =>
        refine And.intro trivial fun reply _ => ?_
        cases reply with
        | error detail => trivial
        | ok frame =>
          cases frame with
          | authChallenge nonce =>
            cases identity.signingKey crates with
            | error problem => trivial
            | ok key =>
              refine And.intro ⟨⟨pubkey, readable⟩, nonce, key, rfl, rfl⟩ fun reply _ => ?_
              cases reply with
              | error detail => trivial
              | ok _ =>
                refine And.intro trivial fun reply _ => ?_
                cases reply with
                | error detail => trivial
                | ok frame => cases frame <;> trivial
          | _ =>
            -- `read_reject` looks at one more frame
            refine And.intro trivial fun reply _ => ?_
            cases reply with
            | error detail => trivial
            | ok frame => cases frame <;> trivial

end Signer

section Verifier

/-- How far `perform` has got with an authentication. -/
inductive VerifierStage where
  | fresh
  | known (pubkey : PubKey)
  | drawn (pubkey : PubKey) (nonce : Nonce)
  | challenged (pubkey : PubKey) (nonce : Nonce)
  | answered (pubkey : PubKey) (nonce : Nonce) (signature : Signature)
  deriving DecidableEq

/-- The nonce the relay drew for the connection. -/
def VerifierStage.nonce? : VerifierStage → Option Nonce
  | .fresh | .known _ => none
  | .drawn _ nonce | .challenged _ nonce | .answered _ nonce _ => some nonce

def verifierNext (stage : VerifierStage) : (call : Call) → call.Reply → VerifierStage
  | .keysGet pubkey, some _ =>
    match stage with
    | .fresh => .known pubkey
    | _ => stage
  | .freshNonce, nonce =>
    match stage with
    | .known pubkey => .drawn pubkey nonce
    | _ => stage
  | .writeFrame (.authChallenge _), _ =>
    match stage with
    | .drawn pubkey nonce => .challenged pubkey nonce
    | _ => stage
  | .readFrame, .ok (.authResponse signature) =>
    match stage with
    | .challenged pubkey nonce => .answered pubkey nonce signature
    | _ => stage
  | _, _ => stage

/-- A challenge is written only with the nonce that was drawn for it, and a nonce is drawn
only once. -/
def verifierAllows (stage : VerifierStage) : Call → Prop
  | .writeFrame (.authChallenge nonce) => ∃ pubkey, stage = .drawn pubkey nonce
  | .freshNonce => ∃ pubkey, stage = .known pubkey
  | _ => True

def verifier : Discipline relayInterface VerifierStage where
  allowed := verifierAllows
  possible := fun _ _ => True
  next := verifierNext

/-- An authenticated outcome rests on a signature of the challenge. -/
def Verified (ed : Ed25519) (result : Except ServerError HandshakeOutcome)
    (stage : VerifierStage) : Prop :=
  ∀ ok, result = .ok (.auth ok) → ∃ nonce signature, stage = .answered ok.pubkey nonce signature ∧
      verifyChallenge ed ok.pubkey nonce signature = true

variable (ed : Ed25519) (base64 : PubKey → String)

theorem verified_error (problem : ServerError) (stage : VerifierStage) :
    Verified ed (.error problem) stage := by
  intro ok success
  cases success

theorem verified_failed (code : ErrorCode) (stage : VerifierStage) :
    Verified ed (.ok (.failed code)) stage := by
  intro ok success
  cases success

theorem verified_enrolled (enrolled : Bool) (stage : VerifierStage) :
    Verified ed (.ok (.enrollmentDone enrolled)) stage := by
  intro ok success
  cases success

private theorem authReject_verified (code : ErrorCode) (stage : VerifierStage) :
    Follows verifier (Verified ed) stage (authReject code).run :=
  follows_write_bind _ trivial (fun _ => verified_error ed _ _) (verified_failed ed _ _)

theorem handleAuth_verified (pubkey : PubKey) : Follows verifier (Verified ed) .fresh
      (handleAuth ⟨verifyChallenge ed, base64⟩ pubkey).run := by
  refine follows_ask trivial ?_
  rintro (_ | entry) _
  · exact authReject_verified ed _ _
  · refine follows_ask ⟨pubkey, rfl⟩ fun nonce _ => ?_
    refine follows_write_bind _ ⟨pubkey, rfl⟩ (fun _ => verified_error ed _ _) ?_
    refine follows_read trivial (fun _ => verified_error ed _ _) fun frame => ?_
    cases frame with
    | authResponse signature =>
      dsimp only
      split
      · exact authReject_verified ed _ _
      · rename_i passed
        refine follows_ask trivial fun sessionId _ => ?_
        refine follows_write_bind _ trivial (fun _ => verified_error ed _ _) ?_
        rintro ok success
        cases success
        exact ⟨nonce, signature, rfl, by simpa using passed⟩
    | _ => exact authReject_verified ed _ _

theorem perform_verified :
    Follows verifier (Verified ed) .fresh (perform ⟨verifyChallenge ed, base64⟩).run := by
  refine follows_ask trivial ?_
  rintro (detail | byte) _
  · exact verified_error ed _ _
  · dsimp only
    split
    · exact verified_failed ed _ _
    · refine follows_read trivial (fun _ => verified_error ed _ _) fun frame => ?_
      cases frame with
      | enroll adminToken pubkey labelHint =>
        refine follows_ask trivial ?_
        rintro (detail | ⟨⟩) _
        · exact follows_write_bind _ trivial (fun _ => verified_error ed _ _)
            (verified_enrolled ed _ _)
        · refine follows_ask trivial fun now _ => ?_
          refine follows_ask trivial ?_
          rintro (detail | stored) _
          · exact verified_error ed _ _
          · exact follows_write_bind _ trivial (fun _ => verified_error ed _ _)
              (verified_enrolled ed _ _)
      | authRequest pubkey => exact handleAuth_verified ed base64 pubkey
      | _ => exact follows_ask trivial fun _ _ => verified_failed ed _ _
    · exact verified_failed ed _ _

end Verifier

/-- Who is at the ends of the connections: an honest client with its identity, an honest
relay by number, or nobody honest. -/
structure AuthNetwork where
  crates : ClientCrates
  base64 : PubKey → String
  clientEnd : Connection → Option Identity
  relayEnd : Connection → Option Nat
  /-- the keys whose private half the attacker does not have -/
  honest : PubKey → Bool

/-- An honest client's signature: where it was made, under which key, for which nonce. -/
structure SignedChallenge where
  connection : Connection
  pubkey : PubKey
  nonce : Nonce
  signature : Signature
  deriving DecidableEq

structure AuthState where
  clients : Connection → ClientProgram
  relays : Connection → ServerProgram
  toClient : Connection → List ServerFrame
  toRelay : Connection → List Upstream
  signers : Connection → SignerStage
  verifiers : Connection → VerifierStage
  signed : List SignedChallenge
  drawn : List Nonce
  offered : List Nonce

inductive AuthEvent where
  /-- an honest client goes on; the flag says that its stream has ended -/
  | client (connection : Connection) (ended : Bool)
  /-- an honest relay goes on, with its key index and random values of the moment -/
  | relay (connection : Connection) (entries : HashMap PubKey AuthorizedEntry) (nonce : Nonce)
      (sessionId : SessionId) (ended : Bool)
  /-- the attacker writes to a client that is connected to them -/
  | sendClient (connection : Connection) (frame : ServerFrame)
  /-- the attacker writes to a relay they are connected to -/
  | sendRelay (connection : Connection) (message : Upstream)

namespace AuthNetwork
variable (net : AuthNetwork)

def start : AuthState where
  clients := fun connection =>
    match net.clientEnd connection with
    | some identity => (Client.finishAuth net.crates identity).run
    | none => .ret (.error (.transport "no client"))
  relays := fun _ => (perform ⟨verifyChallenge net.crates.ed25519, net.base64⟩).run
  toClient := fun _ => []
  toRelay := fun _ => []
  signers := fun _ => .fresh
  verifiers := fun _ => .fresh
  signed := []
  drawn := []
  offered := []

/-- What a client signs by writing a response. -/
def signs (identity : Identity) (connection : Connection) (stage : SignerStage) :
    ClientCall → List SignedChallenge
  | .writeFrame (.authResponse signature) =>
    match stage, identity.pubkey net.crates with
    | .challenged nonce, .ok pubkey => [⟨connection, pubkey, nonce, signature⟩]
    | _, _ => []
  | _ => []

def draws (nonce : Nonce) : Call → List Nonce
  | .freshNonce => [nonce]
  | _ => []

def offers : ServerFrame → List Nonce
  | .authChallenge nonce => [nonce]
  | _ => []

def step (state : AuthState) : AuthEvent → Option AuthState
  | .client connection ended =>
    match net.clientEnd connection, state.clients connection with
    | some identity, .call call next =>
      (clientReply call (state.toClient connection) ended).map fun (reply, rest, said) =>
        { state with
          clients := update state.clients connection (next reply)
          signers := update state.signers connection
            (signerNext (state.signers connection) call reply)
          toClient := update state.toClient connection rest
          toRelay := update state.toRelay connection (state.toRelay connection ++ said)
          signed := state.signed ++ net.signs identity connection (state.signers connection) call }
    | _, _ => none
  | .relay connection entries nonce sessionId ended =>
    match net.relayEnd connection, state.relays connection with
    | some _, .call call next =>
      (serverReply entries nonce sessionId call (state.toRelay connection) ended).map
        fun (reply, rest, said) =>
        { state with
          relays := update state.relays connection (next reply)
          verifiers := update state.verifiers connection
            (verifierNext (state.verifiers connection) call reply)
          toRelay := update state.toRelay connection rest
          toClient := update state.toClient connection (state.toClient connection ++ said)
          drawn := state.drawn ++ draws nonce call }
    | _, _ => none
  | .sendClient connection frame =>
    if (net.relayEnd connection).isSome then none
    else some { state with
      toClient := update state.toClient connection (state.toClient connection ++ [frame])
      offered := state.offered ++ offers frame }
  | .sendRelay connection message =>
    if (net.clientEnd connection).isSome then none
    else some { state with
      toRelay := update state.toRelay connection (state.toRelay connection ++ [message]) }

/-- Random nonces are distinct, and the attacker has not guessed them. -/
def drawsNew (state : AuthState) : AuthEvent → Bool
  | .relay connection _ nonce _ _ =>
    match state.relays connection with
    | .call .freshNonce _ => !state.drawn.contains nonce && !state.offered.contains nonce
    | _ => true
  | _ => true

/-- Ed25519 is unforgeable: a signature that passes under an honest key for the nonce of a
connection was made for that nonce by the holder of the key. -/
def unforged (state : AuthState) : AuthEvent → Bool
  | .relay connection _ _ _ _ =>
    match state.verifiers connection, state.toRelay connection with
    | .challenged pubkey nonce, .frame (.authResponse signature) :: _ =>
      !net.honest pubkey || !verifyChallenge net.crates.ed25519 pubkey nonce signature ||
        state.signed.any fun made => made.pubkey == pubkey && made.nonce == nonce
    | _, _ => true
  | _ => true

/-- Ed25519 is strongly unforgeable: what passes is a signature the holder has made. -/
def unaltered (state : AuthState) : AuthEvent → Bool
  | .relay connection _ _ _ _ =>
    match state.verifiers connection, state.toRelay connection with
    | .challenged pubkey nonce, .frame (.authResponse signature) :: _ =>
      !net.honest pubkey || !verifyChallenge net.crates.ed25519 pubkey nonce signature ||
        state.signed.any fun made => made.nonce == nonce && made.signature == signature
    | _, _ => true
  | _ => true

/-- The signatures that honest clients make for different nonces are different. -/
def signsApart (state : AuthState) : AuthEvent → Bool
  | .client connection _ =>
    match net.clientEnd connection, state.clients connection with
    | some identity, .call call _ =>
      (net.signs identity connection (state.signers connection) call).all fun made =>
        state.signed.all fun other => other.signature != made.signature || other.nonce == made.nonce
    | _, _ => true
  | _ => true

/-- The attacker does not pass on a challenge of an honest relay as their own. -/
def ownChallenge (state : AuthState) : AuthEvent → Bool
  | .sendClient _ (.authChallenge nonce) => !state.drawn.contains nonce
  | _ => true

/-- Where a challenge comes from that a client reads on a connection. -/
def Origin (state : AuthState) (connection : Connection) (nonce : Nonce) : Prop :=
  (net.relayEnd connection).isSome = true ∧ (state.verifiers connection).nonce? = some nonce ∨
    (net.relayEnd connection).isSome = false ∧ nonce ∈ state.offered

theorem mem_signs {net : AuthNetwork} {identity : Identity} {conn : Connection}
    {stage : SignerStage} {call : ClientCall} {made : SignedChallenge}
    (mem : made ∈ net.signs identity conn stage call) :
    made.connection = conn ∧ stage = .challenged made.nonce ∧
      identity.pubkey net.crates = .ok made.pubkey := by
  cases call with
  | writeFrame frame =>
    cases frame with
    | authResponse signature =>
      simp only [signs] at mem
      split at mem
      · rename_i nonce pubkey readable
        cases mem_singleton.mp mem
        exact ⟨rfl, rfl, readable⟩
      · cases mem
    | _ => cases mem
  | _ => cases mem

theorem mem_draws {nonce found : Nonce} {call : Call} (mem : found ∈ draws nonce call) :
    call = .freshNonce ∧ found = nonce := by
  cases call with
  | freshNonce => exact ⟨rfl, mem_singleton.mp mem⟩
  | _ => cases mem

theorem mem_offers {nonce : Nonce} {frame : ServerFrame} (mem : nonce ∈ offers frame) :
    frame = .authChallenge nonce := by
  cases frame with
  | authChallenge => rw [mem_singleton.mp mem]
  | _ => cases mem

end AuthNetwork

section Replies

theorem verifierNext_keeps {stage : VerifierStage} {nonce : Nonce}
    (held : stage.nonce? = some nonce) (call : Call) (reply : call.Reply) :
    (verifierNext stage call reply).nonce? = some nonce := by
  unfold verifierNext
  split <;> first | exact held | (split <;> first | exact held | cases held)

variable {entries : HashMap PubKey AuthorizedEntry} {drawn : Nonce} {sessionId : SessionId}
  {call : Call} {inbox rest : List Upstream} {ended : Bool} {reply : call.Reply}
  {said : List ServerFrame} {stage : VerifierStage}

section
variable (replied : serverReply entries drawn sessionId call inbox ended = some (reply, rest, said))
include replied

/-- A relay gets a nonce by drawing it. -/
theorem verifierNext_nonce {nonce : Nonce} (holds : (verifierNext stage call reply).nonce? = some nonce) :
    stage.nonce? = some nonce ∨ call = .freshNonce ∧ nonce = drawn := by
  cases call with
  | keysGet pubkey =>
    cases replied
    left
    revert holds
    cases entries.lookup pubkey <;> cases stage <;> exact id
  | freshNonce =>
    cases replied
    cases stage with
    | known =>
      right
      cases holds
      exact ⟨rfl, rfl⟩
    | _ => exact .inl holds
  | writeFrame frame =>
    cases replied
    left
    revert holds
    cases frame <;> cases stage <;> exact id
  | readFrame =>
    left
    revert holds
    cases reply with
    | error => exact id
    | ok frame => cases frame <;> cases stage <;> exact id
  | _ => exact .inl holds

/-- A relay gets a signature by reading it, in answer to its challenge. -/
theorem verifierNext_answered {pubkey : PubKey} {nonce : Nonce} {signature : Signature}
    (answered : verifierNext stage call reply = .answered pubkey nonce signature) :
    stage = .answered pubkey nonce signature ∨
      stage = .challenged pubkey nonce ∧ inbox = .frame (.authResponse signature) :: rest := by
  cases call with
  | keysGet asked =>
    cases replied
    left
    revert answered
    cases entries.lookup asked <;> cases stage <;> first | exact id | exact nofun
  | freshNonce =>
    left
    revert answered
    cases stage <;> first | exact id | exact nofun
  | writeFrame frame =>
    left
    revert answered
    cases frame <;> cases stage <;> first | exact id | exact nofun
  | readFrame =>
    cases inbox with
    | nil =>
      cases ended with
      | false => cases replied
      | true =>
        cases replied
        exact .inl answered
    | cons message =>
      cases message with
      | kind => cases replied
      | frame frame =>
        cases replied
        cases frame with
        | authResponse =>
          cases stage with
          | challenged =>
            cases answered
            exact .inr ⟨rfl, rfl⟩
          | _ => exact .inl answered
        | _ => exact .inl answered
  | _ => exact .inl answered

/-- A frame the relay puts on the stream is the one it writes. -/
theorem serverReply_said {frame : ServerFrame} (mem : frame ∈ said) : call = .writeFrame frame := by
  cases call with
  | writeFrame =>
    cases replied
    rw [mem_singleton.mp mem]
  | readKind | readFrame =>
    cases inbox with
    | nil =>
      cases ended <;> cases replied
      cases mem
    | cons message =>
      cases message <;> cases replied
      cases mem
  | keysGet | freshNonce | freshSessionId =>
    cases replied
    cases mem
  | _ => cases replied

end

end Replies

section ClientReplies
variable {call : ClientCall} {inbox rest : List ServerFrame} {ended : Bool} {reply : call.Reply}
  {said : List Upstream} {stage : SignerStage}

/-- Nothing new appears in what is left to read. -/
theorem clientReply_rest (replied : clientReply call inbox ended = some (reply, rest, said))
    {frame : ServerFrame} (mem : frame ∈ rest) : frame ∈ inbox := by
  cases call with
  | readFrame =>
    cases inbox with
    | nil =>
      cases ended <;> cases replied
      cases mem
    | cons =>
      cases replied
      exact mem_cons_of_mem _ mem
  | readFrameWithin => cases replied
  | _ =>
    cases replied
    exact mem

/-- A client is challenged by reading the challenge. -/
theorem signerNext_challenged (replied : clientReply call inbox ended = some (reply, rest, said))
    {nonce : Nonce} (challenged : signerNext stage call reply = .challenged nonce) :
    stage = .challenged nonce ∨ .authChallenge nonce ∈ inbox := by
  cases call with
  | readFrame =>
    cases inbox with
    | nil =>
      cases ended with
      | false => cases replied
      | true =>
        cases replied
        exact .inl challenged
    | cons frame =>
      cases replied
      cases frame with
      | authChallenge =>
        cases stage with
        | fresh =>
          cases challenged
          exact .inr mem_cons_self
        | challenged => exact .inl challenged
      | _ => exact .inl challenged
  | _ => exact .inl challenged

end ClientReplies

/-- Each signature can be traced back to the challenge it was made for, and each challenge
to the end of the connection that sent it. -/
structure Traced (net : AuthNetwork) (state : AuthState) : Prop where
  signing : ∀ connection identity, net.clientEnd connection = some identity →
    Follows (signer net.crates identity) (fun _ _ => True) (state.signers connection)
      (state.clients connection)
  verifying : ∀ connection, Follows verifier (Verified net.crates.ed25519)
    (state.verifiers connection) (state.relays connection)
  underWay : ∀ connection nonce, .authChallenge nonce ∈ state.toClient connection →
    net.Origin state connection nonce
  read : ∀ connection nonce, state.signers connection = .challenged nonce →
    net.Origin state connection nonce
  made : ∀ made ∈ state.signed, net.Origin state made.connection made.nonce ∧
    ∃ identity, net.clientEnd made.connection = some identity ∧
      identity.pubkey net.crates = .ok made.pubkey
  logged : ∀ connection nonce, (state.verifiers connection).nonce? = some nonce →
    nonce ∈ state.drawn
  apart : ∀ first second nonce, (state.verifiers first).nonce? = some nonce →
    (state.verifiers second).nonce? = some nonce → first = second
  guessed : ∀ nonce ∈ state.offered, nonce ∉ state.drawn
  backed : ∀ connection pubkey nonce signature,
    state.verifiers connection = .answered pubkey nonce signature → net.honest pubkey = true →
    verifyChallenge net.crates.ed25519 pubkey nonce signature = true →
    ∃ made ∈ state.signed, made.pubkey = pubkey ∧ made.nonce = nonce

theorem traced_start (net : AuthNetwork) : Traced net net.start where
  signing := by
    intro conn identity ends
    simp only [AuthNetwork.start, ends]
    exact finishAuth_follows net.crates identity
  verifying := fun _ => perform_verified net.crates.ed25519 net.base64
  underWay := fun _ _ mem => nomatch mem
  read := fun _ _ challenged => nomatch challenged
  made := fun _ mem => nomatch mem
  logged := fun _ _ drawn => nomatch drawn
  apart := fun _ _ _ drawn => nomatch drawn
  guessed := fun _ mem => nomatch mem
  backed := fun _ _ _ _ answered => nomatch answered

/-- An origin stays one while relays keep their nonces and offers accumulate. -/
theorem AuthNetwork.Origin.mono {net : AuthNetwork} {state next : AuthState}
    {conn : Connection} {nonce : Nonce} (origin : net.Origin state conn nonce)
    (keeps : ∀ held, (state.verifiers conn).nonce? = some held →
      (next.verifiers conn).nonce? = some held)
    (grows : ∀ offered ∈ state.offered, offered ∈ next.offered) : net.Origin next conn nonce := by
  rcases origin with ⟨honest, holds⟩ | ⟨hostile, offered⟩
  · exact .inl ⟨honest, keeps nonce holds⟩
  · exact .inr ⟨hostile, grows nonce offered⟩

namespace Traced
variable {net : AuthNetwork} {state next : AuthState} (traced : Traced net state)
include traced

theorem client (conn : Connection) (ended : Bool)
    (step : net.step state (.client conn ended) = some next) : Traced net next := by
  simp only [AuthNetwork.step] at step
  split at step
  · rename_i identity call rest ends prog
    obtain ⟨⟨reply, left, said⟩, replied, rfl⟩ := Option.map_eq_some_iff.mp step
    have follows := traced.signing conn identity ends
    rw [prog] at follows
    have onward : Follows (signer net.crates identity) (fun _ _ => True)
        (signerNext (state.signers conn) call reply) (rest reply) :=
      follows.2 reply trivial
    refine ⟨?_, traced.verifying, ?_, ?_, ?_, traced.logged, traced.apart, traced.guessed, ?_⟩
    · intro other known there
      by_cases own : other = conn
      · subst own
        cases ends.symm.trans there
        simpa using onward
      · simpa [own] using traced.signing other known there
    · intro other nonce mem
      refine (traced.underWay other nonce ?_).mono (fun _ => id) fun _ => id
      by_cases own : other = conn
      · subst own
        exact clientReply_rest replied (by simpa using mem)
      · simpa [own] using mem
    · intro other nonce challenged
      refine @AuthNetwork.Origin.mono net state _ _ _ ?_ (fun _ => id) fun _ => id
      by_cases own : other = conn
      · subst own
        rcases signerNext_challenged replied (by simpa using challenged) with already | now
        · exact traced.read other nonce already
        · exact traced.underWay other nonce now
      · exact traced.read other nonce (by simpa [own] using challenged)
    · intro made mem
      rcases mem_append.mp mem with mem | mem
      · obtain ⟨origin, holder⟩ := traced.made made mem
        exact ⟨origin.mono (fun _ => id) fun _ => id, holder⟩
      · obtain ⟨rfl, stage, readable⟩ := AuthNetwork.mem_signs mem
        exact ⟨(traced.read _ _ stage).mono (fun _ => id) fun _ => id, identity, ends, readable⟩
    · intro other pubkey nonce signature answered honest passes
      obtain ⟨made, mem, facts⟩ :=
        traced.backed other pubkey nonce signature answered honest passes
      exact ⟨made, mem_append_left _ mem, facts⟩
  · cases step

theorem relay (conn : Connection) (entries : HashMap PubKey AuthorizedEntry) (nonce : Nonce)
    (sessionId : SessionId) (ended : Bool)
    (fresh : AuthNetwork.drawsNew state (.relay conn entries nonce sessionId ended) = true)
    (unforged : net.unforged state (.relay conn entries nonce sessionId ended) = true)
    (step : net.step state (.relay conn entries nonce sessionId ended) = some next) :
    Traced net next := by
  simp only [AuthNetwork.step] at step
  split at step
  · rename_i number call rest ends prog
    obtain ⟨⟨reply, left, said⟩, replied, rfl⟩ := Option.map_eq_some_iff.mp step
    have follows := traced.verifying conn
    rw [prog] at follows
    have onward : Follows verifier (Verified net.crates.ed25519)
        (verifierNext (state.verifiers conn) call reply) (rest reply) :=
      follows.2 reply trivial
    have keeps (other : Connection) (held : Nonce)
        (holds : (state.verifiers other).nonce? = some held) :
        (update state.verifiers conn
          (verifierNext (state.verifiers conn) call reply) other).nonce? = some held := by
      by_cases own : other = conn
      · subst own
        rw [update_self]
        exact verifierNext_keeps holds call reply
      · rwa [update_of_ne own]
    -- a nonce held after the step was held before, or is drawn by it and new
    have held (other : Connection) (found : Nonce) (holds : (update state.verifiers conn
          (verifierNext (state.verifiers conn) call reply) other).nonce? = some found) :
        (state.verifiers other).nonce? = some found ∨
          other = conn ∧ call = .freshNonce ∧ found = nonce := by
      by_cases own : other = conn
      · subst own
        rw [update_self] at holds
        exact (verifierNext_nonce replied holds).imp_right fun drawn => ⟨rfl, drawn⟩
      · rw [update_of_ne own] at holds
        exact .inl holds
    have new (draws : call = .freshNonce) : nonce ∉ state.drawn ∧ nonce ∉ state.offered := by
      subst draws
      simpa [AuthNetwork.drawsNew, prog] using fresh
    refine ⟨traced.signing, ?_, ?_, ?_, ?_, ?_, ?_, ?_, ?_⟩
    · intro other
      by_cases own : other = conn
      · subst own
        simpa using onward
      · simpa [own] using traced.verifying other
    · intro other challenge mem
      dsimp only at mem
      by_cases own : other = conn
      · subst own
        rw [update_self] at mem
        rcases mem_append.mp mem with mem | mem
        · exact (traced.underWay other challenge mem).mono (keeps other) fun _ => id
        · -- the relay writes the nonce it has drawn
          cases serverReply_said replied mem
          obtain ⟨pubkey, stage⟩ := follows.1
          have holds : (state.verifiers other).nonce? = some challenge := by rw [stage]; rfl
          exact .inl ⟨by rw [ends]; rfl, keeps other challenge holds⟩
      · rw [update_of_ne own] at mem
        exact (traced.underWay other challenge mem).mono (keeps other) fun _ => id
    · intro other challenge challenged
      exact (traced.read other challenge challenged).mono (keeps other) fun _ => id
    · intro made mem
      obtain ⟨origin, holder⟩ := traced.made made mem
      exact ⟨origin.mono (keeps _) fun _ => id, holder⟩
    · intro other found holds
      rcases held other found holds with before | ⟨_, rfl, rfl⟩
      · exact mem_append_left _ (traced.logged other found before)
      · exact mem_append_right _ mem_cons_self
    · intro first second found holds also
      rcases held first found holds with before | ⟨rfl, draws, rfl⟩
      · rcases held second found also with earlier | ⟨rfl, draws, rfl⟩
        · exact traced.apart first second found before earlier
        · exact absurd (traced.logged first found before) (new draws).1
      · rcases held second found also with earlier | ⟨rfl, _, _⟩
        · exact absurd (traced.logged second found earlier) (new draws).1
        · rfl
    · intro found offered drawn
      rcases mem_append.mp drawn with drawn | drawn
      · exact traced.guessed found offered drawn
      · obtain ⟨draws, rfl⟩ := AuthNetwork.mem_draws drawn
        exact (new draws).2 offered
    · intro other pubkey found signature answered honest passes
      dsimp only at answered
      by_cases own : other = conn
      · subst own
        rw [update_self] at answered
        rcases verifierNext_answered replied answered with already | ⟨stage, inbox⟩
        · exact traced.backed other pubkey found signature already honest passes
        · simpa [AuthNetwork.unforged, stage, inbox, honest, passes] using unforged
      · rw [update_of_ne own] at answered
        exact traced.backed other pubkey found signature answered honest passes
  · cases step

theorem sendClient (conn : Connection)
    (own : AuthNetwork.ownChallenge state (.sendClient conn frame) = true)
    (step : net.step state (.sendClient conn frame) = some next) : Traced net next := by
  simp only [AuthNetwork.step] at step
  split at step
  · cases step
  · rename_i hostile
    cases step
    have hostile : (net.relayEnd conn).isSome = false := by simpa using hostile
    have grows : ∀ offered ∈ state.offered, offered ∈ state.offered ++ AuthNetwork.offers frame :=
      fun _ => mem_append_left _
    refine ⟨traced.signing, traced.verifying, ?_, ?_, ?_, traced.logged, traced.apart, ?_,
      traced.backed⟩
    · intro other nonce mem
      dsimp only at mem
      by_cases here : other = conn
      · subst here
        rw [update_self] at mem
        rcases mem_append.mp mem with mem | mem
        · exact (traced.underWay other nonce mem).mono (fun _ => id) grows
        · cases mem_singleton.mp mem
          exact .inr ⟨hostile, mem_append_right _ mem_cons_self⟩
      · rw [update_of_ne here] at mem
        exact (traced.underWay other nonce mem).mono (fun _ => id) grows
    · intro other nonce challenged
      exact (traced.read other nonce challenged).mono (fun _ => id) grows
    · intro made mem
      obtain ⟨origin, holder⟩ := traced.made made mem
      exact ⟨origin.mono (fun _ => id) grows, holder⟩
    · intro nonce offered
      rcases mem_append.mp offered with offered | offered
      · exact traced.guessed nonce offered
      · cases AuthNetwork.mem_offers offered
        simpa [AuthNetwork.ownChallenge] using own

theorem sendRelay (conn : Connection)
    (step : net.step state (.sendRelay conn message) = some next) : Traced net next := by
  simp only [AuthNetwork.step] at step
  split at step
  · cases step
  · cases step
    exact ⟨traced.signing, traced.verifying, traced.underWay, traced.read, traced.made,
      traced.logged, traced.apart, traced.guessed, traced.backed⟩

/-- A relay that has authenticated an honest key did so on the connection of its holder. -/
theorem authenticated {conn : Connection} {ok : HandshakeOk}
    (authenticates : state.relays conn = .ret (.ok (.auth ok)))
    (honest : net.honest ok.pubkey = true) :
    ∃ nonce signature, state.verifiers conn = .answered ok.pubkey nonce signature ∧
      verifyChallenge net.crates.ed25519 ok.pubkey nonce signature = true ∧
      ∃ made ∈ state.signed, made.connection = conn ∧ made.pubkey = ok.pubkey ∧
        made.nonce = nonce := by
  have follows := traced.verifying conn
  rw [authenticates] at follows
  obtain ⟨nonce, signature, stage, passes⟩ := follows ok rfl
  obtain ⟨made, mem, holder, signed⟩ :=
    traced.backed conn ok.pubkey nonce signature stage honest passes
  have holds : (state.verifiers conn).nonce? = some nonce := by rw [stage]; rfl
  refine ⟨nonce, signature, stage, passes, made, mem, ?_, holder, signed⟩
  rcases (traced.made made mem).1 with ⟨_, held⟩ | ⟨_, offered⟩
  · exact traced.apart _ _ nonce (signed ▸ held) holds
  · exact absurd (traced.logged conn nonce holds) (traced.guessed nonce (signed ▸ offered))

theorem step {event : AuthEvent}
    (assumed : AuthNetwork.drawsNew state event = true ∧ net.unforged state event = true)
    (own : AuthNetwork.ownChallenge state event = true)
    (stepped : net.step state event = some next) : Traced net next := by
  cases event with
  | client conn ended => exact traced.client conn ended stepped
  | relay conn entries nonce sessionId ended =>
    exact traced.relay conn entries nonce sessionId ended assumed.1 assumed.2 stepped
  | sendClient conn frame => exact traced.sendClient conn own stepped
  | sendRelay conn message => exact traced.sendRelay conn stepped

end Traced

/-- Every signature that passes was made for its nonce, and for no other. -/
structure SignedOnce (net : AuthNetwork) (state : AuthState) : Prop where
  made : ∀ connection pubkey nonce signature,
    state.verifiers connection = .answered pubkey nonce signature → net.honest pubkey = true →
    verifyChallenge net.crates.ed25519 pubkey nonce signature = true →
    ∃ made ∈ state.signed, made.nonce = nonce ∧ made.signature = signature
  apart : ∀ made ∈ state.signed, ∀ other ∈ state.signed, other.signature = made.signature →
    other.nonce = made.nonce

theorem SignedOnce.step {net : AuthNetwork} {state next : AuthState} {event : AuthEvent}
    (holds : SignedOnce net state)
    (assumed : net.unaltered state event = true ∧ net.signsApart state event = true)
    (step : net.step state event = some next) : SignedOnce net next := by
  cases event with
  | client conn ended =>
    simp only [AuthNetwork.step] at step
    split at step
    · rename_i identity call rest ends prog
      obtain ⟨_, _, rfl⟩ := Option.map_eq_some_iff.mp step
      have fresh : ∀ made ∈ net.signs identity conn (state.signers conn) call,
          ∀ other ∈ state.signed, other.signature = made.signature → other.nonce = made.nonce := by
        simpa [AuthNetwork.signsApart, ends, prog, or_iff_not_imp_left] using assumed.2
      refine ⟨fun other pubkey nonce signature answered honest passes => ?_,
        fun made mem other also same => ?_⟩
      · obtain ⟨made, mem, facts⟩ := holds.made other pubkey nonce signature answered honest passes
        exact ⟨made, mem_append_left _ mem, facts⟩
      · rcases mem_append.mp mem with old | new <;> rcases mem_append.mp also with older | newer
        · exact holds.apart made old other older same
        · exact (fresh other newer made old same.symm).symm
        · exact fresh made new other older same
        · have stage := (AuthNetwork.mem_signs new).2.1
          exact SignerStage.challenged.inj ((AuthNetwork.mem_signs newer).2.1.symm.trans stage)
    · cases step
  | relay conn entries nonce sessionId ended =>
    simp only [AuthNetwork.step] at step
    split at step
    · obtain ⟨⟨reply, left, said⟩, replied, rfl⟩ := Option.map_eq_some_iff.mp step
      refine ⟨fun other pubkey found signature answered honest passes => ?_, holds.apart⟩
      dsimp only at answered
      by_cases own : other = conn
      · subst own
        rw [update_self] at answered
        rcases verifierNext_answered replied answered with already | ⟨stage, inbox⟩
        · exact holds.made other pubkey found signature already honest passes
        · simpa [AuthNetwork.unaltered, stage, inbox, honest, passes] using assumed.1
      · rw [update_of_ne own] at answered
        exact holds.made other pubkey found signature answered honest passes
    · cases step
  | sendClient | sendRelay =>
    simp only [AuthNetwork.step] at step
    split at step <;> cases step
    exact ⟨holds.made, holds.apart⟩

/-- In every interleaving in which no challenge of an honest relay is passed on: a relay that
authenticates an honest key is connected to its holder, who signed the relay's nonce on
that connection; and no signature is accepted on two connections, if none is made for two
nonces. -/
theorem authentication_agreement (net : AuthNetwork) (events : List AuthEvent) (state : AuthState)
    (assumed : Meets net.step (fun state event =>
      AuthNetwork.drawsNew state event = true ∧ net.unforged state event = true) net.start events)
    (unforwarded : Meets net.step (fun state event =>
      AuthNetwork.ownChallenge state event = true) net.start events)
    (finished : run net.step net.start events = some state) :
    (∀ connection ok, state.relays connection = .ret (.ok (.auth ok)) →
      net.honest ok.pubkey = true →
      ∃ identity nonce, net.clientEnd connection = some identity ∧
        identity.pubkey net.crates = .ok ok.pubkey ∧
        (state.verifiers connection).nonce? = some nonce ∧
        ∃ made ∈ state.signed, made.connection = connection ∧ made.pubkey = ok.pubkey ∧
          made.nonce = nonce) ∧
    (Meets net.step (fun state event => net.unaltered state event = true ∧
      net.signsApart state event = true) net.start events →
    ∀ first second ok other nonce issued signature,
      state.relays first = .ret (.ok (.auth ok)) → state.relays second = .ret (.ok (.auth other)) →
      net.honest ok.pubkey = true → net.honest other.pubkey = true →
      state.verifiers first = .answered ok.pubkey nonce signature →
      state.verifiers second = .answered other.pubkey issued signature → first = second) := by
  have traced : Traced net state :=
    run_meets (Traced net)
      (fun state event next held met stepped => held.step met.1 met.2 stepped)
      (traced_start net) (meets_and assumed unforwarded) finished
  constructor
  · intro connection ok authenticates honest
    obtain ⟨nonce, signature, stage, _, made, member, here, holder, signed⟩ :=
      traced.authenticated authenticates honest
    obtain ⟨identity, ends, readable⟩ := (traced.made made member).2
    exact ⟨identity, nonce, here ▸ ends, holder ▸ readable, by rw [stage]; rfl, made, member, here,
      holder, signed⟩
  · intro once first second ok other nonce issued signature left right honest also stage there
    have once : SignedOnce net state :=
      run_meets (SignedOnce net)
        (fun state event next held met stepped => held.step met stepped)
        (by exact ⟨nofun, nofun⟩) once finished
    obtain ⟨_, _, stageLeft, passes, _⟩ := traced.authenticated left honest
    obtain ⟨_, _, stageRight, passesToo, _⟩ := traced.authenticated right also
    cases stage.symm.trans stageLeft
    cases there.symm.trans stageRight
    obtain ⟨made, signed, rfl, rfl⟩ := once.made first _ _ _ stage honest passes
    obtain ⟨more, signedToo, rfl, same⟩ := once.made second _ _ _ there also passesToo
    rw [once.apart made signed more signedToo same] at there
    exact traced.apart first second made.nonce (by rw [stage]; rfl) (by rw [there]; rfl)

section Federation

def adaIdentity : Identity where
  privateKey := "9d61b19deffd5a60ba844af492ec2cc44449c5697b326919703bac031cae7f60"
  publicKey := "d75a980182b10ab7d54bfed3c964073a0ee172f3daa62325af021a68f707511a"

def adaKey : PubKey :=
  ⟨#v[0xD7, 0x5A, 0x98, 0x01, 0x82, 0xB1, 0x0A, 0xB7, 0xD5, 0x4B, 0xFE, 0xD3, 0xC9, 0x64, 0x07, 0x3A,
    0x0E, 0xE1, 0x72, 0xF3, 0xDA, 0xA6, 0x23, 0x25, 0xAF, 0x02, 0x1A, 0x68, 0xF7, 0x07, 0x51, 0x1A]⟩

/-- One client signs here: its signature is the nonce and its key. -/
def oneSigner : Ed25519 where
  sign := fun _ message =>
    ⟨.ofFn fun i => (message.drop 13 ++ adaKey.bytes.toList).getD i 0⟩
  verify := fun pubkey message signature =>
    signature.bytes.toList == message.drop 13 ++ pubkey.bytes.toList

/-- Ada is connected to a malicious relay (0) and to an honest one (2), the attacker to the
honest one (1). -/
def federation : AuthNetwork where
  crates := { ed25519 := oneSigner, hexDecode := fun text => hexPairs text.toList }
  base64 := fun _ => ""
  clientEnd := fun connection => if connection = ⟨1⟩ then none else some adaIdentity
  relayEnd := fun connection => if connection = ⟨0⟩ then none else some 0
  honest := fun pubkey => pubkey == adaKey

def adaEntries : HashMap PubKey AuthorizedEntry :=
  AList.insert adaKey
    { allowAnySubdomain := true, allowedSubdomains := [], maxConns := none, allowedPorts := none,
      bw := none, quota := none, federation := [], comment := none } ∅

def freshNonce : Nonce := ⟨.replicate 32 9⟩

def relayTurn (connection : Connection) : AuthEvent :=
  .relay connection adaEntries freshNonce ⟨.replicate 16 3⟩ false

/-- Ada authenticates to the honest relay. -/
def adaSignsIn : List AuthEvent :=
  [.client ⟨2⟩ false, .client ⟨2⟩ false] ++ List.replicate 5 (relayTurn ⟨2⟩) ++
    [.client ⟨2⟩ false, .client ⟨2⟩ false] ++ List.replicate 3 (relayTurn ⟨2⟩)

theorem authentication_agreement_ada :
    let state := final federation.step federation.start adaSignsIn
    (∃ ok, state.relays ⟨2⟩ = .ret (.ok (.auth ok)) ∧ ok.pubkey = adaKey) ∧
      (∃ made ∈ state.signed, made.connection = ⟨2⟩ ∧ made.pubkey = adaKey ∧
        made.nonce = freshNonce) ∧
      ∀ other ok, state.relays other = .ret (.ok (.auth ok)) → ok.pubkey = adaKey →
        ∀ nonce, state.verifiers other = .answered ok.pubkey nonce
          (signChallenge oneSigner (.replicate 32 0) freshNonce) → other = ⟨2⟩ := by
  intro state
  -- one run of the two parties, read for every hypothesis
  have evaluated : Meets federation.step (fun state event => AuthNetwork.drawsNew state event = true ∧
        federation.unforged state event = true) federation.start adaSignsIn ∧
      Meets federation.step (fun state event => AuthNetwork.ownChallenge state event = true)
        federation.start adaSignsIn ∧
      Meets federation.step (fun state event => federation.unaltered state event = true ∧
        federation.signsApart state event = true) federation.start adaSignsIn ∧
      (run federation.step federation.start adaSignsIn).isSome = true ∧
      state.verifiers ⟨2⟩ = .answered adaKey freshNonce
        (signChallenge oneSigner (.replicate 32 0) freshNonce) := by
    decide +kernel
  obtain ⟨assumed, unforwarded, once, enabled, own⟩ := evaluated
  have agreement := authentication_agreement federation adaSignsIn state assumed unforwarded
    (run_final enabled)
  have authenticated : state.relays ⟨2⟩ = .ret (.ok (.auth ⟨adaKey, ⟨.replicate 16 3⟩, _⟩)) := rfl
  obtain ⟨_, nonce, _, _, drawn, made, member, here, holder, signed⟩ :=
    agreement.1 ⟨2⟩ _ authenticated (beq_self_eq_true adaKey)
  rw [own] at drawn
  refine ⟨⟨_, authenticated, rfl⟩, ⟨made, member, here, holder,
    signed.trans (Option.some.inj drawn).symm⟩, ?_⟩
  intro other ok also key issued answered
  exact agreement.2 once other ⟨2⟩ ok _ issued freshNonce _ also authenticated
    (by rw [key]; exact beq_self_eq_true adaKey) (beq_self_eq_true adaKey) answered own

/-- The malicious relay asks the honest one for a challenge to Ada's key, passes it on to Ada,
who is connected to the malicious relay, and passes Ada's signature back. -/
def forwarded : List AuthEvent :=
  [.sendRelay ⟨1⟩ (.kind 0x01), .sendRelay ⟨1⟩ (.frame (.authRequest adaKey))] ++
    List.replicate 5 (relayTurn ⟨1⟩) ++
    [.client ⟨0⟩ false, .client ⟨0⟩ false, .sendClient ⟨0⟩ (.authChallenge freshNonce),
      .client ⟨0⟩ false, .client ⟨0⟩ false,
      .sendRelay ⟨1⟩ (.frame (.authResponse
        (signChallenge oneSigner (.replicate 32 0) freshNonce)))] ++
    List.replicate 3 (relayTurn ⟨1⟩)

/-- The honest relay authenticates Ada's key on a connection Ada has nothing to do with. -/
theorem forwarded_challenge_authenticates :
    let state := final federation.step federation.start forwarded
    run federation.step federation.start forwarded = some state ∧
      Meets federation.step (fun state event => AuthNetwork.drawsNew state event = true ∧
        federation.unforged state event = true) federation.start forwarded ∧
      (∃ ok, state.relays ⟨1⟩ = .ret (.ok (.auth ok)) ∧ ok.pubkey = adaKey ∧
        federation.honest ok.pubkey = true) ∧
      federation.clientEnd ⟨1⟩ = none ∧
      (∀ made ∈ state.signed, made.connection ≠ ⟨1⟩) := by
  intro state
  have evaluated : (run federation.step federation.start forwarded).isSome = true ∧
      Meets federation.step (fun state event => AuthNetwork.drawsNew state event = true ∧
        federation.unforged state event = true) federation.start forwarded ∧
      ∀ made ∈ state.signed, made.connection ≠ ⟨1⟩ := by
    decide +kernel
  obtain ⟨enabled, met, elsewhere⟩ := evaluated
  exact ⟨run_final enabled, met, ⟨_, rfl, rfl, beq_self_eq_true adaKey⟩, rfl, elsewhere⟩

end Federation

end KrotRelay.Guarantees
