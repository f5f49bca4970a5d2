import KrotRelay.Source.Handshake

/-!
# The client's side of the Control stream
(krot-client/src/session.rs, tunnel.rs, config.rs; krot-proto/src/auth.rs)

Code of the client as programs over its Control stream: one call for each awaited operation.
Ed25519 and the `hex` crate are third-party; they are parameters.
-/
namespace KrotRelay.Source
open Lib

/-- ed25519-dalek; a key that cannot be decoded verifies nothing. -/
structure Ed25519 where
  sign : Vector UInt8 32 → List UInt8 → Signature
  verify : PubKey → List UInt8 → Signature → Bool

/-- `b"krot-auth-v1\0"`. -/
def authDomainSeparator : List UInt8 :=
  [0x6B, 0x72, 0x6F, 0x74, 0x2D, 0x61, 0x75, 0x74, 0x68, 0x2D, 0x76, 0x31, 0x00]

def signingPayload (nonce : Nonce) : List UInt8 := authDomainSeparator ++ nonce.bytes.toList

def signChallenge (ed : Ed25519) (key : Vector UInt8 32) (nonce : Nonce) : Signature :=
  ed.sign key (signingPayload nonce)

def verifyChallenge (ed : Ed25519) (pubkey : PubKey) (nonce : Nonce) (signature : Signature) :
    Bool :=
  ed.verify pubkey (signingPayload nonce) signature

inductive ClientError where
  | io (detail : String)
  | transport (detail : String)
  | config (detail : String)
  | authRejected (code : ErrorCode)
  | tunnelRejected (code : ErrorCode) (detail : String)
  | registrationTimeout
  | protocol (detail : String)
  deriving DecidableEq

/-- The identity as it is stored: two hexadecimal texts. -/
structure Identity where
  privateKey : String
  publicKey : String
  deriving DecidableEq

/-- What the client's code takes from other crates. -/
structure ClientCrates where
  ed25519 : Ed25519
  hexDecode : String → Except String (List UInt8)

/-- `try_into` of 32 bytes. -/
def toArray32 (bytes : List UInt8) : Option (Vector UInt8 32) :=
  if size : bytes.length = 32 then some ⟨bytes.toArray, by simp [size]⟩ else none

/-- The two accessors of `Identity` differ in the field they name. -/
def decodeKey (crates : ClientCrates) (field text : String) :
    Except ClientError (Vector UInt8 32) :=
  match crates.hexDecode text with
  | .error detail => .error (.config ("bad " ++ field ++ " hex: " ++ detail))
  | .ok bytes =>
    match toArray32 bytes with
    | none => .error (.config (field ++ " not 32 bytes"))
    | some key => .ok key

namespace Identity

def signingKey (crates : ClientCrates) (identity : Identity) :
    Except ClientError (Vector UInt8 32) :=
  decodeKey crates "private_key" identity.privateKey

def pubkey (crates : ClientCrates) (identity : Identity) : Except ClientError PubKey :=
  (decodeKey crates "public_key" identity.publicKey).map PubKey.mk

end Identity

inductive ClientCall where
  | sendKind (kind : StreamKind)
  | writeFrame (frame : ClientFrame)
  | readFrame
  /-- a read under `tokio::time::timeout` -/
  | readFrameWithin (deadline : Duration)

@[reducible] def ClientCall.Reply : ClientCall → Type
  | .sendKind _ => Except String Unit
  | .writeFrame _ => Except String Unit
  | .readFrame => Except String ServerFrame
  | .readFrameWithin _ => Option (Except String ServerFrame)

def clientInterface : Interface where
  Call := ClientCall
  Reply := ClientCall.Reply

abbrev Client (α : Type) := ExceptT ClientError (Prog clientInterface) α

namespace Client

def ask (call : ClientCall) : Client call.Reply :=
  ExceptT.lift (Prog.request (I := clientInterface) call)

/-- `?` on the result of an operation on the stream. -/
def orTransport {α : Type} : Except String α → Client α
  | .ok value => pure value
  | .error detail => throw (.transport detail)

def sendKind (kind : StreamKind) : Client Unit := do
  orTransport (← ask (.sendKind kind))

def writeFrame (frame : ClientFrame) : Client Unit := do
  orTransport (← ask (.writeFrame frame))

def readFrame : Client ServerFrame := do
  orTransport (← ask .readFrame)

/-- `?` on a result of the client's own. -/
def orError {α : Type} : Except ClientError α → Client α
  | .ok value => pure value
  | .error problem => throw problem

/-- The code of one more frame of the stream, if there is one. -/
def readReject : Client (Option ErrorCode) := do
  match ← ask .readFrame with
  | .ok (.authReject code) => pure (some code)
  | .ok (.serverBye code) => pure (some code)
  | _ => pure none

/-- `finish_auth`, up to the session id that makes the `AuthenticatedSession`. -/
def finishAuth (crates : ClientCrates) (identity : Identity) : Client SessionId := do
  sendKind .control
  let pubkey ← orError (identity.pubkey crates)
  writeFrame (.authRequest pubkey)
  match ← readFrame with
  | .authChallenge nonce =>
    let signing ← orError (identity.signingKey crates)
    writeFrame (.authResponse (signChallenge crates.ed25519 signing nonce))
    match ← readFrame with
    | .authOk sessionId => pure sessionId
    | .authReject code => throw (.authRejected code)
    | _ => throw (.protocol "expected AuthOk")
  | _ =>
    match ← readReject with
    | some code => throw (.authRejected code)
    | none => throw (.protocol "expected AuthChallenge")

/-- `enroll` on its connection, up to the line it logs. The inner error is
`ClientError::EnrollRejected`. -/
def enroll (crates : ClientCrates) (identity : Identity) (adminToken : String)
    (labelHint : Option String) : Client (Except ErrorCode String) := do
  sendKind .control
  let pubkey ← orError (identity.pubkey crates)
  writeFrame (.enroll adminToken pubkey labelHint)
  match ← readFrame with
  | .enrollOk authorizedLine => pure (.ok authorizedLine)
  | .enrollRejected code => pure (.error code)
  | _ => throw (.protocol "expected EnrollOk")

def listPeers : Client (List String) := do
  writeFrame .listPeers
  match ← readFrame with
  | .peers relays => pure relays
  | _ => throw (.protocol "expected Peers response")

structure PublishedTunnel where
  tunnelId : TunnelId
  publicUrl : String
  publicPort : Option UInt16
  deriving DecidableEq

/-- consts.rs -/
def registrationDeadline : Duration := 10 * 1000000000

/-- `publish` up to the spawn of its task. -/
def publish (label : String) (kind : TunnelKind) (inspector : Bool)
    (resumeSessionId : Option SessionId) : Client PublishedTunnel := do
  writeFrame (.registerTunnel label kind resumeSessionId inspector)
  match ← ask (.readFrameWithin registrationDeadline) with
  | none => throw .registrationTimeout
  | some reply =>
    match ← orTransport reply with
    | .tunnelRegistered tunnelId publicUrl publicPort =>
      pure { tunnelId, publicUrl, publicPort }
    | .tunnelRejected code detail => throw (.tunnelRejected code detail)
    | _ => throw (.protocol "expected TunnelRegistered")

end Client
end KrotRelay.Source
