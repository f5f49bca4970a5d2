import KrotRelay.Source.ClientSession
import KrotRelay.Source.LocalAuth

/-!
# The client's per-stream proxy
(krot-client/src/proxy.rs, krot-proto/src/stream.rs, krot-transport/src/relay.rs)

`handle_bi_inspected` on one data stream, from the first byte of its header to the end of
the relay. An await is one event, and the system decides how many bytes a read or a write
moves. `httparse` and `postcard` are third-party and parameters, as is the markup of the
login page. Of the inspector only its presence matters: its records are never read back.
`copy_bidirectional` is a buffer for each direction, which it may refill before it is empty.

Observed only, never read: `arrived` and `answered`.
-/
namespace KrotRelay.Source
open Lib

def dataHeaderSize : Nat := 9

def inspectHeaderCap : Nat := 8 * 1024

def crlfcrlf : List UInt8 := [0x0D, 0x0A, 0x0D, 0x0A]

/-- `DataHeader::decode`: a Control stream has no such header. -/
def DataHeader.decode : List UInt8 → Option DataHeader
  | [] => none
  | byte :: id =>
    match StreamKind.tryFrom byte with
    | none | some .control => none
    | some kind => some ⟨kind, ⟨leValue id⟩⟩

/-- What `httparse` has set in a request it does not refuse. -/
structure ParsedHead where
  method : Option String
  path : Option String
  headers : List Header
  deriving DecidableEq

/-- `httparse` with room for 32 headers answers `none` for an error. -/
structure ProxyCrates where
  parseRequest : List UInt8 → Option ParsedHead
  prelude : Serde InspectionPrelude
  renderLoginPage : String → Option String → String

/-- The arguments of `handle_bi_inspected` besides the stream and the target. -/
structure ProxyConfig where
  expectedTunnel : TunnelId
  inspector : Bool
  inspect : Bool
  auth : Option AuthPolicy
  deriving DecidableEq

def badRequestResponse : List UInt8 :=
  utf8 ("HTTP/1.1 400 Bad Request\r\nContent-Type: text/plain\r\nContent-Length: 11\r\n" ++
    "Connection: close\r\n\r\nBad Request")

/-- The length `decide_auth_response` gives the body of a login form. -/
def contentLength (headers : List Header) : Nat :=
  let declared := (headers.find? fun header => eqIgnoreAsciiCase header.1 "content-length").bind
    fun header => (fromUtf8 header.2).bind fun value => parseUnsigned (2 ^ 64) (trim value.toList)
  min (declared.getD 0) loginBodyCap

def copyBufferSize : Nat := 8 * 1024

/-- One direction of `copy_bidirectional`. -/
structure CopyBuffer where
  held : List UInt8
  readDone : Bool
  shut : Bool
  deriving DecidableEq

def CopyBuffer.new : CopyBuffer := ⟨[], false, false⟩

inductive ProxyEnd where
  | relayed
  | intercepted
  | panicked
  | failed (problem : ClientError)
  deriving DecidableEq

/-- Where `handle_bi_inspected` waits. `recorded` is whether the inspector has an entry for
the request that auth buffered. -/
inductive ProxyPhase where
  | header (buf : List UInt8)
  | prelude (kind : StreamKind) (reader : FrameReader)
  | firstByte (policy : AuthPolicy)
  | headers (policy : AuthPolicy) (buf : List UInt8)
  | loginBody (user pass : String) (request : SessionRequest) (buf : List UInt8)
      (completeAt target : Nat) (recorded : Bool)
  /-- before the lock of the session store -/
  | deciding (user pass : String) (request : SessionRequest) (buffered : List UInt8)
      (recorded : Bool)
  | responding (rest : List UInt8)
  | stopping
  | dialing (kind : StreamKind) (buffered : List UInt8) (recorded : Bool)
  /-- a write to the target, after which the response may be peeked at -/
  | forwarding (rest : List UInt8) (peeks : Bool)
  | peekRequest (buf : List UInt8)
  | peekResponse (buf : List UInt8)
  | returning (rest : List UInt8)
  | relaying (up down : CopyBuffer)
  | ended (outcome : ProxyEnd)
  deriving DecidableEq

namespace ProxyPhase

def fail (problem : ClientError) : ProxyPhase := .ended (.failed problem)

def relay : ProxyPhase := .relaying .new .new

/-- After the prelude: auth looks at HTTP streams only. -/
def start (config : ProxyConfig) (kind : StreamKind) : ProxyPhase :=
  match config.auth, kind with
  | some policy, .dataHttp => .firstByte policy
  | _, kind => .dialing kind [] false

def afterHeader (config : ProxyConfig) (buf : List UInt8) : ProxyPhase :=
  if buf.length < dataHeaderSize then .header buf
  else
    match DataHeader.decode buf with
    | none => fail (.protocol "bad DataHeader from server")
    | some ⟨kind, tunnelId⟩ =>
      if kind ≠ .dataTcp ∧ kind ≠ .dataHttp then
        fail (.protocol "unexpected data-stream kind")
      else if tunnelId ≠ config.expectedTunnel then
        fail (.protocol "wrong tunnel id on data stream")
      else if config.inspect then .prelude kind .start
      else start config kind

/-- `read_frame` takes one more byte off the stream. -/
def afterPrelude (crates : ProxyCrates) (config : ProxyConfig) (kind : StreamKind)
    (fed : Fed) : ProxyPhase :=
  match fed with
  | .more reader => .prelude kind reader
  | .failed _ => fail (.transport "framing")
  | .done payload =>
    match crates.prelude.fromBytes payload with
    | none => fail (.transport "postcard")
    | some _ => start config kind

/-- `read_exact_into` has what it wants, or the stream has ended. -/
def loginRead (user pass : String) (request : SessionRequest) (buf : List UInt8)
    (completeAt target : Nat) (recorded : Bool) : ProxyPhase :=
  .deciding user pass { request with body := (buf.take target).drop completeAt } buf recorded

def afterLoginBody (user pass : String) (request : SessionRequest) (buf : List UInt8)
    (completeAt target : Nat) (recorded : Bool) : ProxyPhase :=
  if buf.length < target then .loginBody user pass request buf completeAt target recorded
  else loginRead user pass request buf completeAt target recorded

/-- `decide_auth_response`, up to the session store. -/
def decideAuth (crates : ProxyCrates) (config : ProxyConfig) (policy : AuthPolicy)
    (buf : List UInt8) (completeAt : Nat) : ProxyPhase :=
  match crates.parseRequest (buf.take completeAt) with
  | none => .responding badRequestResponse
  | some head =>
    -- the inspector parsed the same bytes
    let recorded := config.inspector
    match policy with
    | .apiKey key =>
      match checkApiKey key head.headers with
      | none => .ended .panicked
      | some .ok => .dialing .dataHttp buf recorded
      | some _ => .responding apiKeyRejectResponse
    | .session user pass =>
      let request : SessionRequest := ⟨head.method.getD "", head.path.getD "/", head.headers, []⟩
      if request.isLoginPost then
        afterLoginBody user pass request buf completeAt
          (completeAt + contentLength head.headers) recorded
      else .deciding user pass request buf recorded

/-- The loop of `peek_until_headers`, with one more chunk in its buffer. -/
def afterHeaders (crates : ProxyCrates) (config : ProxyConfig) (policy : AuthPolicy)
    (buf : List UInt8) : ProxyPhase :=
  match position crlfcrlf buf with
  | some pos => decideAuth crates config policy buf (pos + 4)
  | none =>
    if inspectHeaderCap ≤ buf.length then .responding badRequestResponse
    else .headers policy buf

/-- `peek_first_byte` has returned. -/
def afterFirstByte (crates : ProxyCrates) (config : ProxyConfig) (policy : AuthPolicy)
    (buf : List UInt8) : ProxyPhase :=
  if buf.head?.any looksLikeTls then .dialing .dataHttp buf false
  else afterHeaders crates config policy buf

def afterDecision (crates : ProxyCrates) (buffered : List UInt8) (recorded : Bool) :
    SessionAction → ProxyPhase
  | .forward => .dialing .dataHttp buffered recorded
  | .serveLoginPage next error =>
    .responding (httpHtmlResponse (crates.renderLoginPage next error))
  | .redirect location setCookie => .responding (httpRedirect location setCookie)

/-- `decide_auth_response` as a whole. `headersEnd` is where `peek_until_headers` found the
end of the head, and `arriving` what `read_exact_into` still gets before the stream ends. -/
def decideAuthResponse (crates : ProxyCrates) (config : ProxyConfig) (policy : AuthPolicy)
    (buf : List UInt8) (headersEnd : Option Nat) (arriving : List UInt8) (store : SessionStore)
    (token : String) (now stamped : Instant) : ProxyPhase :=
  match headersEnd with
  | none => .responding badRequestResponse
  | some completeAt =>
    match decideAuth crates config policy buf completeAt with
    | .loginBody user pass request buf completeAt target recorded =>
      let buf := buf ++ arriving.take (target - buf.length)
      let request := { request with body := (buf.take target).drop completeAt }
      afterDecision crates buf recorded
        (decideSessionInner user pass store request token now stamped).1
    | .deciding user pass request buffered recorded =>
      afterDecision crates buffered recorded
        (decideSessionInner user pass store request token now stamped).1
    | phase => phase

/-- A `write_all` to the target; one of nothing is over at once. -/
def forward (rest : List UInt8) (peeks : Bool) : ProxyPhase :=
  if rest.isEmpty then if peeks then .peekResponse [] else relay else .forwarding rest peeks

def giveBack (rest : List UInt8) : ProxyPhase :=
  if rest.isEmpty then relay else .returning rest

def afterDial (config : ProxyConfig) (kind : StreamKind) (buffered : List UInt8)
    (recorded : Bool) : ProxyPhase :=
  let inspected := kind == .dataHttp && config.inspector
  if inspected && !recorded && buffered.isEmpty then .peekRequest []
  else forward buffered (inspected && recorded)

/-- Does the loop of `peek_request` or `peek_response` stop with this buffer? -/
def peekEnds (buf : List UInt8) : Bool :=
  (position crlfcrlf buf).isSome || decide (inspectHeaderCap < buf.length)

def afterPeekRequest (buf : List UInt8) : ProxyPhase :=
  if peekEnds buf then forward buf true else .peekRequest buf

def afterPeekResponse (buf : List UInt8) : ProxyPhase :=
  if peekEnds buf then giveBack buf else .peekResponse buf

/-- Both directions done, `copy_bidirectional` returns. -/
def afterShut (up down : CopyBuffer) : ProxyPhase :=
  if up.shut && down.shut then .ended .relayed else .relaying up down

end ProxyPhase

/-- A read in progress: its room, what its end means, and what follows its bytes. -/
structure PendingRead where
  room : Nat
  atEnd : ProxyPhase
  next : List UInt8 → ProxyPhase

/-- It returns `n` bytes of what has arrived; none only at the end of the stream. -/
def PendingRead.returns (pending : PendingRead) (queue : List UInt8) (closed : Bool) (n : Nat) :
    Option (ProxyPhase × List UInt8) :=
  if n = 0 then if queue.isEmpty && closed then some (pending.atEnd, []) else none
  else if n ≤ pending.room ∧ n ≤ queue.length then
    some (pending.next (queue.take n), queue.drop n)
  else none

/-- The read of a direction of the relay: it waits for room in the buffer. -/
def CopyBuffer.pending (buffer : CopyBuffer) (next : CopyBuffer → ProxyPhase) :
    Option PendingRead :=
  if buffer.readDone || decide (copyBufferSize ≤ buffer.held.length) then none
  else
    some
      { room := copyBufferSize - buffer.held.length
        atEnd := next { buffer with readDone := true }
        next := fun chunk => next { buffer with held := buffer.held ++ chunk } }

namespace ProxyPhase

/-- The read of the data stream a phase waits for. -/
def remoteRead (crates : ProxyCrates) (config : ProxyConfig) : ProxyPhase → Option PendingRead
  | .header buf =>
    some ⟨dataHeaderSize - buf.length, fail (.transport "read_exact"),
      fun chunk => afterHeader config (buf ++ chunk)⟩
  | .prelude kind reader =>
    some ⟨1, fail (.transport "read_exact"),
      fun chunk => (chunk.head?.map reader.feed).elim (.prelude kind reader)
        (afterPrelude crates config kind)⟩
  | .firstByte policy =>
    some ⟨1024, .headers policy [], fun chunk => afterFirstByte crates config policy chunk⟩
  | .headers policy buf =>
    some ⟨1024, .responding badRequestResponse,
      fun chunk => afterHeaders crates config policy (buf ++ chunk)⟩
  | .loginBody user pass request buf completeAt target recorded =>
    some ⟨1024, loginRead user pass request buf completeAt target recorded,
      fun chunk => afterLoginBody user pass request
        (buf ++ chunk.take (target - buf.length)) completeAt target recorded⟩
  | .peekRequest buf =>
    some ⟨1024, forward buf true, fun chunk => afterPeekRequest (buf ++ chunk)⟩
  | .relaying up down => up.pending fun up => .relaying up down
  | _ => none

/-- The read of the target a phase waits for. -/
def localRead : ProxyPhase → Option PendingRead
  | .peekResponse buf => some ⟨1024, giveBack buf, fun chunk => afterPeekResponse (buf ++ chunk)⟩
  | .relaying up down => down.pending fun down => .relaying up down
  | _ => none

/-- What a phase is writing to the target, and the phase when less is left of it. -/
def localWrite : ProxyPhase → Option (List UInt8 × (List UInt8 → ProxyPhase))
  | .forwarding rest peeks => some (rest, fun left => forward left peeks)
  | .relaying up down => some (up.held, fun left => .relaying { up with held := left } down)
  | _ => none

/-- The same for the data stream. -/
def remoteWrite : ProxyPhase → Option (List UInt8 × (List UInt8 → ProxyPhase))
  | .responding rest => some (rest, fun left => .responding left)
  | .returning rest => some (rest, giveBack)
  | .relaying up down => some (down.held, fun left => .relaying up { down with held := left })
  | _ => none

/-- An error of the stream reaches the relay as an `io::Error`. -/
def problem (phase : ProxyPhase) (detail : String) : ClientError :=
  match phase with
  | .relaying _ _ => .io detail
  | _ => .transport detail

end ProxyPhase

/-- A data stream, the connection to the target, and the task between them. -/
structure ProxyStream where
  inbox : List UInt8
  finished : Bool
  connected : Bool
  localIn : List UInt8
  localFinished : Bool
  phase : ProxyPhase
  toLocal : List UInt8
  localShut : Bool
  toPublic : List UInt8
  publicShut : Bool
  /-- everything that has arrived on the data stream -/
  arrived : List UInt8
  /-- everything the target has sent -/
  answered : List UInt8
  deriving DecidableEq

inductive ProxyEvent where
  | arrive (bytes : List UInt8)
  | finish
  | answer (bytes : List UInt8)
  | localFinish
  | read (n : Nat)
  | localRead (n : Nat)
  /-- `decide_session` takes the lock: the store it finds there, the token `create` would
  draw and the two readings of the clock -/
  | decide (store : SessionStore) (token : String) (now stamped : Instant)
  | dialled
  | localWrote (n : Nat)
  | wrote (n : Nat)
  | shutLocal
  | shut
  | stopped
  | readFailed (detail : String)
  | localReadFailed (detail : String)
  | dialFailed (detail : String)
  | localWriteFailed (detail : String)
  | writeFailed (detail : String)

/-- An error of the system, as opposed to something it delivers. -/
def ProxyEvent.fails : ProxyEvent → Bool
  | .readFailed _ | .localReadFailed _ | .dialFailed _ | .localWriteFailed _ | .writeFailed _ =>
    true
  | _ => false

namespace ProxyStream

/-- A stream the server has opened, before anything of it has arrived. -/
def accept : ProxyStream where
  inbox := []
  finished := false
  connected := false
  localIn := []
  localFinished := false
  phase := .header []
  toLocal := []
  localShut := false
  toPublic := []
  publicShut := false
  arrived := []
  answered := []

def fail (stream : ProxyStream) (problem : ClientError) : ProxyStream :=
  { stream with phase := .fail problem }

def read (crates : ProxyCrates) (config : ProxyConfig) (stream : ProxyStream) (n : Nat) :
    Option ProxyStream := do
  let pending ← stream.phase.remoteRead crates config
  let (phase, inbox) ← pending.returns stream.inbox stream.finished n
  return { stream with phase, inbox }

def localRead (stream : ProxyStream) (n : Nat) : Option ProxyStream := do
  let pending ← stream.phase.localRead
  let (phase, localIn) ← pending.returns stream.localIn stream.localFinished n
  return { stream with phase, localIn }

def localWrote (stream : ProxyStream) (n : Nat) : Option ProxyStream := do
  let (bytes, next) ← stream.phase.localWrite
  if 0 < n ∧ n ≤ bytes.length then
    return { stream with
      phase := next (bytes.drop n), toLocal := stream.toLocal ++ bytes.take n }
  else none

def wrote (stream : ProxyStream) (n : Nat) : Option ProxyStream := do
  let (bytes, next) ← stream.phase.remoteWrite
  if 0 < n ∧ n ≤ bytes.length then
    return { stream with
      phase := next (bytes.drop n), toPublic := stream.toPublic ++ bytes.take n }
  else none

/-- A direction of the relay shuts its writer down once all is written. -/
def shutLocal (stream : ProxyStream) : Option ProxyStream :=
  match stream.phase with
  | .relaying up down =>
    if up.readDone && up.held.isEmpty && !up.shut then
      some { stream with
        phase := .afterShut { up with shut := true } down, localShut := true }
    else none
  | _ => none

def shut (stream : ProxyStream) : Option ProxyStream :=
  match stream.phase with
  | .relaying up down =>
    if down.readDone && down.held.isEmpty && !down.shut then
      some { stream with
        phase := .afterShut up { down with shut := true }, publicShut := true }
    else none
  -- `send.finish()` after the response of auth
  | .responding [] => some { stream with phase := .stopping, publicShut := true }
  | _ => none

def step (crates : ProxyCrates) (config : ProxyConfig) (stream : ProxyStream) :
    ProxyEvent → Option ProxyStream
  | .arrive bytes =>
    if stream.finished then none
    else some { stream with
      inbox := stream.inbox ++ bytes, arrived := stream.arrived ++ bytes }
  | .finish => if stream.finished then none else some { stream with finished := true }
  | .answer bytes =>
    if !stream.connected || stream.localFinished then none
    else some { stream with
      localIn := stream.localIn ++ bytes, answered := stream.answered ++ bytes }
  | .localFinish =>
    if !stream.connected || stream.localFinished then none
    else some { stream with localFinished := true }
  | .read n => stream.read crates config n
  | .localRead n => stream.localRead n
  | .decide store token now stamped =>
    match stream.phase with
    | .deciding user pass request buffered recorded =>
      some { stream with
        phase := .afterDecision crates buffered recorded
          (decideSessionInner user pass store request token now stamped).1 }
    | _ => none
  | .dialled =>
    match stream.phase with
    | .dialing kind buffered recorded =>
      some { stream with
        connected := true, phase := .afterDial config kind buffered recorded }
    | _ => none
  | .localWrote n => stream.localWrote n
  | .wrote n => stream.wrote n
  | .shutLocal => stream.shutLocal
  | .shut => stream.shut
  | .stopped =>
    match stream.phase with
    | .stopping => some { stream with phase := .ended .intercepted }
    | _ => none
  | .readFailed detail =>
    if (stream.phase.remoteRead crates config).isSome then
      some (stream.fail (stream.phase.problem detail))
    else none
  | .localReadFailed detail =>
    if stream.phase.localRead.isSome then some (stream.fail (.io detail)) else none
  | .dialFailed detail =>
    match stream.phase with
    | .dialing _ _ _ => some (stream.fail (.io detail))
    | _ => none
  | .localWriteFailed detail =>
    if stream.phase.localWrite.isSome then some (stream.fail (.io detail)) else none
  | .writeFailed detail =>
    if stream.phase.remoteWrite.isSome then some (stream.fail (stream.phase.problem detail))
    else none

end ProxyStream
end KrotRelay.Source
