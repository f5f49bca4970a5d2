import KrotRelay.Lib.LittleEndian
import KrotRelay.Lib.Text
import KrotRelay.Source.Codec
import KrotRelay.Source.Handshake
import KrotRelay.Source.Rates

/-!
# Public connections (krot-server/src/tunnel.rs, domain/http.rs, domain/https.rs,
domain/sni.rs, domain/replay.rs, rate.rs)

One connection of a public peer, from the accept of its listener to the end of its task.
The two HTTP routers buffer what they need to find the tunnel and replay it; then, on all
three paths, two shovels copy bytes and charge them to the tunnel's owner. An await is one
event, and the system decides how many bytes a read or a write moves. `httparse` is
third-party; it and `parse_client_hello` are parameters, whatever they answer.

Observed only, never read: `charged` and `relayed` of a flow, `opening`, `toClient` and
`toPublic`.
-/
namespace KrotRelay.Source
open Lib

structure DataHeader where
  kind : StreamKind
  tunnelId : TunnelId
  deriving DecidableEq

def StreamKind.asByte : StreamKind → UInt8
  | .control => 0x01
  | .dataHttp => 0x02
  | .dataTcp => 0x03

def DataHeader.toBytes (header : DataHeader) : List UInt8 :=
  header.kind.asByte :: leBytes 8 header.tunnelId.val

@[simp] theorem DataHeader.toBytes_length (header : DataHeader) : header.toBytes.length = 9 := by
  rw [toBytes, List.length_cons, leBytes_length]

structure HttpMetadata where
  host : String
  sni : Option String
  deriving DecidableEq

structure InspectionPrelude where
  acceptUnixSecs : UInt64
  peer : String
  http : Option HttpMetadata
  deriving DecidableEq

def shovelBuffer : Nat := 16 * 1024

def maxHeaderBytes : Nat := 8 * 1024

def maxHello : Nat := 16 * 1024

def acmePathPrefix : List Char := "/.well-known/acme-challenge/".toList

def alpnTcp : List UInt8 := [0x6B, 0x72, 0x6F, 0x74, 0x2D, 0x74, 0x63, 0x70, 0x2F, 0x31]

/-- What `httparse` makes of the bytes so far. -/
inductive RequestParse where
  | complete (headers : List (String × List UInt8)) (path : Option String)
  | incomplete
  | failed (detail : String)
  deriving DecidableEq

/-- What the routers consult. The registry is the one of the moment a label is resolved. -/
structure Domain where
  apex : String
  challenges : HashMap String String
  registry : TunnelRegistry
  peer : Option String
  parseRequest : List UInt8 → RequestParse
  parseClientHello : List UInt8 → Except String (String × List (List UInt8))
  prelude : Serde InspectionPrelude

def asciiLower (text : List Char) : List Char := text.map Char.toLower

/-- `extract_label`, once the host is isolated. -/
def labelOf (host apex : List Char) : Option String :=
  let host := asciiLower host
  let apex := asciiLower apex
  if host = apex then none
  else
    let suffix := '.' :: apex
    if suffix.isSuffixOf host then some (String.ofList (host.take (host.length - suffix.length)))
    else none

/-- The `Host` header may name a port. -/
def extractHostLabel (hostHeader apex : String) : Option String :=
  labelOf (trim (hostHeader.toList.takeWhile (· != ':'))) apex.toList

def extractSniLabel (serverName apex : String) : Option String :=
  labelOf serverName.toList apex.toList

def hostOf (headers : List (String × List UInt8)) : String :=
  let found := headers.find? fun (name, _) => asciiLower name.toList = "host".toList
  (found.bind fun (_, value) => String.fromUTF8? ⟨value.toArray⟩).getD ""

/-- `write_body`. -/
def httpReply (status contentType body : String) : List UInt8 :=
  (("HTTP/1.1 " ++ status ++ "\r\nContent-Type: " ++ contentType ++ "\r\nContent-Length: " ++
    toString body.utf8ByteSize ++ "\r\nConnection: close\r\n\r\n").toUTF8 ++ body.toUTF8).toList

/-- Where a `shovel` stands. `timed` is its wait under the first-byte deadline. -/
inductive ShovelStage where
  | starting
  | reading (timed : Bool)
  | throttling (chunk : List UInt8)
  | writing (n : Nat) (rest : List UInt8)
  | closing (result : Except String Nat)
  | finished
  deriving DecidableEq

/-- One direction: what the sending side still delivers before it closes, and its shovel. -/
structure Flow where
  source : List UInt8
  stage : ShovelStage
  total : Nat
  /-- bytes a `charge` returned `Ok` for -/
  charged : List UInt8
  /-- application bytes written to the receiving side -/
  relayed : List UInt8
  deriving DecidableEq

namespace Flow

def start (source : List UInt8) : Flow := ⟨source, .starting, 0, [], []⟩

/-- `r.read(&mut buf)` returns `n` bytes; none only at the end of the source. -/
def read (flow : Flow) (n : Nat) : Option Flow :=
  match flow.stage with
  | .reading _ =>
    if n = 0 then
      if flow.source.isEmpty then some { flow with stage := .closing (.ok flow.total) } else none
    else if n ≤ shovelBuffer ∧ n ≤ flow.source.length then
      some { flow with source := flow.source.drop n, stage := .throttling (flow.source.take n) }
    else none
  | _ => none

/-- What `charge` answered for the chunk in hand. -/
def charge (flow : Flow) (chunk : List UInt8) : Charge → Flow
  | .ok =>
    { flow with stage := .writing chunk.length chunk, charged := flow.charged ++ chunk }
  | .quotaExceeded _ => { flow with stage := .closing (.error "period quota exceeded") }

/-- `write_all` moves `n` more bytes: those bytes, and the shovel after them. -/
def write (flow : Flow) (n : Nat) : Option (List UInt8 × Flow) :=
  match flow.stage with
  | .writing size rest =>
    if 0 < n ∧ n ≤ rest.length then
      let flow := { flow with relayed := flow.relayed ++ rest.take n }
      if n = rest.length then
        some (rest.take n, { flow with stage := .reading false, total := flow.total + size })
      else some (rest.take n, { flow with stage := .writing size (rest.drop n) })
    else none
  | _ => none

end Flow

inductive Direction where
  | toClient
  | toPublic
  deriving DecidableEq

/-- One `write_all` before the relay starts. Only the replayed head is application data. -/
structure SetupPart where
  application : Bool
  bytes : List UInt8
  deriving DecidableEq

inductive ConnEnd where
  | relayed (up down : Nat)
  | replied
  | unrouted
  /-- handed to the TCP mux, with the bytes peeked -/
  | dispatched (buffered : List UInt8)
  | failed (detail : String)
  deriving DecidableEq

inductive ConnPhase where
  | request (buf : List UInt8)
  | helloHeader (buf : List UInt8)
  | helloBody (buf : List UInt8) (needed : Nat)
  | opening (kind : StreamKind) (tunnelId : TunnelId) (inspect : Bool) (http : Option HttpMetadata)
      (buffered : Option (List UInt8))
  /-- what is still to be written, and what comes after it -/
  | setup (parts : List SetupPart) (after : Except String TunnelId)
  | replying (rest : List UInt8)
  | relaying (tunnelId : TunnelId)
  | ended (outcome : ConnEnd)
  deriving DecidableEq

structure DataConn where
  up : Flow
  down : Flow
  seenAny : Bool
  phase : ConnPhase
  /-- the limits of the tunnel's owner, shared with all its other connections -/
  rate : RateLimitState
  opening : Option (List UInt8)
  toClient : List UInt8
  toPublic : List UInt8

inductive ConnEvent where
  /-- a read of this direction's source returns -/
  | read (direction : Direction) (n : Nat)
  | readFailed (direction : Direction) (detail : String)
  | opened (unixSecs : UInt64)
  | openFailed (detail : String)
  | begin (direction : Direction)
  | elapsed (direction : Direction)
  /-- `throttle` is over; the clock at the charge and at its notice -/
  | charge (direction : Direction) (now noticed : Instant)
  /-- a write to this direction's receiver returns -/
  | wrote (direction : Direction) (n : Nat)
  | writeFailed (direction : Direction) (detail : String)
  | shut (direction : Direction)
  /-- another connection of the same owner charges its bytes -/
  | otherCharge (now noticed : Instant) (tunnelId : TunnelId) (n : UInt64)
  deriving DecidableEq

/-- The listener that accepted the connection. -/
inductive EntryPath where
  | tcp (tunnelId : TunnelId) (inspect : Bool)
  | http
  | https
  deriving DecidableEq

def EntryPath.phase : EntryPath → ConnPhase
  | .tcp tunnelId inspect => .opening .dataTcp tunnelId inspect none none
  | .http => .request []
  | .https => .helloHeader []

namespace DataConn

/-- A fresh connection, with all that its two ends are going to send. -/
def accept (path : EntryPath) (publicBytes clientBytes : List UInt8) (rate : RateLimitState) :
    DataConn where
  up := .start publicBytes
  down := .start clientBytes
  seenAny := false
  phase := path.phase
  rate := rate
  opening := none
  toClient := []
  toPublic := []

def notFound (body : String) : ConnPhase := .replying (httpReply "404 Not Found" "text/plain" body)

/-- `read_request` with one more chunk in its buffer, and `handle` once it returns. -/
def afterRequest (domain : Domain) (buf : List UInt8) : ConnPhase :=
  match domain.parseRequest buf with
  | .complete headers path =>
    let host := hostOf headers
    let path := (path.getD "/").toList
    if acmePathPrefix.isPrefixOf path then
      match domain.challenges.lookup (String.ofList (path.drop acmePathPrefix.length)) with
      | some response => .replying (httpReply "200 OK" "text/plain" response)
      | none => notFound "no such challenge"
    else
      match extractHostLabel host domain.apex with
      | none => notFound "unknown host"
      | some label =>
        match domain.registry.resolveLabel label with
        | none => notFound "unknown tunnel"
        | some resolved =>
          .opening .dataHttp resolved.id resolved.inspect (some ⟨host, none⟩) (some buf)
  | .incomplete =>
    if maxHeaderBytes < buf.length then .ended (.failed "headers exceed cap") else .request buf
  | .failed detail => .ended (.failed detail)

/-- `record_len`, from the record header. -/
def recordLen (buf : List UInt8) : Nat := (buf.getD 3 0).toNat * 256 + (buf.getD 4 0).toNat

/-- `peek_sni` in its first `read_at_least`. -/
def afterHelloHeader (buf : List UInt8) : ConnPhase :=
  if buf.length < 5 then .helloHeader buf
  else if buf.getD 0 0 ≠ 0x16 then .ended (.failed "not a TLS handshake record")
  else if recordLen buf = 0 ∨ maxHello < recordLen buf then
    .ended (.failed "implausible TLS record length")
  else .helloBody buf (5 + recordLen buf)

/-- `peek_sni` in its second, and `handle` once it returns. -/
def afterHelloBody (domain : Domain) (buf : List UInt8) (needed : Nat) : ConnPhase :=
  if buf.length < needed then .helloBody buf needed
  else
    match domain.parseClientHello ((buf.take needed).drop 5) with
    | .error detail => .ended (.failed detail)
    | .ok (serverName, alpn) =>
      if alpn.contains alpnTcp then .ended (.dispatched buf)
      else
        match extractSniLabel serverName domain.apex with
        | none => .ended .unrouted
        | some label =>
          match domain.registry.resolveLabel label with
          | none => .ended .unrouted
          | some resolved =>
            .opening .dataHttp resolved.id resolved.inspect (some ⟨serverName, some serverName⟩)
              (some buf)

/-- A `write_all` of nothing is over at once. -/
def afterSetup (parts : List SetupPart) (after : Except String TunnelId) : ConnPhase :=
  match parts.dropWhile (·.bytes.isEmpty), after with
  | [], .ok tunnelId => .relaying tunnelId
  | [], .error detail => .ended (.failed detail)
  | parts, after => .setup parts after

/-- The frame of the prelude, if the tunnel is inspected. -/
def preludeFrame (domain : Domain) (inspect : Bool) (unixSecs : UInt64)
    (http : Option HttpMetadata) : Except String (List UInt8) :=
  if inspect then
    match domain.prelude.encodeFrame ⟨unixSecs, domain.peer.getD "", http⟩ [] with
    | (.ok _, frame) => .ok frame
    | (.error _, _) => .error "frame codec"
  else .ok []

/-- `open_bi` has returned: the header, the prelude and the replay are to be written. -/
def opened (conn : DataConn) (domain : Domain) (kind : StreamKind) (tunnelId : TunnelId)
    (inspect : Bool) (http : Option HttpMetadata) (buffered : Option (List UInt8))
    (unixSecs : UInt64) : DataConn :=
  let header := (DataHeader.mk kind tunnelId).toBytes
  match preludeFrame domain inspect unixSecs http with
  | .error detail =>
    { conn with
      phase := afterSetup [⟨false, header⟩] (.error detail), opening := some header }
  | .ok frame =>
    let replay := buffered.toList.map fun head => SetupPart.mk true head
    { conn with
      phase := afterSetup (⟨false, header⟩ :: ⟨false, frame⟩ :: replay) (.ok tunnelId)
      opening := some (header ++ frame) }

def flow (conn : DataConn) : Direction → Flow
  | .toClient => conn.up
  | .toPublic => conn.down

def setFlow (conn : DataConn) (flow : Flow) : Direction → DataConn
  | .toClient => { conn with up := flow }
  | .toPublic => { conn with down := flow }

@[simp] theorem setFlow_phase (conn : DataConn) (flow : Flow) (dir : Direction) :
    (conn.setFlow flow dir).phase = conn.phase := by
  cases dir <;> rfl

@[simp] theorem setFlow_flow (conn : DataConn) (flow : Flow) (dir : Direction) :
    (conn.setFlow flow dir).flow dir = flow := by
  cases dir <;> rfl

theorem setFlow_flow_other (conn : DataConn) (flow : Flow) {side dir : Direction}
    (other : side ≠ dir) : (conn.setFlow flow dir).flow side = conn.flow side := by
  cases dir <;> cases side <;> first | rfl | exact absurd rfl other

@[simp] theorem setFlow_opening (conn : DataConn) (flow : Flow) (dir : Direction) :
    (conn.setFlow flow dir).opening = conn.opening := by
  cases dir <;> rfl

def fail (conn : DataConn) (detail : String) : DataConn :=
  { conn with phase := .ended (.failed detail) }

/-- A router's read of the public stream, with room for `space` bytes. -/
def readHead (conn : DataConn) (space n : Nat) (eof : String) (after : List UInt8 → ConnPhase) :
    Option DataConn :=
  if n = 0 then if conn.up.source.isEmpty then some (conn.fail eof) else none
  else if n ≤ space ∧ n ≤ conn.up.source.length then
    some { conn with
      up := { conn.up with source := conn.up.source.drop n }
      phase := after (conn.up.source.take n) }
  else none

/-- The reads of the routers: their room, the error at the end of the stream, and what
they go on to with the bytes. -/
def headRead (domain : Domain) : ConnPhase → Option (Nat × String × (List UInt8 → ConnPhase))
  | .request buf =>
    some (1024, "eof reading headers", fun chunk => afterRequest domain (buf ++ chunk))
  | .helloHeader buf =>
    some (5 - buf.length, "eof while reading ClientHello", fun chunk =>
      afterHelloHeader (buf ++ chunk))
  | .helloBody buf needed =>
    some (needed - buf.length, "eof while reading ClientHello", fun chunk =>
      afterHelloBody domain (buf ++ chunk) needed)
  | _ => none

def read (conn : DataConn) (domain : Domain) (direction : Direction) (n : Nat) : Option DataConn :=
  match conn.phase, direction with
  | .relaying _, direction =>
    ((conn.flow direction).read n).map fun flow =>
      { conn with seenAny := conn.seenAny || n != 0 }.setFlow flow direction
  | phase, .toClient =>
    (headRead domain phase).bind fun (space, eof, after) => conn.readHead space n eof after
  | _, .toPublic => none

/-- The bytes of a write to the receiver reach it. -/
def deliver (conn : DataConn) (bytes : List UInt8) : Direction → DataConn
  | .toClient => { conn with toClient := conn.toClient ++ bytes }
  | .toPublic => { conn with toPublic := conn.toPublic ++ bytes }

@[simp] theorem deliver_phase (conn : DataConn) (bytes : List UInt8) (dir : Direction) :
    (conn.deliver bytes dir).phase = conn.phase := by
  cases dir <;> rfl

@[simp] theorem deliver_flow (conn : DataConn) (bytes : List UInt8) (dir side : Direction) :
    (conn.deliver bytes dir).flow side = conn.flow side := by
  cases dir <;> cases side <;> rfl

@[simp] theorem deliver_opening (conn : DataConn) (bytes : List UInt8) (dir : Direction) :
    (conn.deliver bytes dir).opening = conn.opening := by
  cases dir <;> rfl

def wrote (conn : DataConn) (direction : Direction) (n : Nat) : Option DataConn :=
  match conn.phase, direction with
  | .setup (part :: rest) after, .toClient =>
    if 0 < n ∧ n ≤ part.bytes.length then
      let bytes := part.bytes.take n
      let relayed := if part.application then bytes else []
      some { conn.deliver bytes .toClient with
        up := { conn.up with relayed := conn.up.relayed ++ relayed }
        phase := afterSetup ({ part with bytes := part.bytes.drop n } :: rest) after }
    else none
  | .replying rest, .toPublic =>
    if 0 < n ∧ n ≤ rest.length then
      some { conn.deliver (rest.take n) .toPublic with
        phase := if n = rest.length then .ended .replied else .replying (rest.drop n) }
    else none
  | .relaying _, direction =>
    ((conn.flow direction).write n).map fun (bytes, flow) =>
      (conn.deliver bytes direction).setFlow flow direction
  | _, _ => none

/-- Does the task wait for a read of this direction's source? -/
def isReading (conn : DataConn) (direction : Direction) : Bool :=
  match conn.phase, direction with
  | .request _, .toClient | .helloHeader _, .toClient | .helloBody _ _, .toClient => true
  | .relaying _, direction =>
    match (conn.flow direction).stage with
    | .reading _ => true
    | _ => false
  | _, _ => false

/-- Does it wait for a write to this direction's receiver? -/
def isWriting (conn : DataConn) (direction : Direction) : Bool :=
  match conn.phase, direction with
  | .setup _ _, .toClient | .replying _, .toPublic => true
  | .relaying _, direction =>
    match (conn.flow direction).stage with
    | .writing _ _ => true
    | _ => false
  | _, _ => false

/-- `charge` for the chunk in hand. The frame it queues goes to the owner's control loop. -/
def chargeChunk (conn : DataConn) (direction : Direction) (tunnelId : TunnelId)
    (now noticed : Instant) : Option DataConn :=
  let flow := conn.flow direction
  match flow.stage with
  | .throttling chunk =>
    let (outcome, _, rate) := conn.rate.charge now noticed tunnelId (UInt64.ofNat chunk.length)
    some ({ conn with rate }.setFlow (flow.charge chunk outcome) direction)
  | _ => none

/-- The `shutdown` of the receiving side is over and the shovel returns. `try_join!` ends
with the first error, or when both have returned. -/
def shut (conn : DataConn) (direction : Direction) : Option DataConn :=
  let flow := conn.flow direction
  match flow.stage with
  | .closing (.error detail) => some (conn.fail detail)
  | .closing (.ok _) =>
    let conn := conn.setFlow { flow with stage := .finished } direction
    if conn.up.stage = .finished ∧ conn.down.stage = .finished then
      some { conn with phase := .ended (.relayed conn.up.total conn.down.total) }
    else some conn
  | _ => none

def relayStep (conn : DataConn) (tunnelId : TunnelId) : ConnEvent → Option DataConn
  | .begin direction =>
    let flow := conn.flow direction
    match flow.stage with
    | .starting => some (conn.setFlow { flow with stage := .reading (!conn.seenAny) } direction)
    | _ => none
  | .elapsed direction =>
    let flow := conn.flow direction
    match flow.stage with
    | .reading true =>
      if conn.seenAny then some (conn.setFlow { flow with stage := .reading false } direction)
      else some (conn.fail "data-stream first-byte deadline exceeded")
    | _ => none
  | .charge direction now noticed => conn.chargeChunk direction tunnelId now noticed
  | .shut direction => conn.shut direction
  | _ => none

def step (domain : Domain) (conn : DataConn) : ConnEvent → Option DataConn
  | .read direction n => conn.read domain direction n
  | .readFailed direction detail =>
    if conn.isReading direction then some (conn.fail detail) else none
  | .opened unixSecs =>
    match conn.phase with
    | .opening kind tunnelId inspect http buffered =>
      some (conn.opened domain kind tunnelId inspect http buffered unixSecs)
    | _ => none
  | .openFailed detail =>
    match conn.phase with
    | .opening _ _ _ _ _ => some (conn.fail detail)
    | _ => none
  | .wrote direction n => conn.wrote direction n
  | .writeFailed direction detail =>
    if conn.isWriting direction then some (conn.fail detail) else none
  | .otherCharge now noticed tunnelId n =>
    some { conn with rate := (conn.rate.charge now noticed tunnelId n).2.2 }
  | event =>
    match conn.phase with
    | .relaying tunnelId => conn.relayStep tunnelId event
    | _ => none

end DataConn

/-- `ReplayStream` over what the inner stream still delivers. -/
structure ReplayStream where
  replay : List UInt8
  readPos : Nat
  inner : List UInt8
  deriving DecidableEq

namespace ReplayStream

def new (replay inner : List UInt8) : ReplayStream := ⟨replay, 0, inner⟩

/-- `poll_read` with room for `space` bytes; `n` is what a read of the inner stream returns. -/
def pollRead (stream : ReplayStream) (space n : Nat) : Option (List UInt8 × ReplayStream) :=
  if stream.readPos < stream.replay.length then
    let remaining := stream.replay.drop stream.readPos
    let take := min remaining.length space
    some (remaining.take take, { stream with readPos := stream.readPos + take })
  else if n ≤ space ∧ n ≤ stream.inner.length ∧ (n = 0 → space = 0 ∨ stream.inner = []) then
    some (stream.inner.take n, { stream with inner := stream.inner.drop n })
  else none

/-- A sequence of reads: everything they returned, and the stream after them. -/
def readAll (stream : ReplayStream) : List (Nat × Nat) → Option (List UInt8 × ReplayStream)
  | [] => some ([], stream)
  | (space, n) :: rest =>
    (stream.pollRead space n).bind fun (bytes, next) =>
      (next.readAll rest).map fun (more, last) => (bytes ++ more, last)

end ReplayStream
end KrotRelay.Source
