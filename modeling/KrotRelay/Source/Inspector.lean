import KrotRelay.Source.Proxy
import KrotRelay.Source.Registry

/-!
# The inspector and the streams that report to it
(krot-client/src/inspector.rs, krot-client/src/proxy.rs)

`Inspector` is the state its lock guards, one function for each operation; the readings of
the clocks are arguments. Every call is made between two awaits of `handle_bi_inspected`, so
it belongs to one event of its stream, and any interleaving of the events of the streams of
a tunnel is a run. `record_response` changes no metadata: it may come at any time.

Observed only, never read: `made`.
-/
namespace KrotRelay.Source
open Lib

def historyCap : Nat := 200

abbrev EntryId := UInt64

structure InspectorEntry where
  id : EntryId
  timeMs : Nat
  method : Option String
  path : Option String
  status : Option UInt16
  durationMs : Option UInt64
  peer : Option String
  host : Option String
  deriving DecidableEq

structure PendingAccept where
  peer : String
  host : Option String
  deriving DecidableEq

structure Inspector where
  nextId : EntryId
  entries : List InspectorEntry
  pendingStart : HashMap EntryId Instant
  pendingAccept : Option PendingAccept

namespace InspectionPrelude

/-- The host of the entry: the SNI if there is no `Host` header. -/
def acceptHost (prelude : InspectionPrelude) : Option String :=
  prelude.http.map fun metadata =>
    if metadata.host.isEmpty then metadata.sni.getD "" else metadata.host

def isPassthrough (prelude : InspectionPrelude) : Bool :=
  prelude.http.any fun metadata => metadata.sni.isSome

def pendingAccept (prelude : InspectionPrelude) : PendingAccept :=
  ⟨prelude.peer, prelude.acceptHost⟩

end InspectionPrelude

namespace Inspector

def new : Inspector := ⟨1, [], ∅, none⟩

/-- The oldest entry goes when the ring is full. -/
def push (entries : List InspectorEntry) (entry : InspectorEntry) : List InspectorEntry :=
  (if entries.length = historyCap then entries.tail else entries) ++ [entry]

def flushPendingAcceptLocked (inspector : Inspector) (timeMs : Nat) : Inspector :=
  match inspector.pendingAccept with
  | none => inspector
  | some pending =>
    { inspector with
      nextId := inspector.nextId + 1
      entries := push inspector.entries
        { id := inspector.nextId, timeMs, method := none, path := none, status := none,
          durationMs := none, peer := some pending.peer, host := pending.host }
      pendingAccept := none }

def recordAccept (inspector : Inspector) (prelude : InspectionPrelude) (timeMs : Nat) : Inspector :=
  let inspector := { inspector with pendingAccept := some prelude.pendingAccept }
  if prelude.isPassthrough then inspector.flushPendingAcceptLocked timeMs else inspector

def recordRequest (inspector : Inspector) (method path : Option String) (timeMs : Nat)
    (now : Instant) : EntryId × Inspector :=
  let started := inspector.pendingStart.insert inspector.nextId now
  let evicted := if inspector.entries.length = historyCap then inspector.entries.head? else none
  (inspector.nextId,
    { nextId := inspector.nextId + 1
      entries := push inspector.entries
        { id := inspector.nextId, timeMs, method, path, status := none, durationMs := none,
          peer := inspector.pendingAccept.map (·.peer)
          host := inspector.pendingAccept.bind (·.host) }
      pendingStart := evicted.elim started fun entry => started.erase entry.id
      pendingAccept := none })

/-- The first entry with this id gets the status and the time since its start. -/
def recordResponse (inspector : Inspector) (id : EntryId) (status : UInt16) (now : Instant) :
    Inspector :=
  { inspector with
    entries := inspector.entries.modify (inspector.entries.findIdx fun entry => entry.id == id)
      fun entry => { entry with
        status := some status
        durationMs := (inspector.pendingStart.lookup id).map fun start =>
          UInt64.ofNat (max 1 ((now - start) / 1000000)) }
    pendingStart := inspector.pendingStart.erase id }

end Inspector

inductive InspectorCall where
  | accept (prelude : InspectionPrelude)
  | request (method path : Option String)
  deriving DecidableEq

/-- A data stream, the prelude `handle_bi_inspected` has read from it, and whether the task is
past the line that feeds the prelude to the inspector. -/
structure InspectedStream where
  config : ProxyConfig
  stream : ProxyStream
  prelude : Option InspectionPrelude
  accepted : Bool
  deriving DecidableEq

namespace InspectedStream

def start (config : ProxyConfig) : InspectedStream := ⟨config, .accept, none, false⟩

/-- `read_frame` returns with this event. -/
def preludeRead (crates : ProxyCrates) (stream : ProxyStream) :
    ProxyEvent → Option InspectionPrelude
  | .read n =>
    match stream.phase with
    | .prelude _ reader =>
      match (stream.inbox.take n).head?.map reader.feed with
      | some (.done payload) => crates.prelude.fromBytes payload
      | _ => none
    | _ => none
  | _ => none

/-- The target is connected and what auth buffered, if anything, is written to it. -/
def passesAccept (inspected : InspectedStream) : ProxyEvent → Bool
  | .dialled =>
    match inspected.stream.phase with
    | .dialing _ buffered _ => buffered.isEmpty
    | _ => false
  | .localWrote n =>
    match inspected.stream.phase with
    | .forwarding rest _ => !inspected.accepted && (rest.drop n).isEmpty
    | _ => false
  | _ => false

/-- The request that auth has buffered. -/
def headRequest (crates : ProxyCrates) (buf : List UInt8) : Option InspectorCall :=
  (position crlfcrlf buf).bind fun pos =>
    (crates.parseRequest (buf.take (pos + 4))).map fun head => .request head.method head.path

/-- The request that `peek_request` has read; an error of the parser leaves it blank. -/
def peekedRequest (crates : ProxyCrates) (buf : List UInt8) : InspectorCall :=
  let head := crates.parseRequest buf
  .request (head.bind (·.method)) (head.bind (·.path))

/-- The `record_request` a read leads to. -/
def requestRead (crates : ProxyCrates) (stream : ProxyStream) (n : Nat) : Option InspectorCall :=
  let chunk := stream.inbox.take n
  match stream.phase with
  | .firstByte _ => if chunk.head?.any looksLikeTls then none else headRequest crates chunk
  | .headers _ buf => if n = 0 then none else headRequest crates (buf ++ chunk)
  | .peekRequest buf =>
    if n = 0 || ProxyPhase.peekEnds (buf ++ chunk) then some (peekedRequest crates (buf ++ chunk))
    else none
  | _ => none

/-- What an event makes the task call. -/
def call (crates : ProxyCrates) (inspected : InspectedStream) (event : ProxyEvent) :
    Option InspectorCall :=
  if !inspected.config.inspector then none
  else if inspected.passesAccept event then inspected.prelude.map .accept
  else
    match event with
    | .read n => requestRead crates inspected.stream n
    | _ => none

def step (crates : ProxyCrates) (inspected : InspectedStream) (event : ProxyEvent) :
    Option InspectedStream :=
  (inspected.stream.step crates inspected.config event).map fun next =>
    { inspected with
      stream := next
      prelude := (preludeRead crates inspected.stream event).or inspected.prelude
      accepted := inspected.accepted || inspected.passesAccept event }

end InspectedStream

/-- An entry and the stream whose call made it. -/
structure MadeEntry where
  stream : Nat
  entry : InspectorEntry
  deriving DecidableEq

/-- The inspector of a tunnel and all the data streams it ever had. -/
structure InspectorHost where
  inspector : Inspector
  streams : List InspectedStream
  made : List MadeEntry

inductive InspectorEvent where
  | opened (config : ProxyConfig)
  | proxy (index : Nat) (event : ProxyEvent) (timeMs : Nat) (now : Instant)
  | response (id : EntryId) (status : UInt16) (now : Instant)

namespace InspectorHost

def new : InspectorHost := ⟨.new, [], []⟩

/-- A call, and the entry it has made. -/
def called (inspector : Inspector) (timeMs : Nat) (now : Instant) :
    Option InspectorCall → Inspector × Option InspectorEntry
  | none => (inspector, none)
  | some (.accept prelude) =>
    let after := inspector.recordAccept prelude timeMs
    (after, if prelude.isPassthrough then after.entries.getLast? else none)
  | some (.request method path) =>
    let after := (inspector.recordRequest method path timeMs now).2
    (after, after.entries.getLast?)

def step (crates : ProxyCrates) (host : InspectorHost) : InspectorEvent → Option InspectorHost
  | .opened config => some { host with streams := host.streams ++ [.start config] }
  | .proxy index event timeMs now => do
    let inspected ← host.streams[index]?
    let next ← inspected.step crates event
    let (inspector, entry) := called host.inspector timeMs now (inspected.call crates event)
    return {
      inspector
      streams := host.streams.set index next
      made := host.made ++ (entry.map (MadeEntry.mk index)).toList }
  | .response id status now =>
    some { host with inspector := host.inspector.recordResponse id status now }

end InspectorHost
end KrotRelay.Source
