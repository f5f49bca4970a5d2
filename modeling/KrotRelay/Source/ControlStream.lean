import KrotRelay.Source.ClientSession
import KrotRelay.Source.Notices

/-!
# One Control stream, both ends
(krot-client/src/session.rs, tunnel.rs; krot-server/src/session.rs)

The client of one connection, from the end of its handshake on, with the whole relay at the
other end: `list_peers` any number of times, then `publish`, which takes the session, and at
last `Bye`. The stream is reliable: what the client writes is what the session reads, and a
frame the session writes is read by the client, in order. All other connections do what they
like, and so do the data paths.

Observed only: the frames the relay's dispatches wrote for the client's requests, and what
the client's calls returned.
-/
namespace KrotRelay.Source
open Lib

/-- What a call of the client returned. -/
inductive CallReturn where
  | listed (result : Except ClientError (List String))
  | published (result : Except ClientError Client.PublishedTunnel)
  deriving DecidableEq

abbrev CallProgram := Prog clientInterface CallReturn

inductive Request where
  | peers
  | tunnel (label : String) (kind : TunnelKind) (inspector : Bool)
      (resumeSessionId : Option SessionId)
  deriving DecidableEq

namespace Request

def program : Request → CallProgram
  | .peers => CallReturn.listed <$> Client.listPeers.run
  | .tunnel label kind inspector resumeSessionId =>
    CallReturn.published <$> (Client.publish label kind inspector resumeSessionId).run

def frame : Request → ClientFrame
  | .peers => .listPeers
  | .tunnel label kind inspector resumeSessionId =>
    .registerTunnel label kind resumeSessionId inspector

end Request

inductive ClientState where
  | idle
  | calling (program : CallProgram)
  /-- `publish` has returned -/
  | gone

def ClientState.waits : ClientState → Bool
  | .calling _ => true
  | _ => false

/-- How a read of the client ends. -/
inductive Delivery where
  | frame (frame : ServerFrame)
  | ended
  | deadline
  deriving DecidableEq

/-- What a pending read returns. -/
def readReply : (call : ClientCall) → Delivery → Option call.Reply
  | .readFrame, .frame frame => some (.ok frame)
  | .readFrame, .ended => some (.error "stream ended")
  | .readFrameWithin _, .frame frame => some (some (.ok frame))
  | .readFrameWithin _, .ended => some (some (.error "stream ended"))
  | .readFrameWithin _, .deadline => some none
  | _, _ => none

structure ControlStream where
  notified : NotifiedServer
  client : ClientState
  /-- written by the client, not yet read by the session -/
  toServer : List ClientFrame
  /-- written by the session, not yet read by the client -/
  inbox : List ServerFrame
  answers : List ServerFrame
  results : List CallReturn

namespace ControlStream

inductive Event where
  | relay (event : NotifiedServer.Event)
  | begin (request : Request)
  /-- the client writes; `delivered` is false if the stream is broken -/
  | write (delivered : Bool)
  | read
  | ended
  | deadline
  | bye

def init (notified : NotifiedServer) : ControlStream where
  notified := notified
  client := .idle
  toServer := []
  inbox := []
  answers := []
  results := []

variable (connection : Connection)

abbrev task (stream : ControlStream) : Task := stream.notified.server.tasks connection

/-- The handshake of the connection is over. -/
def authenticated : Task → Bool
  | .absent | .handshaking _ => false
  | _ => true

/-- The relay no longer reads from the stream or writes to it. -/
def isOver : Task → Bool
  | .ended _ _ | .closed => true
  | _ => false

/-- The session reads what the client wrote, and its writes succeed. -/
def reliable (stream : ControlStream) : NotifiedServer.Event → Bool
  | .metered (.relay (.frame target frame)) =>
    target != connection || stream.toServer.head? == some frame
  | .metered (.relay (.call target choice)) =>
    target != connection || choice.written == .ok ()
  | _ => true

def taken (stream : ControlStream) : NotifiedServer.Event → List ClientFrame
  | .metered (.relay (.frame target _)) =>
    if target = connection then stream.toServer.tail else stream.toServer
  | _ => stream.toServer

/-- The frame a dispatch is about to write. -/
def answering : Task → List ServerFrame
  | .dispatching _ _ (.call (.writeFrame frame) _) => [frame]
  | _ => []

def answered (stream : ControlStream) : NotifiedServer.Event → List ServerFrame
  | .metered (.relay (.call target _)) =>
    if target = connection then answering (stream.task connection) else []
  | _ => []

/-- What the session wrote in one step. -/
def said (before after : Server) : List ServerFrame :=
  match (before.tasks connection).running? with
  | some _ => (after.sent connection).drop (before.sent connection).length
  | none => []

/-- A call of the client goes on, or returns. -/
def proceed (stream : ControlStream) : CallProgram → ControlStream
  | .ret (.listed result) =>
    { stream with client := .idle, results := stream.results ++ [.listed result] }
  | .ret (.published result) =>
    { stream with client := .gone, results := stream.results ++ [.published result] }
  | program => { stream with client := .calling program }

def deliver (stream : ControlStream) (delivery : Delivery) : Option ControlStream :=
  match stream.client with
  | .calling (.call call next) =>
    (readReply call delivery).map fun reply => stream.proceed (next reply)
  | _ => none

def step (stream : ControlStream) : Event → Option ControlStream
  | .relay event =>
    if stream.reliable connection event then
      (stream.notified.step event).map fun next =>
        { stream with
          notified := next
          toServer := stream.taken connection event
          inbox := stream.inbox ++ said connection stream.notified.server next.server
          answers := stream.answers ++ stream.answered connection event }
    else none
  | .begin request =>
    match stream.client with
    | .idle =>
      if authenticated (stream.task connection) then
        some { stream with client := .calling request.program }
      else none
    | _ => none
  | .write delivered =>
    match stream.client with
    | .calling (.call (.writeFrame frame) next) =>
      if delivered then
        some ({ stream with toServer := stream.toServer ++ [frame] }.proceed (next (.ok ())))
      else if isOver (stream.task connection) then
        some (stream.proceed (next (.error "connection lost")))
      else none
    | _ => none
  | .read =>
    match stream.inbox with
    | frame :: rest => { stream with inbox := rest }.deliver (.frame frame)
    | [] => none
  | .ended =>
    if stream.inbox.isEmpty && isOver (stream.task connection) then stream.deliver .ended else none
  | .deadline => stream.deliver .deadline
  | .bye =>
    match stream.client with
    | .gone => some { stream with toServer := stream.toServer ++ [.bye] }
    | _ => none

end ControlStream

end KrotRelay.Source
