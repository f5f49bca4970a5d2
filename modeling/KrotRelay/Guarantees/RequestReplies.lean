import KrotRelay.Guarantees.QuotaNotices
import KrotRelay.Guarantees.StreamMoves

/-!
Requests and replies on one Control stream. The client takes the next frame for the answer to
its request, and the session forwards notices between the answers: the two agree as long as no
notice arrives during a call.
-/
namespace KrotRelay.Guarantees
open Source Lib List

/-- The call returned what the relay answered. -/
def Matches : CallReturn → Option ServerFrame → Prop
  | .listed result, answer => ∀ relays, result = .ok relays ↔ answer = some (.peers relays)
  | .published result, answer =>
    (∀ tunnel, result = .ok tunnel ↔
      answer = some (.tunnelRegistered tunnel.tunnelId tunnel.publicUrl tunnel.publicPort)) ∧
    ∀ code detail, result = .error (.tunnelRejected code detail) ↔
      answer = some (.tunnelRejected code detail)

/-- Every call so far returned the answer to its own request. -/
def RepliesPaired (stream : ControlStream) : Prop :=
  ∀ (place : Nat) result, stream.results[place]? = some result → Matches result stream.answers[place]?

section Condition

/-- No notice is forwarded to the client during a call or waits unread when one begins, and
the deadline of `publish` ends no wait for an answer that is still to come. -/
def unmixed (connection : Connection) (stream : ControlStream) : ControlStream.Event → Bool
  | .relay (.forward target _) => target != connection || !stream.client.waits
  | .begin _ => stream.inbox.all fun frame => !isNotice frame
  | .deadline => ControlStream.isOver (stream.task connection) && stream.inbox.isEmpty
  | _ => true

end Condition

section Calls

/-- A frame that answers `list_peers` or `publish`. -/
def isAnswer : ServerFrame → Bool
  | .peers _ | .tunnelRegistered _ _ _ | .tunnelRejected _ _ => true
  | _ => false

/-- The call's return in case of an error. -/
def returnError : Request → ClientError → CallReturn
  | .peers, problem => .listed (.error problem)
  | .tunnel _ _ _ _, problem => .published (.error problem)

/-- The call's return after a frame. -/
def returnFrame : Request → ServerFrame → CallReturn
  | .peers, .peers relays => .listed (.ok relays)
  | .peers, _ => .listed (.error (.protocol "expected Peers response"))
  | .tunnel _ _ _ _, .tunnelRegistered tunnelId publicUrl publicPort =>
    .published (.ok ⟨tunnelId, publicUrl, publicPort⟩)
  | .tunnel _ _ _ _, .tunnelRejected code detail =>
    .published (.error (.tunnelRejected code detail))
  | .tunnel _ _ _ _, _ => .published (.error (.protocol "expected TunnelRegistered"))

/-- The call once its request is written. -/
def awaiting : Request → CallProgram
  | .peers => .call .readFrame fun reply =>
    match reply with
    | .ok frame => .ret (returnFrame .peers frame)
    | .error detail => .ret (returnError .peers (.transport detail))
  | .tunnel label kind inspector resumeSessionId =>
    .call (.readFrameWithin Client.registrationDeadline) fun reply =>
      match reply with
      | some (.ok frame) => .ret (returnFrame (.tunnel label kind inspector resumeSessionId) frame)
      | some (.error detail) =>
        .ret (returnError (.tunnel label kind inspector resumeSessionId) (.transport detail))
      | none => .ret (returnError (.tunnel label kind inspector resumeSessionId) .registrationTimeout)

/-- A call writes its request, and then waits. -/
theorem program_eq (request : Request) :
    request.program = .call (.writeFrame request.frame) fun reply =>
      match reply with
      | .ok () => awaiting request
      | .error detail => .ret (returnError request (.transport detail)) := by
  cases request with
  | peers =>
    refine congrArg (Prog.call _) (funext fun reply => ?_)
    cases reply with
    | error => rfl
    | ok =>
      refine congrArg (Prog.call _) (funext fun reply => ?_)
      cases reply with
      | error => rfl
      | ok frame => cases frame <;> rfl
  | tunnel =>
    refine congrArg (Prog.call _) (funext fun reply => ?_)
    cases reply with
    | error => rfl
    | ok =>
      refine congrArg (Prog.call _) (funext fun reply => ?_)
      cases reply with
      | none => rfl
      | some reply =>
        cases reply with
        | error => rfl
        | ok frame => cases frame <;> rfl

/-- Where the client is after a call. -/
def afterCall : Request → ClientState
  | .peers => .idle
  | .tunnel _ _ _ _ => .gone

/-- The result goes with the request. -/
def belongs : Request → CallReturn → Bool
  | .peers, .listed _ => true
  | .tunnel _ _ _ _, .published _ => true
  | _, _ => false

theorem belongs_error (request : Request) (problem : ClientError) :
    belongs request (returnError request problem) = true := by
  cases request <;> rfl

theorem belongs_frame (request : Request) (frame : ServerFrame) :
    belongs request (returnFrame request frame) = true := by
  cases request <;> cases frame <;> rfl

theorem proceed_return {request : Request} {result : CallReturn}
    (own : belongs request result = true) (stream : ControlStream) : stream.proceed (.ret result) =
      { stream with client := afterCall request, results := stream.results ++ [result] } := by
  cases request <;> cases result <;> first | rfl | cases own

theorem matches_reply {request : Request} {reply : ServerFrame}
    (fits : isReply request.frame reply = true) : Matches (returnFrame request reply) (some reply) := by
  cases request <;> cases reply <;> cases fits
  · intro relays
    simp
  · refine ⟨fun tunnel => ?_, fun code detail => ?_⟩
    · constructor
      · intro same
        cases same
        rfl
      · intro same
        cases same
        rfl
    · simp
  · refine ⟨fun tunnel => ?_, fun code detail => ?_⟩ <;> simp

/-- Any other frame is reported as an error of the protocol. -/
theorem matches_other {request : Request} {frame : ServerFrame} (other : isAnswer frame = false) :
    Matches (returnFrame request frame) none := by
  cases request <;> cases frame <;> cases other <;> simp [returnFrame, Matches]

theorem matches_error {problem : ClientError} (request : Request)
    (other : ∀ code detail, problem ≠ .tunnelRejected code detail) :
    Matches (returnError request problem) none := by
  cases request <;> simp [returnError, Matches, other]

end Calls

section Exchange

/-- Where the exchange between client and session stands. -/
inductive ExchangePhase (stream : ControlStream) : Status → Prop where
  | resting (status) (free : status = .before ∨ status = .free)
      (client : stream.client = .idle) (sent : stream.toServer = [])
      (unread : ∀ frame ∈ stream.inbox, isNotice frame = true)
      (level : stream.answers.length = stream.results.length) : ExchangePhase stream status
  | asking (request : Request) (status : Status) (free : status = .before ∨ status = .free)
      (client : stream.client = .calling request.program) (sent : stream.toServer = [])
      (unread : stream.inbox = []) (level : stream.answers.length = stream.results.length) :
      ExchangePhase stream status
  | asked (request status) (free : status = .before ∨ status = .free)
      (client : stream.client = .calling (awaiting request))
      (sent : stream.toServer = [request.frame]) (unread : stream.inbox = [])
      (level : stream.answers.length = stream.results.length) : ExchangePhase stream status
  | served (request) (client : stream.client = .calling (awaiting request))
      (sent : stream.toServer = []) (unread : stream.inbox = [])
      (level : stream.answers.length = stream.results.length) :
      ExchangePhase stream (.busy request.frame)
  /-- the answer is on its way, at most a farewell behind it -/
  | answered (request reply rest earlier status)
      (free : status = .free ∧ rest = [] ∨ status = .ended)
      (client : stream.client = .calling (awaiting request)) (sent : stream.toServer = [])
      (unread : stream.inbox = reply :: rest)
      (farewell : ∀ frame ∈ rest, isAnswer frame = false)
      (fits : isReply request.frame reply = true)
      (answers : stream.answers = earlier ++ [reply])
      (level : earlier.length = stream.results.length) : ExchangePhase stream status
  /-- `publish` has returned -/
  | left (status) (client : stream.client = .gone) (free : status = .ended ∨
        (status = .before ∨ status = .free) ∧ ∀ frame ∈ stream.toServer, frame = .bye) :
      ExchangePhase stream status
  /-- no answer will come any more -/
  | closed (client : stream.client = .idle ∨ ∃ request : Request,
        stream.client = .calling request.program ∨ stream.client = .calling (awaiting request))
      (unread : ∀ frame ∈ stream.inbox, isAnswer frame = false)
      (level : stream.answers.length ≤ stream.results.length) : ExchangePhase stream .ended

theorem isAnswer_of_isNotice {frame : ServerFrame} (notice : isNotice frame = true) :
    isAnswer frame = false := by
  cases frame <;> first | rfl | cases notice

theorem isAnswer_of_bye {parting : List ServerFrame}
    (bye : ∀ frame ∈ parting, ∃ code, frame = .serverBye code) :
    ∀ frame ∈ parting, isAnswer frame = false := by
  intro frame mem
  obtain ⟨code, rfl⟩ := bye frame mem
  rfl

theorem standing_isOver {task : Task} {status : Status} (standing : Standing task status)
    (gone : ControlStream.isOver task = true) : status = .ended := by
  cases standing with
  | before _ early => cases task <;> cases early <;> cases gone
  | resting | done | busy => cases gone
  | returned | closed => rfl

variable {conn : Connection} {stream next : ControlStream} {status later : Status}
  {took : List ClientFrame} {told gave : List ServerFrame}

theorem changed_quiet (changed : Changed stream next [] [] []) :
    next = { stream with notified := next.notified } := by
  obtain ⟨toServer, inbox, answers, client, results⟩ := changed
  rw [nil_append] at toServer
  rw [append_nil] at inbox answers
  cases stream
  cases next
  simp_all

namespace ExchangePhase

theorem quiet (phase : ExchangePhase stream status) (notified : NotifiedServer) :
    ExchangePhase { stream with notified := notified } status := by
  cases phase with
  | resting _ free client sent unread level => exact .resting _ free client sent unread level
  | asking request _ free client sent unread level =>
    exact .asking request _ free client sent unread level
  | asked request _ free client sent unread level =>
    exact .asked request _ free client sent unread level
  | served request client sent unread level => exact .served request client sent unread level
  | answered request reply rest earlier _ free client sent unread farewell fits answers level =>
    exact .answered request reply rest earlier _ free client sent unread farewell fits answers level
  | left _ client free => exact .left _ client free
  | closed client unread level => exact .closed client unread level

theorem began (phase : ExchangePhase stream .before) : ExchangePhase stream .free := by
  cases phase with
  | resting _ _ client sent unread level => exact .resting _ (.inr rfl) client sent unread level
  | asking request _ _ client sent unread level =>
    exact .asking request _ (.inr rfl) client sent unread level
  | asked request _ _ client sent unread level =>
    exact .asked request _ (.inr rfl) client sent unread level
  | answered _ _ _ _ _ free => simp at free
  | left _ client free =>
    rcases free with ⟨⟨⟩⟩ | ⟨_, onlyBye⟩
    exact .left _ client (.inr ⟨.inr rfl, onlyBye⟩)

/-- The session stops; what it still says is no answer. -/
theorem stop (phase : ExchangePhase stream status) (running : status ≠ .ended)
    (farewell : ∀ frame ∈ told, isAnswer frame = false)
    (changed : Changed stream next [] told []) : ExchangePhase next .ended := by
  obtain ⟨toServer, inbox, answers, client, results⟩ := changed
  rw [append_nil] at answers
  have level (before : stream.answers.length = stream.results.length) :
      next.answers.length ≤ next.results.length := by
    rw [answers, results]
    exact before.le
  have unread (before : ∀ frame ∈ stream.inbox, isAnswer frame = false) :
      ∀ frame ∈ next.inbox, isAnswer frame = false := by
    rw [inbox]
    exact forall_mem_append.mpr ⟨before, farewell⟩
  have none (empty : stream.inbox = []) : ∀ frame ∈ stream.inbox, isAnswer frame = false := by
    rw [empty]
    exact forall_mem_nil _
  cases phase with
  | resting _ _ idle _ notices balanced =>
    exact .closed (.inl (client.trans idle))
      (unread fun frame mem => isAnswer_of_isNotice (notices frame mem)) (level balanced)
  | asking request _ _ calls _ empty balanced =>
    exact .closed (.inr ⟨request, .inl (client.trans calls)⟩) (unread (none empty)) (level balanced)
  | asked request _ _ calls _ empty balanced =>
    exact .closed (.inr ⟨request, .inr (client.trans calls)⟩) (unread (none empty)) (level balanced)
  | served request calls _ empty balanced =>
    exact .closed (.inr ⟨request, .inr (client.trans calls)⟩) (unread (none empty)) (level balanced)
  | answered request reply rest earlier _ _ calls sent full later fits answer balanced =>
    refine .answered request reply (rest ++ told) earlier _ (.inr rfl) (client.trans calls)
      (toServer.symm.trans sent) ?_ (forall_mem_append.mpr ⟨later, farewell⟩) fits
      (answers.trans answer) (results ▸ balanced)
    rw [inbox, full, cons_append]
  | left _ gone => exact .left _ (client.trans gone) (.inl rfl)
  | closed => exact absurd rfl running

/-- The session takes the request of the call that waits, or `Bye`. -/
theorem take {frame : ClientFrame} (phase : ExchangePhase stream .free)
    (goes : later = .busy frame ∧ hasAnswer frame = true ∨ later = .ended)
    (changed : Changed stream next [frame] [] []) : ExchangePhase next later := by
  obtain ⟨toServer, inbox, answers, client, results⟩ := changed
  rw [append_nil] at inbox answers
  have untaken (sent : stream.toServer = []) : False := by
    rw [sent] at toServer
    cases toServer
  cases phase with
  | resting _ _ _ sent => exact (untaken sent).elim
  | asking _ _ _ _ sent => exact (untaken sent).elim
  | answered _ _ _ _ _ _ _ sent => exact (untaken sent).elim
  | asked request _ _ calls sent unread level =>
    rw [sent] at toServer
    obtain ⟨rfl, rest⟩ := List.cons.inj toServer
    rcases goes with ⟨rfl, _⟩ | rfl
    · exact .served request (client.trans calls) rest.symm (inbox.trans unread)
        (by rw [answers, results]; exact level)
    · refine .closed (.inr ⟨request, .inr (client.trans calls)⟩) ?_
        (by rw [answers, results]; exact level.le)
      rw [inbox, unread]
      exact forall_mem_nil _
  | left _ gone free =>
    rcases free with ⟨⟨⟩⟩ | ⟨_, onlyBye⟩
    obtain rfl := onlyBye frame (toServer ▸ mem_cons_self)
    rcases goes with ⟨_, ⟨⟩⟩ | rfl
    exact .left _ (client.trans gone) (.inl rfl)

theorem answer {frame : ClientFrame} {reply : ServerFrame} (phase : ExchangePhase stream (.busy frame))
    (fits : isReply frame reply = true) (goes : later = .free ∨ later = .ended)
    (changed : Changed stream next [] [reply] [reply]) : ExchangePhase next later := by
  obtain ⟨toServer, inbox, answers, client, results⟩ := changed
  cases phase with
  | resting _ free | asking _ _ free | asked _ _ free => simp at free
  | answered _ _ _ _ _ free => simp at free
  | left _ _ free => simp at free
  | served request calls sent unread level =>
    refine .answered request reply [] stream.answers later (goes.imp_left fun same => ⟨same, rfl⟩)
      (client.trans calls) (toServer.symm.trans sent) ?_ (forall_mem_nil _) fits answers
      (results ▸ level)
    rw [inbox, unread]
    rfl

/-- The relay's side of the exchange. -/
theorem move (phase : ExchangePhase stream status) (moves : StreamMove status took told gave later)
    (changed : Changed stream next took told gave) : ExchangePhase next later := by
  cases moves with
  | none =>
    rw [changed_quiet changed]
    exact phase.quiet _
  | began =>
    rw [changed_quiet changed]
    exact phase.began.quiet _
  | failed => exact phase.stop (by rintro ⟨⟩) (forall_mem_nil _) changed
  | took _ _ goes => exact phase.take goes changed
  | answered _ _ _ fits goes => exact phase.answer fits goes changed
  | stopped _ _ running bye => exact phase.stop running.2 (isAnswer_of_bye bye) changed

theorem level_of_busy {frame : ClientFrame} (phase : ExchangePhase stream (.busy frame)) :
    stream.answers.length = stream.results.length := by
  cases phase with
  | resting _ _ _ _ _ level | asking _ _ _ _ _ _ level | asked _ _ _ _ _ _ level => exact level
  | served _ _ _ _ level => exact level
  | answered _ _ _ _ _ free => simp at free
  | left _ _ free => simp at free

/-- A notice reaches a client that is not waiting. -/
theorem notice {frame : ServerFrame} (phase : ExchangePhase stream .free)
    (resting : stream.client.waits = false) (told : isNotice frame = true)
    (changed : Changed stream next [] [frame] []) : ExchangePhase next .free := by
  obtain ⟨toServer, inbox, answers, client, results⟩ := changed
  rw [append_nil] at answers
  cases phase with
  | resting _ free idle sent unread level =>
    refine .resting _ free (client.trans idle) (toServer.symm.trans sent) ?_
      (by rw [answers, results]; exact level)
    rw [inbox]
    exact forall_mem_append.mpr ⟨unread, forall_mem_singleton.mpr told⟩
  | asking _ _ _ calls | asked _ _ _ calls | answered _ _ _ _ _ _ calls =>
    rw [calls] at resting
    cases resting
  | left _ gone => exact .left _ (client.trans gone) (by rwa [← nil_append next.toServer, ← toServer])

/-- A call that returns on a stream that is over leaves it over. -/
theorem returned (request : Request) (client : next.client = afterCall request)
    (unread : ∀ frame ∈ next.inbox, isAnswer frame = false)
    (level : next.answers.length ≤ next.results.length) : ExchangePhase next .ended := by
  cases request with
  | peers => exact .closed (.inl client) unread level
  | tunnel => exact .left _ client (.inl rfl)

end ExchangePhase

/-- Every result so far is paired, and the exchange is in one of its phases. -/
structure Exchanging (connection : Connection) (stream : ControlStream) : Prop where
  notices : OnlyNotices stream.notified
  known : ∀ frame ∈ stream.toServer, hasAnswer frame = true ∨ frame = .bye
  stands : ∃ status, Standing (stream.task connection) status ∧ ExchangePhase stream status
  paired : RepliesPaired stream

theorem paired_more (paired : RepliesPaired stream) (results : next.results = stream.results)
    (answers : next.answers = stream.answers ++ gave)
    (late : gave = [] ∨ stream.results.length ≤ stream.answers.length) : RepliesPaired next := by
  intro place result found
  rw [results] at found
  have fits := paired place result found
  have inside : place < stream.results.length := (List.getElem?_eq_some_iff.mp found).1
  rw [answers]
  rcases late with rfl | long
  · rw [append_nil]
    exact fits
  · rw [getElem?_append_left (by omega)]
    exact fits

theorem paired_push {result : CallReturn} (paired : RepliesPaired stream)
    (results : next.results = stream.results ++ [result]) (answers : next.answers = stream.answers)
    (fits : Matches result stream.answers[stream.results.length]?) : RepliesPaired next := by
  intro place found at_
  rw [results] at at_
  rw [answers]
  rcases Nat.lt_trichotomy place stream.results.length with before | rfl | beyond
  · rw [getElem?_append_left before] at at_
    exact paired place found at_
  · rw [getElem?_concat_length] at at_
    cases at_
    exact fits
  · rw [getElem?_eq_none (by rw [length_append, length_singleton]; omega)] at at_
    cases at_

/-- What a call returns when its read ends. -/
def returnDelivery (request : Request) : Delivery → CallReturn
  | .frame frame => returnFrame request frame
  | .ended => returnError request (.transport "stream ended")
  | .deadline => returnError request .registrationTimeout

theorem deliver_awaiting {request : Request} {delivery : Delivery}
    (calls : stream.client = .calling (awaiting request))
    (done : stream.deliver delivery = some next) : next = { stream with
      client := afterCall request
      results := stream.results ++ [returnDelivery request delivery] } := by
  unfold ControlStream.deliver at done
  rw [calls] at done
  have returns (result : CallReturn) (own : belongs request result = true)
      (same : some (stream.proceed (.ret result)) = some next) :
      next = { stream with
        client := afterCall request, results := stream.results ++ [result] } := by
    rw [← proceed_return own]
    exact (Option.some.inj same).symm
  cases request with
  | peers =>
    cases delivery with
    | frame frame => exact returns _ (belongs_frame _ frame) done
    | ended => exact returns _ (belongs_error _ _) done
    | deadline => cases done
  | tunnel =>
    cases delivery with
    | frame frame => exact returns _ (belongs_frame _ frame) done
    | ended | deadline => exact returns _ (belongs_error _ _) done

/-- A call that has not written its request reads nothing. -/
theorem deliver_program {request : Request} (delivery : Delivery)
    (calls : stream.client = .calling request.program) : stream.deliver delivery = none := by
  unfold ControlStream.deliver
  rw [calls, program_eq]
  cases delivery <;> rfl

theorem write_program {request : Request} {delivered : Bool}
    (calls : stream.client = .calling request.program) : stream.step conn (.write delivered) =
      if delivered then
        some { stream with
          toServer := stream.toServer ++ [request.frame], client := .calling (awaiting request) }
      else if ControlStream.isOver (stream.task conn) then
        some (stream.proceed (.ret (returnError request (.transport "connection lost"))))
      else none := by
  simp only [ControlStream.step, calls, program_eq]
  cases request <;> rfl

/-- A call that waits writes nothing. -/
theorem write_awaiting {request : Request} {delivered : Bool}
    (calls : stream.client = .calling (awaiting request)) :
    stream.step conn (.write delivered) = none := by
  simp only [ControlStream.step, calls]
  cases request <;> rfl

theorem matches_delivery {delivery : Delivery} (request : Request)
    (other : ∀ frame, delivery = .frame frame → isAnswer frame = false) :
    Matches (returnDelivery request delivery) none := by
  cases delivery with
  | frame frame => exact matches_other (other frame rfl)
  | ended | deadline => exact matches_error request (by rintro _ _ ⟨⟩)

namespace Exchanging
variable (holds : Exchanging conn stream)
include holds

theorem relay {event : NotifiedServer.Event} (met : unmixed conn stream (.relay event) = true)
    (step : stream.step conn (.relay event) = some next) : Exchanging conn next := by
  obtain ⟨status, standing, phase⟩ := holds.stands
  have notices : OnlyNotices next.notified := by
    simp only [ControlStream.step] at step
    split at step
    · obtain ⟨_, moved, rfl⟩ := Option.map_eq_some_iff.mp step
      exact holds.notices.step moved
    · cases step
  rcases relay_move step standing holds.notices holds.known with
    ⟨later, took, told, gave, stands, moves, changed⟩ |
    ⟨written, frame, rfl, told, rfl, stands, changed⟩
  · refine ⟨notices, ?_, ⟨later, stands, phase.move moves changed⟩,
      paired_more holds.paired changed.results changed.answers ?_⟩
    · intro frame mem
      exact holds.known frame (changed.toServer ▸ mem_append_right _ mem)
    · cases moves with
      | answered => exact .inr phase.level_of_busy.ge
      | _ => exact .inl rfl
  · have resting : stream.client.waits = false := by simpa [unmixed] using met
    refine ⟨notices, ?_, ⟨.free, stands, phase.notice resting told changed⟩,
      paired_more holds.paired changed.results changed.answers (.inl rfl)⟩
    intro frame mem
    exact holds.known frame (changed.toServer ▸ mem)

/-- No answer comes any more, and the client's read ends. -/
theorem deliver_closed {delivery : Delivery} {rest : List ServerFrame}
    (standing : Standing (stream.task conn) .ended)
    (client : stream.client = .idle ∨ ∃ request : Request,
      stream.client = .calling request.program ∨ stream.client = .calling (awaiting request))
    (unread : ∀ frame ∈ rest, isAnswer frame = false)
    (level : stream.answers.length ≤ stream.results.length)
    (other : ∀ frame, delivery = .frame frame → isAnswer frame = false)
    (done : { stream with inbox := rest }.deliver delivery = some next) : Exchanging conn next := by
  rcases client with idle | ⟨request, calls | calls⟩
  · simp only [ControlStream.deliver, idle] at done
    cases done
  · rw [@deliver_program { stream with inbox := rest } request delivery calls] at done
    cases done
  · obtain rfl := @deliver_awaiting { stream with inbox := rest } next request delivery calls done
    refine ⟨holds.notices, holds.known, ⟨.ended, standing, ?_⟩, ?_⟩
    · exact .returned request rfl unread (level.trans (by simp))
    · refine paired_push holds.paired rfl rfl ?_
      rw [getElem?_eq_none level]
      exact matches_delivery request other

/-- The stream ends, or the deadline passes once it has. -/
theorem deliver_over {delivery : Delivery} (silent : ∀ frame, delivery ≠ .frame frame)
    (gone : ControlStream.isOver (stream.task conn) = true) (empty : stream.inbox = [])
    (done : stream.deliver delivery = some next) : Exchanging conn next := by
  obtain ⟨status, standing, phase⟩ := holds.stands
  obtain rfl := standing_isOver standing gone
  cases phase with
  | resting _ free | asking _ _ free | asked _ _ free => simp at free
  | answered _ _ _ _ _ _ _ _ full =>
    rw [empty] at full
    cases full
  | left _ client =>
    simp only [ControlStream.deliver, client] at done
    cases done
  | closed client unread level =>
    exact holds.deliver_closed standing client unread level
      (fun frame same => absurd same (silent frame)) done

theorem read (step : stream.step conn .read = some next) : Exchanging conn next := by
  obtain ⟨status, standing, phase⟩ := holds.stands
  simp only [ControlStream.step] at step
  split at step
  · rename_i frame rest inbox
    cases phase with
    | resting _ _ client | left _ client =>
      simp only [ControlStream.deliver, client] at step
      cases step
    | asking _ _ _ _ _ empty | asked _ _ _ _ _ empty | served _ _ _ empty =>
      rw [empty] at inbox
      cases inbox
    | answered request _ farewells _ _ free calls sent full farewell fits answers level =>
      rw [full] at inbox
      obtain ⟨rfl, same⟩ := List.cons.inj inbox
      subst same
      obtain rfl :=
        @deliver_awaiting { stream with inbox := farewells } next request _ calls step
      have counted : stream.answers.length = stream.results.length + 1 := by
        rw [answers, length_append, level]
        rfl
      refine ⟨holds.notices, holds.known, ⟨status, standing, ?_⟩, ?_⟩
      · rcases free with ⟨rfl, rfl⟩ | rfl
        · cases request with
          | peers =>
            refine .resting _ (.inr rfl) rfl sent (forall_mem_nil _) ?_
            rw [counted]
            simp
          | tunnel =>
            refine .left _ rfl (.inr ⟨.inr rfl, ?_⟩)
            dsimp only
            rw [sent]
            exact forall_mem_nil _
        · refine .returned request rfl farewell ?_
          rw [counted]
          simp
      · refine paired_push holds.paired rfl rfl ?_
        rw [answers, ← level, getElem?_concat_length]
        exact matches_reply fits
    | closed client unread level =>
      rw [inbox] at unread
      have others := forall_mem_cons.mp unread
      refine holds.deliver_closed standing client others.2 level ?_ step
      rintro _ ⟨⟩
      exact others.1
  · cases step

theorem ended (step : stream.step conn .ended = some next) : Exchanging conn next := by
  simp only [ControlStream.step] at step
  split at step
  · rename_i ran
    obtain ⟨empty, gone⟩ := Bool.and_eq_true_iff.mp ran
    exact holds.deliver_over (by rintro _ ⟨⟩) gone (List.isEmpty_iff.mp empty) step
  · cases step

theorem deadline (met : unmixed conn stream .deadline = true)
    (step : stream.step conn .deadline = some next) : Exchanging conn next := by
  obtain ⟨gone, empty⟩ := Bool.and_eq_true_iff.mp met
  exact holds.deliver_over (by rintro _ ⟨⟩) gone (List.isEmpty_iff.mp empty) step

theorem begin {request : Request} (met : unmixed conn stream (.begin request) = true)
    (step : stream.step conn (.begin request) = some next) : Exchanging conn next := by
  obtain ⟨status, standing, phase⟩ := holds.stands
  simp only [ControlStream.step] at step
  split at step
  · rename_i idle
    split at step <;> cases step
    refine ⟨holds.notices, holds.known, ⟨status, standing, ?_⟩, holds.paired⟩
    cases phase with
    | resting _ free _ sent unread level =>
      refine .asking request _ free rfl sent (eq_nil_iff_forall_not_mem.mpr ?_) level
      intro frame mem
      have plain := all_eq_true.mp met frame mem
      rw [unread frame mem] at plain
      cases plain
    | asking _ _ _ client | asked _ _ _ client | served _ client | answered _ _ _ _ _ _ client
    | left _ client =>
      rw [client] at idle
      cases idle
    | closed client unread level => exact .closed (.inr ⟨request, .inl rfl⟩) unread level
  · cases step

theorem bye (step : stream.step conn .bye = some next) : Exchanging conn next := by
  obtain ⟨status, standing, phase⟩ := holds.stands
  simp only [ControlStream.step] at step
  split at step
  · rename_i gone
    cases step
    refine ⟨holds.notices, ?_, ⟨status, standing, ?_⟩, holds.paired⟩
    · exact forall_mem_append.mpr ⟨holds.known, forall_mem_singleton.mpr (.inr rfl)⟩
    · cases phase with
      | left _ client free =>
        refine .left _ client (free.imp_right ?_)
        rintro ⟨open_, onlyBye⟩
        refine ⟨open_, ?_⟩
        exact forall_mem_append.mpr ⟨onlyBye, forall_mem_singleton.mpr rfl⟩
      | resting _ _ client | asking _ _ _ client | asked _ _ _ client | served _ client
      | answered _ _ _ _ _ _ client =>
        rw [client] at gone
        cases gone
      | closed client =>
        rcases client with client | ⟨request, client | client⟩
        all_goals rw [client] at gone; cases gone
  · cases step

theorem write {delivered : Bool} (step : stream.step conn (.write delivered) = some next) :
    Exchanging conn next := by
  obtain ⟨status, standing, phase⟩ := holds.stands
  have waits {request : Request} (calls : stream.client = .calling (awaiting request)) :
      Exchanging conn next := by
    rw [write_awaiting calls] at step
    cases step
  have known (request : Request) : ∀ frame ∈ stream.toServer ++ [request.frame],
      hasAnswer frame = true ∨ frame = .bye := by
    refine forall_mem_append.mpr ⟨holds.known, forall_mem_singleton.mpr (.inl ?_)⟩
    cases request <;> rfl
  cases phase with
  | resting _ _ client | left _ client =>
    simp only [ControlStream.step, client] at step
    cases step
  | asked _ _ _ calls | served _ calls | answered _ _ _ _ _ _ calls => exact waits calls
  | asking request _ free calls sent unread level =>
    rw [write_program calls] at step
    split at step
    · cases step
      refine ⟨holds.notices, known request, ⟨status, standing, ?_⟩, holds.paired⟩
      exact .asked request _ free rfl (by rw [sent]; rfl) unread level
    · split at step
      · rename_i gone
        obtain rfl := standing_isOver standing gone
        simp at free
      · cases step
  | closed client unread level =>
    rcases client with client | ⟨request, calls | calls⟩
    · simp only [ControlStream.step, client] at step
      cases step
    · rw [write_program calls] at step
      split at step
      · cases step
        refine ⟨holds.notices, known request, ⟨.ended, standing, ?_⟩, holds.paired⟩
        exact .closed (.inr ⟨request, .inr rfl⟩) unread level
      · split at step <;> cases step
        rw [proceed_return (belongs_error request _)]
        refine ⟨holds.notices, holds.known, ⟨.ended, standing, ?_⟩, ?_⟩
        · exact .returned request rfl unread (level.trans (by simp))
        · refine paired_push holds.paired rfl rfl ?_
          rw [getElem?_eq_none level]
          exact matches_error request (by rintro _ _ ⟨⟩)
    · exact waits calls

theorem step {event : ControlStream.Event} (met : unmixed conn stream event = true)
    (stepped : stream.step conn event = some next) : Exchanging conn next := by
  cases event with
  | relay => exact holds.relay met stepped
  | begin => exact holds.begin met stepped
  | write => exact holds.write stepped
  | read => exact holds.read stepped
  | ended => exact holds.ended stepped
  | deadline => exact holds.deadline met stepped
  | bye => exact holds.bye stepped

end Exchanging

theorem exchanging_init (conn : Connection) (config : Config) (pool : PortPool)
    (entries : HashMap PubKey AuthorizedEntry) (peers : List String) (now : Instant)
    (bwPartitions : Nat) : Exchanging conn
      (.init (.init (.init (Server.init config pool entries peers now) bwPartitions))) where
  notices := by rintro _ _ ⟨⟩
  known := by rintro _ ⟨⟩
  stands := ⟨.before, .before _ rfl, .resting _ (.inl rfl) rfl rfl (by rintro _ ⟨⟩) rfl⟩
  paired := by
    intro place result found
    cases found

/-- In every run in which no notice arrives during a call, and no deadline ends a wait for an
answer that may still come, every call returns the answer to its own request. -/
theorem replies_paired (config : Config) (pool : PortPool)
    (entries : HashMap PubKey AuthorizedEntry) (peers : List String) (now : Instant)
    (bwPartitions : Nat) (connection : Connection) (events : List ControlStream.Event)
    (stream : ControlStream)
    (met : Meets (ControlStream.step connection)
      (fun state event => unmixed connection state event = true)
      (.init (.init (.init (Server.init config pool entries peers now) bwPartitions))) events)
    (finished : run (ControlStream.step connection)
      (.init (.init (.init (Server.init config pool entries peers now) bwPartitions))) events =
        some stream) : RepliesPaired stream := by
  have start := exchanging_init connection config pool entries peers now bwPartitions
  exact (run_meets (Exchanging connection)
    (fun _ _ _ holds met stepped => holds.step met stepped) start met
    finished).paired

end Exchange

section TwoSessions

/-- Events of the relay in which no data path takes part. -/
def relaySteps (events : List Event) : List ControlStream.Event :=
  events.map fun event => .relay (.metered (.relay event))

/-- dave has a tunnel on one connection and signs in on another. -/
def daveTwice : List ControlStream.Event :=
  relaySteps (signIn ⟨1⟩ dave ⟨.replicate 16 2⟩ ++ publishHttp ⟨1⟩ "blog" ++
    signIn ⟨0⟩ dave ⟨.replicate 16 1⟩)

/-- Traffic of the tunnel exceeds the quota of the key. -/
def overQuota : ControlStream.Event := .relay (.metered (.charge ⟨0⟩ 0 ⟨1⟩ 2000))

/-- `list_peers`, then `publish`; the notice comes when both have returned. -/
def noticeAfterCalls : List ControlStream.Event :=
  daveTwice ++ [.begin .peers, .write true] ++
    relaySteps [.frame ⟨0⟩ .listPeers, .call ⟨0⟩ {}, .call ⟨0⟩ {}] ++
    [.read, .begin (.tunnel "shop" .http false none), .write true] ++
    relaySteps (publishHttp ⟨0⟩ "shop") ++ [.read, overQuota, .relay (.forward ⟨0⟩ true)]

/-- The notice is forwarded before the session reads the registration. -/
def noticeDuringPublish : List ControlStream.Event :=
  daveTwice ++ [.begin (.tunnel "shop" .http false none), .write true, overQuota,
      .relay (.forward ⟨0⟩ true)] ++
    relaySteps (publishHttp ⟨0⟩ "shop") ++ [.read]

theorem replies_paired_dave :
    (final (ControlStream.step ⟨0⟩) (.init notifiedRelay) noticeAfterCalls).results.length = 2 ∧
    RepliesPaired (final (ControlStream.step ⟨0⟩) (.init notifiedRelay) noticeAfterCalls) :=
  ⟨by decide +kernel, replies_paired domainConfig ⟨7000, 7001⟩ quotaKeys [] 0 1 ⟨0⟩ noticeAfterCalls _
    (by decide +kernel) (run_final (by decide +kernel))⟩

/-- The tunnel is registered, and `publish` reports an error of the protocol. -/
theorem notice_mistaken_for_reply :
    run (ControlStream.step ⟨0⟩) (.init notifiedRelay) noticeDuringPublish =
      some (final (ControlStream.step ⟨0⟩) (.init notifiedRelay) noticeDuringPublish) ∧
    ¬ RepliesPaired (final (ControlStream.step ⟨0⟩) (.init notifiedRelay) noticeDuringPublish) := by
  refine ⟨run_final (by decide +kernel), fun paired => ?_⟩
  have returned : (final (ControlStream.step ⟨0⟩) (.init notifiedRelay)
      noticeDuringPublish).results[0]? =
        some (.published (.error (.protocol "expected TunnelRegistered"))) := by decide +kernel
  have answered : (final (ControlStream.step ⟨0⟩) (.init notifiedRelay)
      noticeDuringPublish).answers[0]? =
        some (.tunnelRegistered ⟨2⟩ "https://shop.relay.example" none) := by decide +kernel
  have fits := paired 0 _ returned
  rw [answered] at fits
  cases (fits.1 ⟨⟨2⟩, "https://shop.relay.example", none⟩).mpr rfl

end TwoSessions

end KrotRelay.Guarantees
