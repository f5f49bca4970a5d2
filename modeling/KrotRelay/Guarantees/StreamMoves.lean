import KrotRelay.Guarantees.ReplyDiscipline
import KrotRelay.Source.ControlStream

/-!
What one step of the relay does to one Control stream: the session takes a frame, answers the
one it has taken, forwards a notice, or stops with at most a `ServerBye`.
-/
namespace KrotRelay.Guarantees
open Source Lib List Server Option
open Function (update update_self update_of_ne)

variable {session : Session} {frame : ClientFrame} {notified : NotifiedServer} {request : Call}
  {choice : Choice} {event : Event} {middle : Server} {stage : ReplyStage}

def isNotice : ServerFrame → Bool
  | .rateLimit _ _ => true
  | _ => false

/-- What the session is doing for the stream. -/
inductive Status where
  | before
  | free
  | busy (frame : ClientFrame)
  | ended
  deriving DecidableEq

/-- The session has not started. -/
def isEarly : Task → Bool
  | .absent | .handshaking _ | .authenticated _ => true
  | _ => false

/-- Where the connection's task stands. -/
inductive Standing : Task → Status → Prop where
  | before (task) (early : isEarly task = true) : Standing task .before
  | resting (session : Session) : Standing (.running session) .free
  /-- the answer is written, and the dispatch has not returned yet -/
  | done (session : Session) (frame : ClientFrame) (program)
      (follows : Follows (replying frame) (Replied frame) .answered program) :
      Standing (.dispatching session frame program) .free
  | busy (session : Session) (frame : ClientFrame) (program) (stage : ReplyStage)
      (answerable : hasAnswer frame = true) (unanswered : stage ≠ .answered)
      (follows : Follows (replying frame) (Replied frame) stage program) :
      Standing (.dispatching session frame program) (.busy frame)
  | returned (session result) : Standing (.ended session result) .ended
  | closed : Standing .closed .ended

/-- What a step of the relay does to the stream: the status, the frame the session takes, the
frames it writes, and those among them that answer a request. -/
inductive StreamMove : Status → List ClientFrame → List ServerFrame → List ServerFrame →
    Status → Prop where
  | none (status) : StreamMove status [] [] [] status
  | began : StreamMove .before [] [] [] .free
  | failed : StreamMove .before [] [] [] .ended
  | took (frame later) (next : later = .busy frame ∧ hasAnswer frame = true ∨ later = .ended) :
      StreamMove .free [frame] [] [] later
  | answered (frame reply later)
      (fits : isReply frame reply = true) (next : later = .free ∨ later = .ended) :
      StreamMove (.busy frame) [] [reply] [reply] later
  | stopped (status parting) (running : status ≠ .before ∧ status ≠ .ended)
      (bye : ∀ frame ∈ parting, ∃ code, frame = .serverBye code) :
      StreamMove status [] parting [] .ended

variable {conn : Connection} {server next : Server}

theorem said_same (same : next.sent conn = server.sent conn) :
    ControlStream.said conn server next = [] := by
  unfold ControlStream.said
  split
  · rw [same, drop_length]
  · rfl

theorem said_append {frames : List ServerFrame}
    (running : (server.tasks conn).running? = some session)
    (grown : next.sent conn = server.sent conn ++ frames) :
    ControlStream.said conn server next = frames := by
  unfold ControlStream.said
  rw [running, grown]
  exact drop_left

@[simp] theorem said_setTask (middle : Server) (task : Task) :
    ControlStream.said conn server (middle.setTask conn task) =
      ControlStream.said conn server middle := rfl

/-- Only a written frame answers. -/
theorem replyNext_other (other : ∀ sent, request ≠ .writeFrame sent)
    (allowed : replyAllows frame stage request) (reply : request.Reply) :
    replyNext stage request reply = .answered ↔ stage = .answered := by
  cases request with
  | writeFrame sent => exact absurd rfl (other sent)
  | tryResume =>
    obtain rfl : stage = .open := allowed
    cases reply <;> simp [replyNext]
  | insert =>
    obtain ⟨rfl, _⟩ := allowed
    simp [replyNext]
  | _ => exact Iff.rfl

/-- A call that writes nothing leaves the stream alone. -/
theorem answer_sent {reply : request.Reply} (other : ∀ sent, request ≠ .writeFrame sent)
    (answered : server.answer conn choice request = some (reply, middle)) :
    middle.sent = server.sent := by
  cases answer_cases answered with
  | written frame => exact absurd rfl (other frame)
  | _ => rfl

/-- A dispatch that has answered makes no more answers. -/
theorem standing_answered {prog}
    (follows : Follows (replying frame) (Replied frame) .answered prog) :
    ∃ status, (status = .free ∨ status = .ended) ∧
      Standing (Server.afterDispatch session frame prog) status := by
  cases prog with
  | call => exact ⟨.free, .inl rfl, .done session frame _ follows⟩
  | ret result =>
    rcases result with problem | (_ | reason)
    · exact ⟨.ended, .inr rfl, .returned session _⟩
    · exact ⟨.free, .inl rfl, .resting session⟩
    · exact ⟨.ended, .inr rfl, .returned session _⟩

/-- A dispatch that has not answered goes on with its request, or the session is over. -/
theorem standing_open {prog} (answerable : hasAnswer frame = true) (unanswered : stage ≠ .answered)
    (follows : Follows (replying frame) (Replied frame) stage prog) :
    ∃ status, (status = .busy frame ∧ hasAnswer frame = true ∨ status = .ended) ∧
      Standing (Server.afterDispatch session frame prog) status := by
  cases prog with
  | call =>
    exact ⟨.busy frame, .inl ⟨rfl, answerable⟩, .busy session frame _ stage answerable unanswered
      follows⟩
  | ret result =>
    rcases result with problem | (_ | reason)
    · exact ⟨.ended, .inr rfl, .returned session _⟩
    · exact absurd (follows rfl answerable) unanswered
    · exact ⟨.ended, .inr rfl, .returned session _⟩

/-- One call of a dispatch. -/
theorem dispatch_move
    {rest : request.Reply → Prog relayInterface (Except ServerError DispatchOutcome)}
    {reply : request.Reply} {status : Status}
    (task : server.tasks conn = .dispatching session frame (.call request rest))
    (standing : Standing (server.tasks conn) status)
    (answered : server.answer conn choice request = some (reply, middle))
    (written : choice.written = .ok ()) :
    ∃ later, Standing (Server.afterDispatch session frame (rest reply)) later ∧
      StreamMove status [] (ControlStream.said conn server
          (middle.setTask conn (Server.afterDispatch session frame (rest reply))))
        (ControlStream.answering (server.tasks conn)) later := by
  have running : (server.tasks conn).running? = some session := by rw [task]; rfl
  by_cases writes : ∃ sent, request = .writeFrame sent
  · obtain ⟨sent, rfl⟩ := writes
    simp only [Server.answer, written, Option.some.injEq, Prod.mk.injEq] at answered
    obtain ⟨rfl, rfl⟩ := answered
    rw [said_setTask, said_append running (recordSent_sent server conn sent), task]
    rw [task] at standing
    cases standing with
    | before _ early => cases early
    | done _ _ _ follows =>
      -- a second answer is not allowed
      have allowed : replyAllows frame .answered (.writeFrame sent) := follows.1
      cases sent with
      | tunnelRegistered => obtain ⟨_, _, ⟨⟩⟩ := allowed
      | _ => exact absurd rfl allowed.1
    | busy _ _ _ stage answerable unanswered follows =>
      have fits : isReply frame sent = true := by
        have allowed : replyAllows frame stage (.writeFrame sent) := follows.1
        cases sent with
        | tunnelRegistered =>
          obtain ⟨registers, _⟩ := allowed
          cases frame <;> first | rfl | cases registers
        | _ => exact allowed.2
      obtain ⟨later, ends, stands⟩ :=
        @standing_answered session frame _ (follows.2 (.ok ()) trivial)
      exact ⟨later, stands, .answered frame sent later fits ends⟩
  · have other : ∀ sent, request ≠ .writeFrame sent := fun sent same => writes ⟨sent, same⟩
    have silent : ControlStream.answering (server.tasks conn) = [] := by
      rw [task]
      cases request with
      | writeFrame sent => exact absurd rfl (other sent)
      | _ => rfl
    rw [said_setTask, said_same (congrFun (answer_sent other answered) conn), silent]
    rw [task] at standing
    cases standing with
    | before _ early => cases early
    | done _ _ _ follows =>
      have stays := (replyNext_other other follows.1 reply).mpr rfl
      have onward := follows.2 reply trivial
      rw [show (replying frame).next .answered request reply = .answered from stays] at onward
      obtain ⟨later, ends, stands⟩ := @standing_answered session frame _ onward
      rcases ends with rfl | rfl
      · exact ⟨.free, stands, .none _⟩
      · exact ⟨.ended, stands, .stopped _ [] ⟨by rintro ⟨⟩, by rintro ⟨⟩⟩ (by rintro _ ⟨⟩)⟩
    | busy _ _ _ stage answerable unanswered follows =>
      have stays : replyNext stage request reply ≠ .answered := fun same =>
        unanswered ((replyNext_other other follows.1 reply).mp same)
      obtain ⟨later, ends, stands⟩ :=
        @standing_open session frame _ _ answerable stays (follows.2 reply trivial)
      rcases ends with ⟨rfl, _⟩ | rfl
      · exact ⟨.busy frame, stands, .none _⟩
      · exact ⟨.ended, stands, .stopped _ [] ⟨by rintro ⟨⟩, by rintro ⟨⟩⟩ (by rintro _ ⟨⟩)⟩

/-- The frames of a stream that is not the event's own stay as they are. -/
theorem step_sent_other (step : server.step event = some next)
    (elsewhere : event.connection? ≠ some conn) : next.sent conn = server.sent conn := by
  have differs {moved : Connection} (named : event.connection? = some moved) : conn ≠ moved := by
    rintro rfl
    exact elsewhere named
  cases step_cases step with
  | started =>
    simp only [Server.startSession, Server.ensureRateState]
    split <;> rfl
  | sawShutdown _ written | sawRevoked _ written =>
    cases written
    · rfl
    · exact update_of_ne (differs rfl) ..
  | greeted _ _ _ _ _ _ _ answered =>
    cases answer_cases answered with
    | written => exact update_of_ne (differs rfl) ..
    | _ => rfl
  | dispatched _ _ _ _ _ _ _ _ _ answered =>
    cases answer_cases answered with
    | written => exact update_of_ne (differs rfl) ..
    | _ => rfl
  | _ => rfl

theorem said_idle (idle : (server.tasks conn).running? = none) :
    ControlStream.said conn server next = [] := by
  unfold ControlStream.said
  rw [idle]

theorem standing_handshake (prog) : ∃ status, (status = .before ∨ status = .ended) ∧
      Standing (Server.afterHandshake prog) status := by
  unfold Server.afterHandshake
  split
  · exact ⟨.before, .inl rfl, .before _ rfl⟩
  · exact ⟨.ended, .inr rfl, .closed⟩
  · exact ⟨.before, .inl rfl, .before _ rfl⟩

/-- The frame the session of the connection takes in an event. -/
def takes (connection : Connection) : Event → List ClientFrame
  | .frame target frame => if target = connection then [frame] else []
  | _ => []

/-- The answer the session of the connection gives in an event. -/
def gives (connection : Connection) (server : Server) : Event → List ServerFrame
  | .call target _ =>
    if target = connection then ControlStream.answering (server.tasks connection) else []
  | _ => []

/-- A handshake ends in the session or in nothing. -/
theorem handshake_move (prog) (idle : (server.tasks conn).running? = none)
    (silent : ControlStream.answering (server.tasks conn) = []) (middle : Server) :
    ∃ later, Standing (Server.afterHandshake prog) later ∧
      StreamMove .before [] (ControlStream.said conn server middle)
        (ControlStream.answering (server.tasks conn)) later := by
  rw [said_idle idle, silent]
  obtain ⟨later, rfl | rfl, stands⟩ := standing_handshake prog
  · exact ⟨.before, stands, .none _⟩
  · exact ⟨.ended, stands, .failed⟩

theorem terminate_move {status : Status} {code : ErrorCode} {written : Bool}
    (task : server.tasks conn = .running session) (standing : Standing (server.tasks conn) status) :
    ∃ later, Standing ((server.terminate session conn code written).tasks conn) later ∧
      StreamMove status [] (ControlStream.said conn server
        (server.terminate session conn code written)) [] later := by
  have running : (server.tasks conn).running? = some session := by rw [task]; rfl
  have ended : (server.terminate session conn code written).tasks conn =
      .ended session (.ok .terminal) := update_self ..
  rw [ended]
  rw [task] at standing
  cases standing with
  | before _ early => cases early
  | resting =>
    refine ⟨.ended, .returned _ _, ?_⟩
    cases written with
    | false =>
      rw [show ControlStream.said conn server
        (server.terminate session conn code false) = [] from said_same rfl]
      exact .stopped _ [] ⟨by rintro ⟨⟩, by rintro ⟨⟩⟩ (by rintro _ ⟨⟩)
    | true =>
      rw [show ControlStream.said conn server (server.terminate session conn code true) =
        [.serverBye code] from said_append running (recordSent_sent server conn _)]
      refine .stopped _ _ ⟨by rintro ⟨⟩, by rintro ⟨⟩⟩ fun frame mem => ?_
      exact ⟨code, mem_singleton.mp mem⟩

/-- One event of the relay, seen from the stream of the connection. The frames it takes are
requests or `Bye`, and its writes succeed. -/
theorem server_move {status : Status} (step : server.step event = some next)
    (standing : Standing (server.tasks conn) status)
    (known : ∀ frame ∈ takes conn event, hasAnswer frame = true ∨ frame = .bye)
    (written : ∀ choice, event = .call conn choice → choice.written = .ok ()) :
    ∃ later, Standing (next.tasks conn) later ∧
      StreamMove status (takes conn event) (ControlStream.said conn server next)
        (gives conn server event) later := by
  by_cases own : event.connection? = some conn
  · cases step_cases step with
    | accepted target task =>
      cases own
      rw [setTask_tasks, update_self]
      rw [task] at standing
      cases standing
      have moves := @handshake_move conn server (perform server.config.external).run
        (by rw [task]; rfl) (by rw [task]; rfl)
      simp only [task, ControlStream.answering] at moves
      exact moves _
    | greeted target choice request rest reply middle task =>
      cases own
      simp only [takes, gives, if_pos]
      rw [setTask_tasks, update_self]
      rw [task] at standing
      cases standing
      exact handshake_move (rest reply) (by rw [task]; rfl) (by rw [task]; rfl) _
    | dispatched target choice session frame request rest reply middle task answered =>
      cases own
      simp only [takes, gives, if_pos]
      rw [setTask_tasks, update_self]
      exact dispatch_move task standing answered (written choice rfl)
    | timedOut target prog task =>
      cases own
      rw [setTask_tasks, update_self, said_idle (by rw [task]; rfl)]
      rw [task] at standing
      cases standing
      exact ⟨.ended, .closed, .failed⟩
    | started target ok task =>
      cases own
      obtain ⟨rate, tasks, _⟩ := server.startSession_tasks conn ok
      rw [tasks, update_self, said_idle (by rw [task]; rfl)]
      rw [task] at standing
      cases standing
      exact ⟨.free, .resting _, .began⟩
    | begun target frame session task =>
      cases own
      rw [setTask_tasks, update_self, said_setTask, said_same rfl]
      simp only [takes, gives, if_pos]
      rw [task] at standing
      cases standing with
      | before _ early => cases early
      | resting =>
        rcases known frame (by simp [takes]) with answerable | rfl
        · obtain ⟨later, ends, stands⟩ :=
            @standing_open session frame _ _ answerable (by rintro ⟨⟩)
              (dispatch_replies session frame)
          exact ⟨later, stands, .took frame later ends⟩
        · exact ⟨.ended, .returned _ _, .took .bye .ended (.inr rfl)⟩
    | dropped target session task =>
      cases own
      rw [setTask_tasks, update_self, said_setTask, said_same rfl]
      rw [task] at standing
      cases standing with
      | before _ early => cases early
      | resting =>
        exact ⟨.ended, .returned _ _, .stopped _ [] ⟨by rintro ⟨⟩, by rintro ⟨⟩⟩ (by rintro _ ⟨⟩)⟩
    | sawShutdown target told session task | sawRevoked target told session task =>
      cases own
      exact terminate_move task standing
    | cleaned target session result task =>
      cases own
      rw [setTask_tasks, update_self, said_idle (by rw [task]; rfl)]
      rw [task] at standing
      cases standing with
      | before _ early => cases early
      | returned => exact ⟨.ended, .closed, .none _⟩
    | ticked | polled | reaped | shutDown | peersSet | reloaded | announced => cases own
  · rw [said_same (step_sent_other step own), step_tasks_other step conn own]
    have untaken : takes conn event = [] := by
      cases event <;> simp_all [takes, Event.connection?]
    have ungiven : gives conn server event = [] := by
      cases event <;> simp_all [gives, Event.connection?]
    rw [untaken, ungiven]
    exact ⟨status, standing, .none status⟩

/-- Only notices are posted to the sessions. -/
def OnlyNotices (notified : NotifiedServer) : Prop :=
  ∀ connection, ∀ frame ∈ notified.ctrl connection, isNotice frame = true

theorem notice_isNotice {event : MeteredServer.Event} {target : Connection} {frame : ServerFrame}
    (posted : notified.notice event = some (target, frame)) : isNotice frame = true := by
  cases event with
  | relay => cases posted
  | charge _ noticed tunnelId n =>
    obtain ⟨cell, _, sends⟩ := bind_eq_some_iff.mp posted
    cases verdict : (cell.charge notified.server.now noticed tunnelId n).1 with
    | ok => rw [cell.charge_ok_notice _ _ _ _ verdict] at sends; cases sends
    | quotaExceeded =>
      rw [cell.charge_notice _ _ _ _ _ verdict] at sends
      obtain ⟨session, _, same⟩ := map_eq_some_iff.mp sends
      cases same
      rfl

theorem OnlyNotices.send (holds : OnlyNotices notified) (event : MeteredServer.Event) :
    OnlyNotices (notified.send (notified.notice event)) := by
  cases posted : notified.notice event with
  | none => exact holds
  | some addressed =>
    obtain ⟨target, frame⟩ := addressed
    simp only [NotifiedServer.send, NotifiedServer.post]
    split
    · intro asked sent mem
      dsimp only at mem
      by_cases own : asked = target
      · subst own
        rw [update_self] at mem
        rcases mem_append.mp mem with old | new
        · exact holds asked sent old
        · rw [mem_singleton.mp new]
          exact notice_isNotice posted
      · rw [update_of_ne own] at mem
        exact holds asked sent mem
    · exact holds

theorem OnlyNotices.step {after : NotifiedServer} {event : NotifiedServer.Event}
    (holds : OnlyNotices notified) (step : notified.step event = some after) :
    OnlyNotices after := by
  cases event with
  | metered event =>
    obtain ⟨_, _, rfl⟩ := map_eq_some_iff.mp step
    exact holds.send event
  | forward target written =>
    simp only [NotifiedServer.step] at step
    split at step
    · rename_i session frame rest task waiting
      split at step <;> cases step
      intro asked sent mem
      dsimp only at mem
      by_cases own : asked = target
      · subst own
        rw [update_self] at mem
        exact holds asked sent (waiting ▸ mem_cons_of_mem frame mem)
      · rw [update_of_ne own] at mem
        exact holds asked sent mem
    · cases step

/-- What a step of the relay leaves: the session has taken `took`, written `told`, and answered
with `gave`. -/
structure Changed (stream next : ControlStream) (took : List ClientFrame)
    (told gave : List ServerFrame) : Prop where
  toServer : stream.toServer = took ++ next.toServer
  inbox : next.inbox = stream.inbox ++ told
  answers : next.answers = stream.answers ++ gave
  client : next.client = stream.client
  results : next.results = stream.results

/-- A step of the relay is a step of its server, a charge, or a forwarded notice. -/
theorem relay_move {stream after : ControlStream} {event : NotifiedServer.Event} {status : Status}
    (step : stream.step conn (.relay event) = some after)
    (standing : Standing (stream.task conn) status) (notices : OnlyNotices stream.notified)
    (known : ∀ frame ∈ stream.toServer, hasAnswer frame = true ∨ frame = .bye) :
    (∃ later took told gave, Standing (after.task conn) later ∧
      StreamMove status took told gave later ∧ Changed stream after took told gave) ∨
    ∃ written frame, event = .forward conn written ∧ isNotice frame = true ∧
      status = .free ∧ Standing (after.task conn) .free ∧
      Changed stream after [] [frame] [] := by
  simp only [ControlStream.step] at step
  split at step
  case isFalse => cases step
  rename_i reliable
  obtain ⟨notified, moved, rfl⟩ := map_eq_some_iff.mp step
  cases event with
  | metered event =>
    obtain ⟨metered, meets, rfl⟩ := map_eq_some_iff.mp moved
    cases event with
    | charge =>
      cases meets
      refine .inl ⟨status, [], [], [], standing, .none status, ⟨rfl, ?_, ?_, rfl, rfl⟩⟩
      · exact congrArg (stream.inbox ++ ·) (said_same rfl)
      · rfl
    | relay event =>
      obtain ⟨server, relayed, rfl⟩ := map_eq_some_iff.mp meets
      have head : stream.toServer = takes conn event ++
          stream.taken conn (.metered (.relay event)) := by
        cases event with
        | frame target frame =>
          simp only [takes, ControlStream.taken]
          split
          · simp_all only [ControlStream.reliable, bne_self_eq_false, Bool.false_or, beq_iff_eq]
            exact (cons_head?_tail reliable).symm
          · rfl
        | _ => rfl
      have taken : ∀ frame ∈ takes conn event, hasAnswer frame = true ∨ frame = .bye := by
        intro frame mem
        exact known frame (head ▸ mem_append_left _ mem)
      have written : ∀ choice, event = .call conn choice → choice.written = .ok () := by
        rintro choice rfl
        simpa [ControlStream.reliable] using reliable
      obtain ⟨later, stands, move⟩ := server_move relayed standing taken written
      refine .inl ⟨later, _, _, _, stands, move, ⟨head, rfl, ?_, rfl, rfl⟩⟩
      cases event <;> rfl
  | forward target written =>
    simp only [NotifiedServer.step] at moved
    split at moved
    · rename_i session frame rest task waiting
      split at moved <;> cases moved
      by_cases own : target = conn
      · subst own
        have running : (stream.notified.server.tasks target).running? = some session := by
          rw [task]
          rfl
        have stays : Standing (stream.notified.server.tasks target) .free := task ▸ .resting session
        rw [ControlStream.task, task] at standing
        cases standing with
        | before _ early => cases early
        | resting =>
          cases written with
          | false =>
            refine .inl ⟨.free, [], [], [], stays, .none _, ⟨rfl, ?_, ?_, rfl, rfl⟩⟩
            · exact congrArg (stream.inbox ++ ·) (said_same rfl)
            · rfl
          | true =>
            refine .inr ⟨true, frame, rfl, ?_, rfl, stays, ⟨rfl, ?_, ?_, rfl, rfl⟩⟩
            · exact notices target frame (waiting ▸ mem_cons_self)
            · exact congrArg (stream.inbox ++ ·)
                (said_append running (recordSent_sent stream.notified.server target frame))
            · rfl
      · have elsewhere : conn ≠ target := fun same => own same.symm
        refine .inl ⟨status, [], [], [], ?_, .none status, ⟨rfl, ?_, ?_, rfl, rfl⟩⟩
        · cases written <;> exact standing
        · refine congrArg (stream.inbox ++ ·) (said_same ?_)
          cases written
          · rfl
          · exact update_of_ne elsewhere ..
        · rfl
    · cases moved

end KrotRelay.Guarantees
