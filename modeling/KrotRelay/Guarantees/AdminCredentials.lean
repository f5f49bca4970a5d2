import KrotRelay.Guarantees.Attachment
import KrotRelay.Source.Admin

/-!
Admin tokens and the sessions bought with them. The store keeps one hash and an expiry; what
it stands for is the history of issued and accepted tokens, and the relation between the two
is kept by every operation. Enrollments and admin sessions both start from an accepted token,
so together they are never more than the tokens issued.
-/
namespace KrotRelay.Guarantees
open Source Lib List Server
open Function (update update_self update_of_ne)

/-- The store is the last issued token, until that is accepted or has expired. -/
structure TokenHistory (crates : AdminCrates) (tokens : AdminTokenStore)
    (issued : List (String × Instant)) (accepted : List String) (now : Instant) : Prop where
  distinct : (issued.map Prod.fst).Nodup
  acceptedOnce : accepted.Nodup
  acceptedIssued : ∀ token ∈ accepted, token ∈ issued.map Prod.fst
  current : ∀ state, tokens.state = some state → ∃ token stamped,
    issued.getLast? = some (token, stamped) ∧ token ∉ accepted ∧
      state = ⟨crates.blake3 (utf8 token), stamped + adminTokenTtl⟩
  spent : tokens.state = none → ∀ token stamped, issued.getLast? = some (token, stamped) →
    token ∈ accepted ∨ stamped + adminTokenTtl ≤ now

/-- No known string other than the presented one has its hash. -/
def Unmistakable (crates : AdminCrates) (presented : String) (known : List String) : Prop :=
  ∀ token ∈ known, crates.blake3 (utf8 presented) = crates.blake3 (utf8 token) → presented = token

theorem mem_of_last {issued : List (String × Instant)} {token : String} {stamped : Instant}
    (last : issued.getLast? = some (token, stamped)) : token ∈ issued.map Prod.fst :=
  mem_map_of_mem (mem_of_getLast? last)

namespace TokenHistory
variable {crates : AdminCrates} {tokens : AdminTokenStore} {issued : List (String × Instant)}
  {accepted : List String} {now : Instant}

theorem start (crates : AdminCrates) (now : Instant) : TokenHistory crates .new [] [] now where
  distinct := nodup_nil
  acceptedOnce := nodup_nil
  acceptedIssued := by
    intro token mem
    cases mem
  current := by
    intro state found
    cases found
  spent := by
    intro _ token stamped last
    cases last

variable (history : TokenHistory crates tokens issued accepted now)
include history

theorem later {after : Instant} (passes : now ≤ after) :
    TokenHistory crates tokens issued accepted after where
  distinct := history.distinct
  acceptedOnce := history.acceptedOnce
  acceptedIssued := history.acceptedIssued
  current := history.current
  spent := by
    intro none token stamped last
    exact (history.spent none token stamped last).imp_right fun expired =>
      Nat.le_trans expired passes

theorem issue {token : String} {stamped : Instant} (new : token ∉ issued.map Prod.fst) :
    TokenHistory crates (tokens.issue crates token stamped) (issued ++ [(token, stamped)])
      accepted now where
  distinct := by
    rw [map_append, map_singleton, ← concat_eq_append]
    exact history.distinct.concat new
  acceptedOnce := history.acceptedOnce
  acceptedIssued := by
    intro known mem
    rw [map_append]
    exact mem_append_left _ (history.acceptedIssued known mem)
  current := by
    intro state found
    cases found
    exact ⟨token, stamped, getLast?_concat, fun mem => new (history.acceptedIssued token mem), rfl⟩
  spent := by
    intro none
    cases none

/-- A token that the store accepts is the last one issued, new to the store and in time. -/
theorem accepts {presented : String} (known : Unmistakable crates presented (issued.map Prod.fst))
    (ok : (tokens.consume crates presented now).1 = .ok ()) :
    ∃ stamped, issued.getLast? = some (presented, stamped) ∧ presented ∉ accepted ∧
      now < stamped + adminTokenTtl := by
  generalize result : tokens.consume crates presented now = outcome at ok
  cases result ▸ tokens.consume_consumed crates presented now with
  | none | expired | mismatch => cases ok
  | accepted state found early same =>
    obtain ⟨token, stamped, last, unused, rfl⟩ := history.current state found
    cases known token (mem_of_last last) same
    exact ⟨stamped, last, unused, early⟩

/-- An accepted token is used up. -/
theorem redeem {presented : String} {after : AdminTokenStore}
    (known : Unmistakable crates presented (issued.map Prod.fst))
    (consumed : tokens.consume crates presented now = (.ok (), after)) :
    TokenHistory crates after issued (accepted ++ [presented]) now := by
  obtain ⟨stamped, last, unused, _⟩ := history.accepts known (by rw [consumed])
  have emptied : after.state = none := by
    generalize result : tokens.consume crates presented now = outcome at consumed
    cases result ▸ tokens.consume_consumed crates presented now with
    | none | expired | mismatch => cases consumed
    | accepted => cases consumed; rfl
  refine ⟨history.distinct, ?_, ?_, ?_, ?_⟩
  · rw [← concat_eq_append]
    exact history.acceptedOnce.concat unused
  · intro token mem
    rcases mem_append.mp mem with mem | mem
    · exact history.acceptedIssued token mem
    · rw [mem_singleton.mp mem]
      exact mem_of_last last
  · intro state found
    rw [emptied] at found
    cases found
  · intro _ token stamped' last'
    cases last.symm.trans last'
    exact .inl (mem_append_right _ mem_cons_self)

/-- A refused token leaves the good one good: the store changes only if that has expired. -/
theorem refuse {presented detail : String} {after : AdminTokenStore}
    (consumed : tokens.consume crates presented now = (.error detail, after)) :
    TokenHistory crates after issued accepted now := by
  generalize result : tokens.consume crates presented now = outcome at consumed
  cases result ▸ tokens.consume_consumed crates presented now with
  | none | mismatch =>
    cases consumed
    exact history
  | accepted => cases consumed
  | expired state found late =>
    cases consumed
    obtain ⟨token, stamped, last, _, rfl⟩ := history.current state found
    refine ⟨history.distinct, history.acceptedOnce, history.acceptedIssued, ?_, ?_⟩
    · intro state found
      cases found
    · intro _ token' stamped' last'
      cases last.symm.trans last'
      exact .inr late

/-- What the store accepts, in terms of the history alone. -/
theorem consume_iff {presented : String}
    (known : Unmistakable crates presented (issued.map Prod.fst)) :
    (tokens.consume crates presented now).1 = .ok () ↔
      ∃ stamped, issued.getLast? = some (presented, stamped) ∧ presented ∉ accepted ∧
        now < stamped + adminTokenTtl := by
  refine ⟨history.accepts known, ?_⟩
  rintro ⟨stamped, last, unused, early⟩
  cases found : tokens.state with
  | none =>
    rcases history.spent found presented stamped last with used | expired
    · exact absurd used unused
    · exact absurd early (Nat.not_lt_of_le expired)
  | some state =>
    obtain ⟨token, stamped', last', _, rfl⟩ := history.current state found
    cases last.symm.trans last'
    generalize result : tokens.consume crates presented now = outcome
    cases result ▸ tokens.consume_consumed crates presented now with
    | none empty =>
      rw [found] at empty
      cases empty
    | expired _ also late =>
      cases found.symm.trans also
      exact absurd early (Nat.not_lt_of_le late)
    | mismatch _ also _ differs =>
      cases found.symm.trans also
      exact absurd rfl differs
    | accepted => rfl

end TokenHistory

/-- The sessions are minted ones that have not been pruned, and a handler ran only for such. -/
structure SessionHistory (crates : AdminCrates) (api : AdminSessions) (minting : List MintSlot)
    (handled : List (String × AdminHandler × Instant)) (now : Instant) : Prop where
  sessions : ∀ hash expiry, api.sessions.lookup hash = some expiry → ∃ redeemed token stamped,
    .stored redeemed token stamped ∈ minting ∧ hash = crates.blake3 (utf8 token) ∧
      expiry = stamped + api.sessionTtl
  stamps : ∀ redeemed token stamped, .stored redeemed token stamped ∈ minting → stamped ≤ now
  handled : ∀ token handler time, (token, handler, time) ∈ handled → ∃ redeemed stamped,
    .stored redeemed token stamped ∈ minting ∧ stamped ≤ time ∧ time < stamped + api.sessionTtl

def storedTokens (minting : List MintSlot) : List String :=
  minting.filterMap fun
    | .stored _ token _ => some token
    | .owed _ _ => none

theorem mem_storedTokens {minting : List MintSlot} {redeemed token : String} {stamped : Instant}
    (mem : .stored redeemed token stamped ∈ minting) : token ∈ storedTokens minting :=
  mem_filterMap.mpr ⟨_, mem, rfl⟩

namespace SessionHistory
variable {crates : AdminCrates} {api : AdminSessions} {minting : List MintSlot}
  {handled : List (String × AdminHandler × Instant)} {now : Instant}

theorem start (crates : AdminCrates) (sessionTtl : Duration) (now : Instant) :
    SessionHistory crates ⟨∅, sessionTtl⟩ [] [] now where
  sessions := by
    intro hash expiry found
    cases found
  stamps := by
    intro redeemed token stamped mem
    cases mem
  handled := by
    intro token handler time mem
    cases mem

variable (history : SessionHistory crates api minting handled now)
include history

theorem later {after : Instant} (passes : now ≤ after) :
    SessionHistory crates api minting handled after where
  sessions := history.sessions
  stamps := fun redeemed token stamped mem =>
    Nat.le_trans (history.stamps redeemed token stamped mem) passes
  handled := history.handled

theorem owe (redeemed : String) :
    SessionHistory crates api (minting ++ [.owed redeemed now]) handled now where
  sessions := by
    intro hash expiry found
    obtain ⟨redeemed, token, stamped, mem, facts⟩ := history.sessions hash expiry found
    exact ⟨redeemed, token, stamped, mem_append_left _ mem, facts⟩
  stamps := by
    intro redeemed token stamped mem
    rcases mem_append.mp mem with mem | mem
    · exact history.stamps redeemed token stamped mem
    · cases mem_singleton.mp mem
  handled := by
    intro token handler time mem
    obtain ⟨redeemed, stamped, stored, facts⟩ := history.handled token handler time mem
    exact ⟨redeemed, stamped, mem_append_left _ stored, facts⟩

theorem check {after : AdminSessions} {presented : String} {hit : Bool}
    (checked : api.checkSession crates presented now = (hit, after)) :
    SessionHistory crates after minting handled now := by
  have kept := api.checkSession_lookup crates presented now
  have ttl := api.checkSession_ttl crates presented now
  rw [checked] at ttl
  rw [checked] at kept
  refine ⟨?_, history.stamps, ?_⟩
  · intro hash expiry found
    rw [ttl]
    exact history.sessions hash expiry (kept expiry hash found)
  · rw [ttl]
    exact history.handled

/-- A handler runs for the token of a session minted less than its lifetime ago. -/
theorem handle {after : AdminSessions} {presented : String} (handler : AdminHandler)
    (known : Unmistakable crates presented (storedTokens minting))
    (checked : api.checkSession crates presented now = (true, after)) :
    SessionHistory crates after minting (handled ++ [(presented, handler, now)]) now := by
  have kept := history.check checked
  have ttl := api.checkSession_ttl crates presented now
  rw [checked] at ttl
  refine ⟨kept.sessions, kept.stamps, ?_⟩
  intro token run time mem
  rcases mem_append.mp mem with mem | mem
  · exact kept.handled token run time mem
  · cases mem_singleton.mp mem
    obtain ⟨expiry, found, early⟩ :=
      (api.checkSession_iff crates presented now).mp (by rw [checked])
    obtain ⟨redeemed, token, stamped, stored, same, rfl⟩ := history.sessions _ expiry found
    cases known token (mem_storedTokens stored) same
    exact ⟨redeemed, stamped, stored, history.stamps _ _ _ stored, ttl ▸ early⟩

/-- A stored session stays stored when another slot is filled. -/
theorem mint {slot : Nat} {redeemed token : String} {since stamped : Instant}
    (owed : minting[slot]? = some (.owed redeemed since)) (past : stamped ≤ now) :
    SessionHistory crates (api.mintSession crates token stamped)
      (minting.set slot (.stored redeemed token stamped)) handled now := by
  obtain ⟨bound, here⟩ := List.getElem?_eq_some_iff.mp owed
  have keeps {redeemed' token' : String} {stamped' : Instant}
      (stored : .stored redeemed' token' stamped' ∈ minting) :
      .stored redeemed' token' stamped' ∈ minting.set slot (.stored redeemed token stamped) := by
    obtain ⟨place, inside, found⟩ := mem_iff_getElem.mp stored
    have elsewhere : slot ≠ place := by
      rintro rfl
      rw [here] at found
      cases found
    refine mem_iff_getElem.mpr ⟨place, by simpa using inside, ?_⟩
    rw [getElem_set_ne elsewhere, found]
  refine ⟨?_, ?_, ?_⟩
  · intro hash expiry found
    by_cases own : hash = crates.blake3 (utf8 token)
    · rw [AdminSessions.mintSession, own, AList.lookup_insert] at found
      cases found
      exact ⟨redeemed, token, stamped, mem_set bound _, own, rfl⟩
    · rw [AdminSessions.mintSession, AList.lookup_insert_ne own] at found
      obtain ⟨redeemed', token', stamped', stored, facts⟩ := history.sessions hash expiry found
      exact ⟨redeemed', token', stamped', keeps stored, facts⟩
  · intro redeemed' token' stamped' mem
    rcases mem_or_eq_of_mem_set mem with mem | new
    · exact history.stamps redeemed' token' stamped' mem
    · cases new
      exact past
  · intro token' handler time mem
    obtain ⟨redeemed', stamped', stored, facts⟩ := history.handled token' handler time mem
    exact ⟨redeemed', stamped', keeps stored, facts⟩

end SessionHistory

section Enrollment

/-- How far an enrollment has got. -/
inductive EnrollStage where
  | fresh
  | redeemed
  | enrolled
  deriving DecidableEq

def enrollAllows (stage : EnrollStage) : Call → Prop
  | .consume _ => stage = .fresh
  | .appendLine _ => stage = .redeemed
  | _ => True

def enrollNext (stage : EnrollStage) : (call : Call) → call.Reply → EnrollStage
  | .consume _, .ok _ => .redeemed
  | .appendLine _, .ok _ => .enrolled
  | _, _ => stage

def enrolling : Discipline relayInterface EnrollStage where
  allowed := enrollAllows
  possible := fun _ _ => True
  next := enrollNext

variable (ext : External)

theorem authReject_enrolling (code : ErrorCode) (stage : EnrollStage) :
    Follows enrolling (fun _ _ => True) stage (authReject code).run :=
  follows_write_bind _ trivial (fun _ => trivial) trivial

theorem handleEnroll_enrolling (token : String) (pubkey : PubKey) (labelHint : Option String) :
    Follows enrolling (fun _ _ => True) .fresh (handleEnroll ext token pubkey labelHint).run := by
  refine follows_ask rfl ?_
  rintro (detail | ⟨⟩) _
  · exact follows_write_bind _ trivial (fun _ => trivial) trivial
  · refine follows_ask trivial fun now _ => ?_
    refine follows_ask rfl ?_
    rintro (detail | stored) _
    · trivial
    · exact follows_write_bind _ trivial (fun _ => trivial) trivial

theorem handleAuth_enrolling (pubkey : PubKey) :
    Follows enrolling (fun _ _ => True) .fresh (handleAuth ext pubkey).run := by
  refine follows_ask trivial ?_
  rintro (_ | entry) _
  · exact authReject_enrolling _ _
  · refine follows_ask trivial fun nonce _ => ?_
    refine follows_write_bind _ trivial (fun _ => trivial) ?_
    refine follows_read trivial (fun _ => trivial) fun frame => ?_
    cases frame with
    | authResponse signature =>
      dsimp only
      split
      · exact authReject_enrolling _ _
      · refine follows_ask trivial fun sessionId _ => ?_
        exact follows_write_bind _ trivial (fun _ => trivial) trivial
    | _ => exact authReject_enrolling _ _

/-- A handshake consumes at most one token, and stores a key only after that. -/
theorem perform_enrolling : Follows enrolling (fun _ _ => True) .fresh (perform ext).run := by
  refine follows_ask trivial ?_
  rintro (detail | byte) _
  · trivial
  · dsimp only
    split
    · trivial
    · refine follows_read trivial (fun _ => trivial) fun frame => ?_
      cases frame with
      | enroll => exact handleEnroll_enrolling ext _ _ _
      | authRequest pubkey => exact handleAuth_enrolling ext pubkey
      | _ => exact follows_ask trivial fun _ _ => trivial
    · trivial

end Enrollment

def enrollStage (admin : AdministeredServer) (connection : Connection) : EnrollStage :=
  if connection ∈ admin.enrolled then .enrolled
  else if connection ∈ admin.redeemers then .redeemed
  else .fresh

/-- Every handshake is at the stage that was observed of it. -/
structure Enrolling (admin : AdministeredServer) : Prop where
  follows : ∀ connection program, admin.server.tasks connection = .handshaking program →
    Follows enrolling (fun _ _ => True) (enrollStage admin connection) program
  idle : ∀ connection, admin.server.tasks connection = .absent → connection ∉ admin.redeemers
  redeemedOnce : admin.redeemers.Nodup
  enrolledOnce : admin.enrolled.Nodup
  redeemed : ∀ connection ∈ admin.enrolled, connection ∈ admin.redeemers

namespace Enrolling
variable {admin : AdministeredServer} (holds : Enrolling admin)
include holds

theorem stage_fresh {conn : Connection} (outside : conn ∉ admin.redeemers) :
    enrollStage admin conn = .fresh := by
  rw [enrollStage, if_neg fun mem => outside (holds.redeemed conn mem), if_neg outside]

/-- The handshake of one connection goes on, the lists having grown by that connection. -/
theorem greet (observed : AdministeredServer) {conn : Connection} {prog} {next : Server}
    (tasks : next.tasks = update admin.server.tasks conn (Server.afterHandshake prog))
    (follows : Follows enrolling (fun _ _ => True) (enrollStage observed conn) prog)
    (others : ∀ other, other ≠ conn → enrollStage observed other = enrollStage admin other ∧
      (other ∈ observed.redeemers → other ∈ admin.redeemers))
    (redeemedOnce : observed.redeemers.Nodup) (enrolledOnce : observed.enrolled.Nodup)
    (redeemed : ∀ conn ∈ observed.enrolled, conn ∈ observed.redeemers) :
    Enrolling { observed with server := next } where
  follows := by
    intro other continued task
    rw [tasks] at task
    by_cases own : other = conn
    · subst own
      rw [update_self] at task
      cases afterHandshake_handshaking task
      exact follows
    · rw [update_of_ne own] at task
      have same : enrollStage { observed with server := next } other = enrollStage admin other :=
        (others other own).1
      rw [same]
      exact holds.follows other continued task
  idle := by
    intro other task
    rw [tasks] at task
    by_cases own : other = conn
    · subst own
      rw [update_self] at task
      exact absurd task (afterHandshake_ne_absent prog)
    · rw [update_of_ne own] at task
      exact fun mem => holds.idle other task ((others other own).2 mem)
  redeemedOnce := redeemedOnce
  enrolledOnce := enrolledOnce
  redeemed := redeemed

/-- A task that is in no handshake takes a turn. -/
theorem moved {next : Server} {conn : Connection} {task : Task}
    (tasks : next.tasks = update admin.server.tasks conn task)
    (outside : ∀ prog, task ≠ .handshaking prog) (present : task ≠ .absent) :
    Enrolling { admin with server := next } where
  follows := by
    intro other prog found
    rw [tasks] at found
    by_cases own : other = conn
    · subst own
      rw [update_self] at found
      exact absurd found (outside prog)
    · rw [update_of_ne own] at found
      exact holds.follows other prog found
  idle := by
    intro other found
    rw [tasks] at found
    by_cases own : other = conn
    · subst own
      rw [update_self] at found
      exact absurd found present
    · rw [update_of_ne own] at found
      exact holds.idle other found
  redeemedOnce := holds.redeemedOnce
  enrolledOnce := holds.enrolledOnce
  redeemed := holds.redeemed

omit holds in
/-- A handshake's call, with its answer and what becomes of the task. -/
theorem greeted {server next : Server} {conn : Connection} {choice : Choice} {request : Call}
    (pending : (server.tasks conn).handshakeCall? = some request)
    (step : server.step (.call conn choice) = some next) :
    ∃ rest reply middle, server.tasks conn = .handshaking (.call request rest) ∧
      server.answer conn choice request = some (reply, middle) ∧
      next.tasks = update server.tasks conn (Server.afterHandshake (rest reply)) := by
  cases Server.step_move server next _ step with
  | quiet _ _ _ _ silent => cases silent
  | greeted _ _ _ rest reply middle task answered =>
    rw [task] at pending
    cases pending
    refine ⟨rest, reply, middle, task, answered, ?_⟩
    rw [setTask_tasks, (answer_frame answered).1]
  | answered _ _ _ _ _ _ _ _ task =>
    rw [task] at pending
    cases pending

/-- A call of a handshake that the admin side does not look at. -/
theorem other_call {next : Server} {connection : Connection} {choice : Choice} {request : Call}
    (pending : (admin.server.tasks connection).handshakeCall? = some request)
    (step : admin.server.step (.call connection choice) = some next)
    (stays : ∀ stage reply, enrollNext stage request reply = stage) :
    Enrolling { admin with server := next } := by
  obtain ⟨rest, reply, middle, task, answered, tasks⟩ := greeted pending step
  have onward := (holds.follows connection _ task).2 reply trivial
  refine holds.greet admin tasks ?_ (fun other _ => ⟨rfl, id⟩) holds.redeemedOnce holds.enrolledOnce
    holds.redeemed
  have same : enrolling.next (enrollStage admin connection) request reply =
    enrollStage admin connection := stays _ _
  exact same ▸ onward

theorem consume_call {next : Server} {conn : Connection} {choice : Choice}
    {presented : String} {result : Except String Unit} {tokens : AdminTokenStore}
    (pending : (admin.server.tasks conn).handshakeCall? = some (.consume presented))
    (step : admin.server.step (.call conn { choice with consumed := result }) = some next) :
    (∀ detail, result = .error detail → Enrolling { admin with tokens := tokens, server := next }) ∧
    (result = .ok () → ∀ accepted, Enrolling { admin with
      tokens := tokens
      accepted := accepted
      redeemers := admin.redeemers ++ [conn]
      server := next }) := by
  obtain ⟨rest, reply, middle, task, answered, tasks⟩ := greeted pending step
  obtain ⟨fresh, onward⟩ := holds.follows conn _ task
  cases answered
  have onward := onward result trivial
  have outside : conn ∉ admin.redeemers := by
    intro mem
    unfold enrollStage at fresh
    rw [if_pos mem] at fresh
    split at fresh <;> cases fresh
  constructor
  · rintro detail rfl
    refine holds.greet { admin with tokens := tokens } tasks ?_
      (fun other _ => ⟨rfl, id⟩) holds.redeemedOnce holds.enrolledOnce holds.redeemed
    exact onward
  · rintro rfl accepted
    have unenrolled : conn ∉ admin.enrolled :=
      fun mem => outside (holds.redeemed conn mem)
    refine holds.greet { admin with
      tokens := tokens, accepted := accepted, redeemers := admin.redeemers ++ [conn] }
      tasks ?_ ?_ ?_ holds.enrolledOnce ?_
    · have stage : enrollStage { admin with
          tokens := tokens
          accepted := accepted
          redeemers := admin.redeemers ++ [conn] } conn = .redeemed := by
        rw [enrollStage, if_neg unenrolled, if_pos (mem_append_right _ mem_cons_self)]
      rw [stage]
      exact onward
    · intro other differs
      have same : other ∈ admin.redeemers ++ [conn] ↔ other ∈ admin.redeemers := by
        simp [differs]
      simp only [enrollStage, same, true_and]
      exact id
    · rw [← concat_eq_append]
      exact holds.redeemedOnce.concat outside
    · exact fun other mem => mem_append_left _ (holds.redeemed other mem)

theorem append_call {next : Server} {conn : Connection} {choice : Choice} {line : String}
    (pending : (admin.server.tasks conn).handshakeCall? = some (.appendLine line))
    (step : admin.server.step (.call conn choice) = some next) :
    (∀ detail, choice.appended = .error detail → Enrolling { admin with server := next }) ∧
    (∀ stored, choice.appended = .ok stored → Enrolling { admin with
      enrolled := admin.enrolled ++ [conn]
      server := next }) := by
  obtain ⟨rest, reply, middle, task, answered, tasks⟩ := greeted pending step
  obtain ⟨redeemed, onward⟩ := holds.follows conn _ task
  have onward := onward reply trivial
  obtain ⟨mem, unenrolled⟩ : conn ∈ admin.redeemers ∧ conn ∉ admin.enrolled := by
    have stage : enrollStage admin conn = .redeemed := redeemed
    unfold enrollStage at stage
    split at stage
    · cases stage
    · rename_i unenrolled
      split at stage
      · exact ⟨‹_›, unenrolled⟩
      · cases stage
  cases answer_cases answered with
  | question _ _ asks => cases asks
  | unparsed _ _ failed =>
    refine ⟨fun _ _ => ?_, fun stored parsed => ?_⟩
    · exact holds.greet admin tasks onward (fun other _ => ⟨rfl, id⟩) holds.redeemedOnce
        holds.enrolledOnce holds.redeemed
    · rw [failed] at parsed
      cases parsed
  | appended _ _ _ _ parsed =>
    refine ⟨fun detail failed => ?_, fun _ _ => ?_⟩
    · rw [parsed] at failed
      cases failed
    · refine holds.greet { admin with enrolled := admin.enrolled ++ [conn] }
        tasks ?_ ?_ holds.redeemedOnce ?_ ?_
      · have stage : enrollStage { admin with enrolled := admin.enrolled ++ [conn] }
            conn = .enrolled := if_pos (mem_append_right _ mem_cons_self)
        rw [stage]
        exact onward
      · intro other differs
        have same : other ∈ admin.enrolled ++ [conn] ↔ other ∈ admin.enrolled := by
          simp [differs]
        simp only [enrollStage, same, true_and]
        exact id
      · rw [← concat_eq_append]
        exact holds.enrolledOnce.concat unenrolled
      · intro other belongs
        rcases mem_append.mp belongs with belongs | belongs
        · exact holds.redeemed other belongs
        · rw [mem_singleton.mp belongs]
          exact mem

/-- Events of the relay in which no handshake makes a call. -/
theorem background {next : Server} {event : Event}
    (silent : ∀ conn choice, event = .call conn choice →
      (admin.server.tasks conn).handshakeCall? = none)
    (step : admin.server.step event = some next) : Enrolling { admin with server := next } := by
  cases Server.step_move admin.server next event step with
  | ticked | reaped =>
    exact ⟨holds.follows, holds.idle, holds.redeemedOnce, holds.enrolledOnce, holds.redeemed⟩
  | quiet _ _ conn _ _ turn tasks =>
    generalize before : admin.server.tasks conn = old at turn
    cases turn with
    | stay =>
      rw [← before, Function.update_eq_self] at tasks
      refine ⟨?_, ?_, holds.redeemedOnce, holds.enrolledOnce, holds.redeemed⟩
      · exact fun other => tasks ▸ holds.follows other
      · exact fun other => tasks ▸ holds.idle other
    | accepted =>
      refine holds.greet admin tasks ?_ (fun other _ => ⟨rfl, id⟩) holds.redeemedOnce
        holds.enrolledOnce holds.redeemed
      rw [holds.stage_fresh (holds.idle conn before)]
      exact perform_enrolling _
    | timedOut | started | stopped => exact holds.moved tasks nofun nofun
  | greeted conn choice _ _ _ _ task =>
    have pending := silent conn choice rfl
    rw [task] at pending
    cases pending
  | begun _ session frame =>
    have inside := afterDispatch_session? session frame (session.dispatch frame).run
    refine holds.moved rfl ?_ ?_
    · intro prog equal
      rw [equal] at inside
      cases inside
    · intro equal
      rw [equal] at inside
      cases inside
  | answered _ _ session frame _ rest reply _ _ answered =>
    have inside := afterDispatch_session? session frame (rest reply)
    refine holds.moved (by rw [setTask_tasks, (answer_frame answered).1]) ?_ ?_
    · intro prog equal
      rw [equal] at inside
      cases inside
    · intro equal
      rw [equal] at inside
      cases inside
  | cleaned => exact holds.moved rfl nofun nofun

end Enrolling

/-- The string whose hash an event compares. -/
def presentedBy (admin : AdministeredServer) : AdministeredServer.Event → Option String
  | .relay (.call connection _) =>
    match admin.handshakeCall? connection with
    | some (.consume presented) => some presented
    | _ => none
  | .request request => request.presented admin.crates
  | _ => none

/-- What an event of the relay can do on the admin side. -/
inductive AdminMove (admin : AdministeredServer) (event : Event) (next : Server) :
    AdministeredServer → Prop where
  | aside : AdminMove admin event next { admin with server := next }
  | refused (presented detail tokens)
      (consumed : admin.tokens.consume admin.crates presented admin.server.now =
        (.error detail, tokens)) :
      AdminMove admin event next { admin with tokens := tokens, server := next }
  | redeemed (connection presented tokens)
      (asked : presentedBy admin (.relay event) = some presented)
      (consumed : admin.tokens.consume admin.crates presented admin.server.now = (.ok (), tokens)) :
      AdminMove admin event next { admin with
        tokens := tokens
        accepted := admin.accepted ++ [presented]
        redeemers := admin.redeemers ++ [connection]
        server := next }
  | enrolled (connection) : AdminMove admin event next { admin with
        enrolled := admin.enrolled ++ [connection]
        server := next }

theorem Enrolling.relay {admin : AdministeredServer} (holds : Enrolling admin) {event : Event}
    {next : Server} (step : admin.server.step (admin.answered event) = some next) :
    AdminMove admin event next { admin.around event with server := next } ∧
      Enrolling { admin.around event with server := next } := by
  cases event with
  | call conn choice =>
    cases pending : admin.handshakeCall? conn with
    | none =>
      simp only [AdministeredServer.answered, pending] at step
      simp only [AdministeredServer.around, pending]
      refine ⟨.aside, holds.background ?_ step⟩
      intro other _ same
      cases same
      exact pending
    | some request =>
      cases request with
      | consume presented =>
        simp only [AdministeredServer.answered, pending] at step
        simp only [AdministeredServer.around, pending]
        rcases consumed : admin.tokens.consume admin.crates presented admin.server.now with
          ⟨detail | ⟨⟩, tokens⟩
        · rw [consumed] at step
          exact ⟨.refused presented detail tokens consumed,
            (holds.consume_call pending step).1 detail rfl⟩
        · rw [consumed] at step
          exact ⟨.redeemed conn presented tokens (by simp only [presentedBy, pending]) consumed,
            (holds.consume_call pending step).2 rfl _⟩
      | appendLine =>
        simp only [AdministeredServer.answered, pending] at step
        simp only [AdministeredServer.around, pending]
        cases appended : choice.appended with
        | error detail => exact ⟨.aside, (holds.append_call pending step).1 detail appended⟩
        | ok stored =>
          exact ⟨.enrolled conn, (holds.append_call pending step).2 stored appended⟩
      | _ =>
        simp only [AdministeredServer.answered, pending] at step
        simp only [AdministeredServer.around, pending]
        exact ⟨.aside, holds.other_call pending step fun _ _ => rfl⟩
  | _ =>
    refine ⟨.aside, holds.background ?_ step⟩
    intro _ _ same
    cases same

section Conditions

def knownTokens (admin : AdministeredServer) : List String :=
  admin.issued.map Prod.fst ++ storedTokens admin.minting

/-- BLAKE3 is collision-free on the strings of the run. -/
def collisionFree (admin : AdministeredServer) (event : AdministeredServer.Event) : Bool :=
  (presentedBy admin event).all fun presented =>
    (knownTokens admin).all fun token =>
      admin.crates.blake3 (utf8 presented) != admin.crates.blake3 (utf8 token) || presented == token

/-- A random admin token is none of those issued before. -/
def drawsDistinct (admin : AdministeredServer) : AdministeredServer.Event → Bool
  | .issue raw _ => !(admin.issued.map Prod.fst).contains (admin.crates.base32 raw)
  | _ => true

theorem collisionFree_unmistakable {admin : AdministeredServer} {event : AdministeredServer.Event}
    {presented : String} (free : collisionFree admin event = true)
    (asked : presentedBy admin event = some presented) :
    Unmistakable admin.crates presented (admin.issued.map Prod.fst) ∧
      Unmistakable admin.crates presented (storedTokens admin.minting) := by
  rw [collisionFree, asked, Option.all_some, all_eq_true] at free
  have apart : Unmistakable admin.crates presented (knownTokens admin) := by
    intro token mem same
    simpa [same] using free token mem
  exact ⟨fun token mem => apart token (mem_append_left _ mem),
    fun token mem => apart token (mem_append_right _ mem)⟩

end Conditions

structure Administered (admin : AdministeredServer) : Prop where
  enrolling : Enrolling admin
  tokens : TokenHistory admin.crates admin.tokens admin.issued admin.accepted admin.server.now
  sessions : SessionHistory admin.crates admin.api admin.minting admin.handled admin.server.now
  /-- each accepted token went to an enrollment or to a session -/
  credited : admin.accepted.length = admin.redeemers.length + admin.minting.length
  paid : ∀ slot ∈ admin.minting, slot.redeemed ∈ admin.accepted

theorem administered_init (server : Server) (crates : AdminCrates) (sessionTtl : Duration)
    (idle : ∀ conn, server.tasks conn = .absent) :
    Administered (.init server crates sessionTtl) where
  enrolling := by
    refine ⟨?_, fun _ _ => not_mem_nil, nodup_nil, nodup_nil, ?_⟩
    · intro conn prog task
      cases (idle conn).symm.trans task
    · intro conn mem
      cases mem
  tokens := .start crates server.now
  sessions := .start crates sessionTtl server.now
  credited := rfl
  paid := by
    intro slot mem
    cases mem

namespace Administered
variable {admin next : AdministeredServer} (holds : Administered admin)
include holds

theorem relay {event : Event}
    (known : ∀ presented, presentedBy admin (.relay event) = some presented →
      Unmistakable admin.crates presented (admin.issued.map Prod.fst))
    (step : admin.step (.relay event) = some next) : Administered next := by
  obtain ⟨server, moved, rfl⟩ := Option.map_eq_some_iff.mp step
  have passes := step_now_le moved
  obtain ⟨change, enrolling⟩ := holds.enrolling.relay moved
  have sessions := holds.sessions.later passes
  generalize { admin.around event with server := server } = next at change enrolling
  cases change with
  | aside | enrolled =>
    exact ⟨enrolling, holds.tokens.later passes, sessions, holds.credited, holds.paid⟩
  | refused _ _ tokens consumed =>
    exact ⟨enrolling, (holds.tokens.refuse consumed).later passes, sessions, holds.credited,
      holds.paid⟩
  | redeemed conn presented tokens asked consumed =>
    refine ⟨enrolling, (holds.tokens.redeem (known presented asked) consumed).later passes,
      sessions, ?_, ?_⟩
    · have credited := holds.credited
      simp only [length_append, length_singleton]
      omega
    · exact fun slot mem => mem_append_left _ (holds.paid slot mem)

theorem issue {raw} {stamped : Instant} (new : drawsDistinct admin (.issue raw stamped) = true)
    (step : admin.step (.issue raw stamped) = some next) : Administered next := by
  simp only [AdministeredServer.step] at step
  split at step <;> cases step
  have enrolling := holds.enrolling
  exact ⟨⟨enrolling.follows, enrolling.idle, enrolling.redeemedOnce, enrolling.enrolledOnce,
    enrolling.redeemed⟩, holds.tokens.issue (by simpa [drawsDistinct] using new), holds.sessions,
    holds.credited, holds.paid⟩

theorem request {request : AdminRequest}
    (known : ∀ presented, request.presented admin.crates = some presented →
      Unmistakable admin.crates presented (admin.issued.map Prod.fst) ∧
        Unmistakable admin.crates presented (storedTokens admin.minting))
    (step : admin.step (.request request) = some next) : Administered next := by
  have enrolling : ∀ tokens api accepted minting handled, Enrolling { admin with
      tokens := tokens, api := api, accepted := accepted, minting := minting
      handled := handled } :=
    fun _ _ _ _ _ => ⟨holds.enrolling.follows, holds.enrolling.idle,
      holds.enrolling.redeemedOnce, holds.enrolling.enrolledOnce, holds.enrolling.redeemed⟩
  have routed := route_routed admin.crates request admin.tokens admin.api admin.server.now
  simp only [AdministeredServer.step] at step
  generalize route admin.crates request admin.tokens admin.api admin.server.now = result
    at routed step
  cases routed <;> cases step
  case refused status message => exact holds
  case redeemed adminToken tokens asked consumed =>
    refine ⟨enrolling _ _ _ _ _, holds.tokens.redeem (known adminToken asked).1 consumed,
      holds.sessions.owe adminToken, ?_, ?_⟩
    · have credited := holds.credited
      simp only [AdministeredServer.settle, length_append, length_singleton]
      omega
    · intro slot mem
      rcases mem_append.mp mem with mem | mem
      · exact mem_append_left _ (holds.paid slot mem)
      · cases mem_singleton.mp mem
        exact mem_append_right _ mem_cons_self
  case unredeemed adminToken detail tokens asked consumed =>
    exact ⟨enrolling _ _ _ _ _, holds.tokens.refuse consumed, holds.sessions, holds.credited,
      holds.paid⟩
  case unknown token status message hit api checked =>
    exact ⟨enrolling _ _ _ _ _, holds.tokens, holds.sessions.check checked, holds.credited,
      holds.paid⟩
  case handled token handler api asked checked =>
    exact ⟨enrolling _ _ _ _ _, holds.tokens,
      holds.sessions.handle handler (known token asked).2 checked, holds.credited, holds.paid⟩

theorem mint {slot : Nat} {raw} {stamped : Instant}
    (step : admin.step (.mint slot raw stamped) = some next) : Administered next := by
  simp only [AdministeredServer.step] at step
  split at step
  · rename_i redeemed since owed
    split at step <;> cases step
    rename_i times
    have enrolling := holds.enrolling
    refine ⟨⟨enrolling.follows, enrolling.idle, enrolling.redeemedOnce, enrolling.enrolledOnce,
      enrolling.redeemed⟩, holds.tokens, holds.sessions.mint owed times.2, ?_, ?_⟩
    · simpa using holds.credited
    · intro other mem
      rcases mem_or_eq_of_mem_set mem with mem | rfl
      · exact holds.paid other mem
      · exact holds.paid (.owed redeemed since) (mem_of_getElem? owed)
  · cases step

theorem step {event : AdministeredServer.Event}
    (assumed : collisionFree admin event = true ∧ drawsDistinct admin event = true)
    (stepped : admin.step event = some next) : Administered next := by
  have known := @collisionFree_unmistakable admin event
  cases event with
  | relay => exact holds.relay (fun presented asked => (known assumed.1 asked).1) stepped
  | issue => exact holds.issue assumed.2 stepped
  | request request => exact holds.request (fun presented asked => known assumed.1 asked) stepped
  | mint => exact holds.mint stepped

/-- A token is accepted by a step only as the last one issued and in time. -/
theorem newly_accepted {event : AdministeredServer.Event} {token : String}
    (free : collisionFree admin event = true) (step : admin.step event = some next)
    (after : token ∈ next.accepted) (before : token ∉ admin.accepted) :
    ∃ stamped, admin.issued.getLast? = some (token, stamped) ∧
      admin.server.now < stamped + adminTokenTtl := by
  have known := @collisionFree_unmistakable admin event
  have good {tokens : AdminTokenStore} {presented : String}
      (asked : presentedBy admin event = some presented)
      (consumed : admin.tokens.consume admin.crates presented admin.server.now = (.ok (), tokens))
      (grown : token ∈ admin.accepted ++ [presented]) :
      ∃ stamped, admin.issued.getLast? = some (token, stamped) ∧
        admin.server.now < stamped + adminTokenTtl := by
    rcases mem_append.mp grown with old | new
    · exact absurd old before
    · cases mem_singleton.mp new
      obtain ⟨stamped, last, _, early⟩ :=
        holds.tokens.accepts (known free asked).1 (by rw [consumed])
      exact ⟨stamped, last, early⟩
  cases event with
  | relay event =>
    obtain ⟨server, moved, rfl⟩ := Option.map_eq_some_iff.mp step
    obtain ⟨change, _⟩ := holds.enrolling.relay moved
    generalize { admin.around event with server := server } = next at change after
    cases change with
    | aside | refused | enrolled => exact absurd after before
    | redeemed _ _ _ asked consumed => exact good asked consumed after
  | issue =>
    simp only [AdministeredServer.step] at step
    split at step <;> cases step
    exact absurd after before
  | request request =>
    have routed := route_routed admin.crates request admin.tokens admin.api admin.server.now
    simp only [AdministeredServer.step] at step
    generalize route admin.crates request admin.tokens admin.api admin.server.now = result
      at routed step
    cases routed <;> cases step
    case redeemed.refl adminToken tokens asked consumed => exact good asked consumed after
    all_goals exact absurd after before
  | mint =>
    simp only [AdministeredServer.step] at step
    split at step
    · split at step <;> cases step
      exact absurd after before
    · cases step

theorem credits : admin.enrolled.length + admin.minting.length ≤ admin.issued.length := by
  have enrolled : admin.enrolled.length ≤ admin.redeemers.length :=
    (holds.enrolling.enrolledOnce.subperm fun conn mem =>
      holds.enrolling.redeemed conn mem).length_le
  have accepted : admin.accepted.length ≤ (admin.issued.map Prod.fst).length :=
    (holds.tokens.acceptedOnce.subperm fun token mem =>
      holds.tokens.acceptedIssued token mem).length_le
  rw [length_map] at accepted
  have credited := holds.credited
  omega

end Administered

/-- In every interleaving of issues, enrollments and admin requests: what the store accepts is
the last token issued, once and in time, whatever else was presented; a handler runs only for
a session minted for an accepted token less than the lifetime ago; and the enrollments and
sessions are covered by the tokens issued. -/
theorem admin_credential_chain (config : Config) (pool : PortPool)
    (entries : HashMap PubKey AuthorizedEntry) (peers : List String) (now : Instant)
    (crates : AdminCrates) (sessionTtl : Duration) (events : List AdministeredServer.Event)
    (admin : AdministeredServer)
    (assumed : Meets AdministeredServer.step (fun admin event =>
        collisionFree admin event = true ∧ drawsDistinct admin event = true)
      (.init (.init config pool entries peers now) crates sessionTtl) events)
    (finished : run AdministeredServer.step
      (.init (.init config pool entries peers now) crates sessionTtl) events = some admin) :
    (∀ presented, Unmistakable admin.crates presented (admin.issued.map Prod.fst) →
      ((admin.tokens.consume admin.crates presented admin.server.now).1 = .ok () ↔
        ∃ stamped, admin.issued.getLast? = some (presented, stamped) ∧
          presented ∉ admin.accepted ∧ admin.server.now < stamped + adminTokenTtl)) ∧
    admin.accepted.Nodup ∧
    (∀ event next token, collisionFree admin event = true → admin.step event = some next →
      token ∈ next.accepted → token ∉ admin.accepted →
      ∃ stamped, admin.issued.getLast? = some (token, stamped) ∧
        admin.server.now < stamped + adminTokenTtl) ∧
    (∀ token handler time, (token, handler, time) ∈ admin.handled → ∃ redeemed stamped,
      .stored redeemed token stamped ∈ admin.minting ∧ redeemed ∈ admin.accepted ∧
        stamped ≤ time ∧ time < stamped + admin.api.sessionTtl) ∧
    admin.enrolled.length + admin.minting.length ≤ admin.issued.length := by
  have holds : Administered admin :=
    run_meets Administered
      (fun state event next held met stepped => held.step met stepped)
      (administered_init _ crates sessionTtl fun _ => rfl) assumed finished
  refine ⟨fun presented known => holds.tokens.consume_iff known, holds.tokens.acceptedOnce, ?_, ?_,
    holds.credits⟩
  · intro event next token free stepped after before
    exact holds.newly_accepted free stepped after before
  · intro token handler time member
    obtain ⟨redeemed, stamped, stored, times⟩ := holds.sessions.handled token handler time member
    exact ⟨redeemed, stamped, stored, holds.paid _ stored, times⟩

section Operator

def firstToken : String := "0000000000000000000000000000000000000000000000000000"

def secondToken : String := "ZZZZZZZZZZZZZZZZZZZZZZZZZZZZZZZZZZZZZZZZZZZZZZZZZZZG"

def sessionToken : String := "248H248H248H248H248H248H248H248H248H248H248H248H248G"

/-- base32, BLAKE3 and the JSON on the strings of the run below. -/
def operatorCrates : AdminCrates where
  base32 := fun raw =>
    if raw = .replicate 32 0x00 then firstToken
    else if raw = .replicate 32 0xFF then secondToken
    else sessionToken
  blake3 := fun bytes =>
    if bytes = utf8 firstToken then
      #v[0x7C, 0xF0, 0x1E, 0x89, 0x56, 0x28, 0x82, 0x6B, 0x32, 0x28, 0x2C, 0x79, 0x71, 0xAC, 0xB8,
        0x45, 0x62, 0x2B, 0xE3, 0x1C, 0xFC, 0xDA, 0xB0, 0x36, 0x1C, 0x88, 0xCE, 0x9F, 0x0E, 0xA4,
        0x64, 0x7A]
    else if bytes = utf8 secondToken then
      #v[0x71, 0xF1, 0x4C, 0xB1, 0xA2, 0x57, 0xD5, 0x4E, 0x2C, 0x22, 0x0D, 0xFB, 0x83, 0x3A, 0x98,
        0xD9, 0x84, 0xDB, 0x67, 0x24, 0xEA, 0xCB, 0xB4, 0xE4, 0x8F, 0xE1, 0xE6, 0xA1, 0x1D, 0x10,
        0xC5, 0x56]
    else
      #v[0x1B, 0x94, 0x4C, 0x4D, 0x6C, 0x94, 0xF4, 0xE7, 0x7A, 0xBA, 0x4D, 0x37, 0x6E, 0xF9, 0xCD,
        0xC4, 0xEA, 0x91, 0x7D, 0x86, 0x76, 0x5B, 0x85, 0x76, 0x4F, 0xD2, 0x57, 0xEA, 0x3E, 0x82,
        0x35, 0x37]
  sessionBody := fun body =>
    if body = utf8 ("\x7b\"admin_token\":\"" ++ secondToken ++ "\"\x7d") then some secondToken
    else none

def sessionRequest : AdminRequest where
  method := "POST"
  path := "/admin/v1/session"
  headers := []
  body := utf8 ("\x7b\"admin_token\":\"" ++ secondToken ++ "\"\x7d")

def keysRequest : AdminRequest where
  method := "GET"
  path := "/admin/v1/keys"
  headers := [("Authorization", "Bearer " ++ sessionToken)]
  body := []

/-- One token is spent on an enrollment, the next on a session that lists the keys. -/
def operatorDay : List AdministeredServer.Event :=
  [.issue (.replicate 32 0x00) 0, .relay (.accept ⟨0⟩), .relay (.call ⟨0⟩ {}),
    .relay (.call ⟨0⟩ { frame := .ok (.enroll firstToken dave (some "laptop")) }),
    .relay (.call ⟨0⟩ {}), .relay (.call ⟨0⟩ {}),
    .relay (.call ⟨0⟩ { appended := .ok ("ed25519", dave, anyHttp) }),
    .relay (.call ⟨0⟩ {}), .issue (.replicate 32 0xFF) 0, .relay (.tick 5),
    .request sessionRequest, .mint 0 (.replicate 32 0x11) 5, .request keysRequest]

def operated : AdministeredServer :=
  .init (.init domainConfig ⟨7000, 7001⟩ ∅ [] 0) operatorCrates (3600 * 1000000000)

theorem admin_credential_chain_operator :
    let admin := final AdministeredServer.step operated operatorDay
    (admin.enrolled.length = 1 ∧ admin.minting.length = 1 ∧ admin.issued.length = 2) ∧
      admin.handled = [(sessionToken, .listKeys, 5)] ∧ admin.accepted.Nodup := by
  intro admin
  -- the whole day is run once
  have evaluated : Meets AdministeredServer.step (fun admin event =>
        collisionFree admin event = true ∧ drawsDistinct admin event = true) operated operatorDay ∧
      (run AdministeredServer.step operated operatorDay).isSome = true ∧
      (admin.enrolled.length = 1 ∧ admin.minting.length = 1 ∧ admin.issued.length = 2) ∧
      admin.handled = [(sessionToken, .listKeys, 5)] := by
    decide +kernel
  obtain ⟨assumed, enabled, counted, handled⟩ := evaluated
  have chain := admin_credential_chain domainConfig _ _ _ _ operatorCrates _ operatorDay admin
    assumed (run_final enabled)
  exact ⟨counted, handled, chain.2.1⟩

end Operator

end KrotRelay.Guarantees
