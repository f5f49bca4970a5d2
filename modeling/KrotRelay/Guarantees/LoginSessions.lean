import KrotRelay.Lib.Run
import KrotRelay.Source.LocalAuth

/-!
# Login sessions over whole histories

`decide_session` on one store, request after request. The specification speaks of the
history alone: which logins issued a token, which logouts presented it, when it last let a
request through. The store agrees with it on every token, at every time.
-/
namespace KrotRelay.Guarantees
open Source Lib
open SessionRequest (isLoginPost isLogin isLogout)

/-- A request as it is evaluated: the bytes `OsRng` gives if a token is drawn, and the two
readings of the clock. -/
structure Arrival where
  request : SessionRequest
  raw : Vector UInt8 32
  now : Instant
  stamped : Instant

structure Exchange extends Arrival where
  action : SessionAction

structure LoginGate where
  user : String
  pass : String
  store : SessionStore
  clock : Instant
  history : List Exchange

namespace LoginGate

def init (user pass : String) (clock : Instant) : LoginGate where
  user := user
  pass := pass
  store := .new
  clock := clock
  history := []

def decide (gate : LoginGate) (arrival : Arrival) : SessionAction × SessionStore :=
  decideSessionInner gate.user gate.pass gate.store arrival.request (newToken arrival.raw)
    arrival.now arrival.stamped

/-- The clock does not run backwards. -/
def step (gate : LoginGate) (arrival : Arrival) : Option LoginGate :=
  if gate.clock ≤ arrival.now ∧ arrival.now ≤ arrival.stamped then
    some { gate with
      store := (gate.decide arrival).2
      clock := arrival.stamped
      history := gate.history ++ [{ arrival with action := (gate.decide arrival).1 }] }
  else none

end LoginGate

section History
variable (user pass : String)

/-- A `POST /__krot/login` whose first fields are the configured credentials. -/
def LogsIn (request : SessionRequest) : Prop :=
  request.pathOnly = loginPath.toList ∧ eqIgnoreAsciiCase request.method "POST" = true ∧
    (formFields "user" ((fromUtf8 request.body).getD "").toList).head? = some user ∧
    (formFields "pass" ((fromUtf8 request.body).getD "").toList).head?.getD "" = pass

/-- The first session cookie of the request. -/
def Presents (request : SessionRequest) (token : String) : Prop :=
  (sessionCookies request.headers).head? = some token

def LogsOut (request : SessionRequest) (token : String) : Prop :=
  request.pathOnly = logoutPath.toList ∧ Presents request token

instance (request : SessionRequest) (token : String) : Decidable (Presents request token) :=
  inferInstanceAs (Decidable (_ = _))

instance (request : SessionRequest) : Decidable (LogsIn user pass request) :=
  inferInstanceAs (Decidable (_ ∧ _))

instance (request : SessionRequest) (token : String) : Decidable (LogsOut request token) :=
  inferInstanceAs (Decidable (_ ∧ _))

def Exchange.Issues (exchange : Exchange) (token : String) : Prop :=
  LogsIn user pass exchange.request ∧ newToken exchange.raw = token

def Exchange.Forwards (exchange : Exchange) (token : String) : Prop :=
  exchange.action = .forward ∧ Presents exchange.request token

instance (exchange : Exchange) (token : String) : Decidable (exchange.Issues user pass token) :=
  inferInstanceAs (Decidable (_ ∧ _))

instance (exchange : Exchange) (token : String) : Decidable (exchange.Forwards token) :=
  inferInstanceAs (Decidable (_ ∧ _))

/-- The time of the issue, or of the last Forward of the token since. -/
def lastUse (token : String) (issue : Exchange) (since : List Exchange) : Instant :=
  since.foldl (fun latest exchange =>
    if exchange.Forwards token then exchange.stamped else latest) issue.stamped

/-- The token was issued, not logged out since, and is less than a TTL out of use. -/
def CurrentToken (history : List Exchange) (token : String) (now : Instant) : Prop :=
  ∃ before issue since, history = before ++ issue :: since ∧ issue.Issues user pass token ∧
    (∀ exchange ∈ since, ¬ LogsOut exchange.request token) ∧
    now < lastUse token issue since + sessionTtl

/-- The same, computed along the history: when the token was last granted. -/
def regrant (token : String) (latest : Option Instant) (exchange : Exchange) : Option Instant :=
  if exchange.Issues user pass token then some exchange.stamped
  else if LogsOut exchange.request token then none
  else if exchange.Forwards token then latest.map fun _ => exchange.stamped
  else latest

def grantedAt (history : List Exchange) (token : String) : Option Instant :=
  history.foldl (regrant user pass token) none

theorem grantedAt_concat (history : List Exchange) (exchange : Exchange) (token : String) :
    grantedAt user pass (history ++ [exchange]) token =
      regrant user pass token (grantedAt user pass history token) exchange := by
  rw [grantedAt, List.foldl_append]
  rfl

theorem lastUse_concat (token : String) (issue : Exchange) (since : List Exchange)
    (exchange : Exchange) : lastUse token issue (since ++ [exchange]) =
      if exchange.Forwards token then exchange.stamped else lastUse token issue since := by
  rw [lastUse, List.foldl_append]
  rfl

theorem lastUse_le (token : String) (issue : Exchange) (since : List Exchange) (bound : Instant)
    (past : ∀ exchange ∈ issue :: since, exchange.stamped ≤ bound) :
    lastUse token issue since ≤ bound := by
  induction since using List.reverseRecOn with
  | nil => exact past issue List.mem_cons_self
  | append_singleton _ exchange ih =>
    rw [lastUse_concat]
    split
    · exact past exchange (by simp)
    · refine ih fun other mem => past other ?_
      rw [← List.cons_append]
      exact List.mem_append_left _ mem

theorem LogsOut.not_logsIn {request : SessionRequest} {token : String}
    (out : LogsOut request token) : ¬ LogsIn user pass request := by
  intro login
  have same : logoutPath.toList = loginPath.toList := out.1.symm.trans login.1
  exact absurd same (by decide)

variable {user pass}

/-- A token that is issued at most once is granted exactly while it is current. -/
theorem grantedAt_eq_some_iff (history : List Exchange) (token : String)
    (once : ∀ before issue since, history = before ++ issue :: since →
      issue.Issues user pass token → ∀ earlier ∈ before, ¬ earlier.Issues user pass token)
    (t : Instant) : grantedAt user pass history token = some t ↔
      ∃ before issue since, history = before ++ issue :: since ∧
        issue.Issues user pass token ∧ (∀ exchange ∈ since, ¬ LogsOut exchange.request token) ∧
        lastUse token issue since = t := by
  -- the history grows at its end, so the split is looked at from there
  induction history using List.reverseRecOn generalizing t with
  | nil =>
    constructor
    · intro granted
      cases granted
    · rintro ⟨before, issue, since, split, _⟩
      simp at split
  | append_singleton history exchange ih =>
    have ih := ih fun before issue since split issued =>
      once before issue (since ++ [exchange]) (by rw [split]; simp) issued
    rw [grantedAt_concat]
    constructor
    · intro granted
      unfold regrant at granted
      split_ifs at granted with issued out forwards
      · cases granted
        exact ⟨history, exchange, [], rfl, issued, by simp, rfl⟩
      · obtain ⟨earlier, was, rfl⟩ := Option.map_eq_some_iff.mp granted
        obtain ⟨before, issue, since, rfl, issues, stays, _⟩ := (ih earlier).mp was
        refine ⟨before, issue, since ++ [exchange], by simp, issues, ?_, ?_⟩
        · exact List.forall_mem_append.mpr ⟨stays, List.forall_mem_singleton.mpr out⟩
        · rw [lastUse_concat, if_pos forwards]
      · obtain ⟨before, issue, since, rfl, issues, stays, last⟩ := (ih t).mp granted
        refine ⟨before, issue, since ++ [exchange], by simp, issues, ?_, ?_⟩
        · exact List.forall_mem_append.mpr ⟨stays, List.forall_mem_singleton.mpr out⟩
        · rw [lastUse_concat, if_neg forwards, last]
    · rintro ⟨before, issue, since, split, issues, stays, last⟩
      rcases List.eq_nil_or_concat' since with rfl | ⟨since, final, rfl⟩
      · obtain ⟨rfl, same⟩ := List.append_inj' split rfl
        obtain rfl : exchange = issue := by simpa using same
        rw [regrant, if_pos issues]
        exact congrArg some last
      · rw [← List.cons_append, ← List.append_assoc] at split
        obtain ⟨rfl, same⟩ := List.append_inj' split rfl
        obtain rfl : exchange = final := by simpa using same
        have fresh : ¬ exchange.Issues user pass token := by
          intro again
          exact once _ exchange [] rfl again issue (by simp) issues
        have kept : ¬ LogsOut exchange.request token := stays exchange (by simp)
        have granted := (ih (lastUse token issue since)).mpr
          ⟨before, issue, since, rfl, issues, fun other mem => stays other (by simp [mem]), rfl⟩
        rw [regrant, if_neg fresh, if_neg kept, granted]
        rw [lastUse_concat] at last
        split
        · rename_i forwards
          rw [if_pos forwards] at last
          exact congrArg some last
        · rename_i forwards
          rw [if_neg forwards] at last
          exact congrArg some last

theorem logsIn_iff (request : SessionRequest) : LogsIn user pass request ↔
      request.isLoginPost = true ∧ request.credentialsOk user pass = true := by
  rw [request.credentialsOk_iff, LogsIn, isLoginPost, isLogin,
    Bool.and_eq_true, beq_iff_eq, and_assoc]

theorem logsOut_iff (request : SessionRequest) (token : String) :
    LogsOut request token ↔ request.isLogout = true ∧ Presents request token := by
  rw [LogsOut, isLogout, beq_iff_eq]

/-- A request to another path neither logs in nor out. -/
theorem gated_plain {request : SessionRequest}
    (gated : request.isLogout = false ∧ request.isLogin = false) :
    ¬ LogsIn user pass request ∧ ∀ token, ¬ LogsOut request token := by
  constructor
  · intro logs
    have post := ((logsIn_iff _).mp logs).1
    simp [isLoginPost, gated.2] at post
  · intro token out
    have logout := ((logsOut_iff _ token).mp out).1
    rw [gated.1] at logout
    cases logout

/-- The first cookie is one cookie. -/
theorem Presents.unique {request : SessionRequest} {first second : String}
    (left : Presents request first) (right : Presents request second) : first = second :=
  Option.some.inj (left.symm.trans right)

end History

section Store

/-- No token is issued twice: the random tokens are distinct. -/
def DrawsFresh (gate : LoginGate) (arrival : Arrival) : Prop :=
  LogsIn gate.user gate.pass arrival.request →
    ∀ earlier ∈ gate.history, ¬ earlier.Issues gate.user gate.pass (newToken arrival.raw)

/-- The store and the history say the same about every token, up to tokens that are out of
date and still in the store, or already gone. -/
structure Faithful (gate : LoginGate) : Prop where
  once : ∀ token before issue since, gate.history = before ++ issue :: since →
    issue.Issues gate.user gate.pass token →
    ∀ earlier ∈ before, ¬ earlier.Issues gate.user gate.pass token
  sound : ∀ token expiry, gate.store.inner.lookup token = some expiry →
    ∃ t, grantedAt gate.user gate.pass gate.history token = some t ∧ expiry = t + sessionTtl
  complete : ∀ token t, grantedAt gate.user gate.pass gate.history token = some t →
    gate.store.inner.lookup token = some (t + sessionTtl) ∨ t + sessionTtl ≤ gate.clock
  past : ∀ exchange ∈ gate.history, exchange.stamped ≤ gate.clock

theorem faithful_init (user pass : String) (clock : Instant) :
    Faithful (.init user pass clock) where
  once := by
    intro token before issue since split
    simp [LoginGate.init] at split
  sound := by
    intro token expiry found
    simp [LoginGate.init, SessionStore.new] at found
  complete := by
    intro token t granted
    cases granted
  past := by simp [LoginGate.init]

variable {gate next : LoginGate} {arrival : Arrival}

/-- What an evaluation adds to the history, and nothing else of the gate changes. -/
theorem LoginGate.step_eq (step : gate.step arrival = some next) :
    gate.clock ≤ arrival.now ∧ arrival.now ≤ arrival.stamped ∧ next = { gate with
        store := (gate.decide arrival).2
        clock := arrival.stamped
        history := gate.history ++ [{ arrival with action := (gate.decide arrival).1 }] } := by
  unfold LoginGate.step at step
  split at step
  · rename_i order
    exact ⟨order.1, order.2, (Option.some.inj step).symm⟩
  · cases step

/-- The grants after one more evaluation and the store it leaves, token by token. -/
inductive TokenMove (gate : LoginGate) (arrival : Arrival) (exchange : Exchange)
    (store : SessionStore) (token : String) : Prop
  | issued (granted : ∀ latest, regrant gate.user gate.pass token latest exchange =
        some arrival.stamped)
      (stored : store.inner.lookup token = some (arrival.stamped + sessionTtl))
  | dropped (granted : ∀ latest, regrant gate.user gate.pass token latest exchange = none)
      (stored : store.inner.lookup token = none)
  | refreshed (expiry) (was : gate.store.inner.lookup token = some expiry)
      (granted : ∀ latest, regrant gate.user gate.pass token latest exchange =
        latest.map fun _ => arrival.stamped)
      (stored : store.inner.lookup token = some (arrival.stamped + sessionTtl))
  | kept (granted : ∀ latest, regrant gate.user gate.pass token latest exchange = latest)
      (stored : store.inner.lookup token =
        (gate.store.inner.lookup token).filter (arrival.now < ·) ∨
        store.inner.lookup token = gate.store.inner.lookup token)

theorem token_move (gate : LoginGate) (arrival : Arrival) (token : String) :
    TokenMove gate arrival { arrival with action := (gate.decide arrival).1 }
      (gate.decide arrival).2 token := by
  have decided := decideSessionInner_decided gate.user gate.pass gate.store arrival.request
    (newToken arrival.raw) arrival.now arrival.stamped
  revert decided
  show Decided _ _ _ _ _ _ _ (gate.decide arrival).1 (gate.decide arrival).2 → _
  generalize (gate.decide arrival).1 = action
  generalize (gate.decide arrival).2 = store
  intro decided
  cases decided with
  | loggedOut logout presented cookie =>
    have silent : ¬ LogsIn gate.user gate.pass arrival.request :=
      LogsOut.not_logsIn _ _ ((logsOut_iff _ presented).mpr ⟨logout, cookie⟩)
    by_cases own : token = presented
    · subst own
      refine .dropped (fun latest => ?_) (by simp)
      rw [regrant, if_neg (fun issued => silent issued.1),
        if_pos ((logsOut_iff _ token).mpr ⟨logout, cookie⟩)]
    · refine .kept (fun latest => ?_) (.inr (by simp [own]))
      rw [regrant, if_neg (fun issued => silent issued.1),
        if_neg (fun out => own (out.2.unique cookie)),
        if_neg (fun forwards => own (forwards.2.unique cookie))]
  | loggedIn login granted =>
    have logs : LogsIn gate.user gate.pass arrival.request := (logsIn_iff _).mpr ⟨login, granted⟩
    by_cases own : token = newToken arrival.raw
    · refine .issued (fun latest => ?_) (by simp [own])
      rw [regrant, if_pos ⟨logs, own.symm⟩]
    · refine .kept (fun latest => ?_) (.inl (by simp [own]))
      rw [regrant, if_neg (fun issued => own issued.2.symm),
        if_neg (fun out => LogsOut.not_logsIn _ _ out logs),
        if_neg (fun forwards => by cases forwards.1)]
  | admitted gated presented cookie valid =>
    obtain ⟨plain, stays⟩ := @gated_plain gate.user gate.pass _ gated
    by_cases own : token = presented
    · subst own
      obtain ⟨expiry, was, _⟩ := (gate.store.validateAndRefresh_iff _ _ _).mp valid
      refine .refreshed expiry was (fun latest => ?_) ?_
      · rw [regrant, if_neg (fun issued => plain issued.1), if_neg (stays token),
          if_pos ⟨rfl, cookie⟩]
      · rw [gate.store.validateAndRefresh_self, valid]
        rfl
    · refine .kept (fun latest => ?_) (.inr (gate.store.validateAndRefresh_other _ _ _ _ own))
      rw [regrant, if_neg (fun issued => plain issued.1), if_neg (stays token),
        if_neg (fun forwards => own (forwards.2.unique cookie))]
  | denied gated presented _ invalid =>
    obtain ⟨plain, stays⟩ := @gated_plain gate.user gate.pass _ gated
    refine .kept (fun latest => ?_) ?_
    · rw [regrant, if_neg (fun issued => plain issued.1), if_neg (stays token),
        if_neg (fun forwards => by cases forwards.1)]
    · by_cases own : token = presented
      · subst own
        left
        rw [gate.store.validateAndRefresh_self, invalid]
        cases found : gate.store.inner.lookup token with
        | none => rfl
        | some expiry =>
          have late : ¬ arrival.now < expiry := fun early => by
            have := (gate.store.validateAndRefresh_iff token arrival.now arrival.stamped).mpr
              ⟨expiry, found, early⟩
            rw [invalid] at this
            cases this
          simp [Option.filter_some, late]
      · exact .inr (gate.store.validateAndRefresh_other _ _ _ _ own)
  | answered _ grantless anonymous kept =>
    refine .kept (fun latest => ?_) (.inr rfl)
    have plain : ¬ LogsIn gate.user gate.pass arrival.request := by
      intro logs
      obtain ⟨post, granted⟩ := (logsIn_iff _).mp logs
      rw [grantless post] at granted
      cases granted
    have stays : ∀ other, ¬ LogsOut arrival.request other := by
      intro other out
      obtain ⟨logout, cookie⟩ := (logsOut_iff _ other).mp out
      rcases anonymous with none | ⟨_, other⟩
      · rw [Presents, none] at cookie
        cases cookie
      · rw [other] at logout
        cases logout
    rw [regrant, if_neg (fun issued => plain issued.1), if_neg (stays token),
      if_neg (fun forwards => kept forwards.1)]

theorem Faithful.step (faithful : Faithful gate) (fresh : DrawsFresh gate arrival)
    (step : gate.step arrival = some next) : Faithful next := by
  obtain ⟨later, stamped, rfl⟩ := LoginGate.step_eq step
  refine ⟨?_, ?_, ?_, ?_⟩
  · intro token before issue since split issued earlier mem
    rcases List.eq_nil_or_concat' since with rfl | ⟨since, final, rfl⟩
    · obtain ⟨rfl, same⟩ := List.append_inj' split rfl
      obtain rfl : _ = issue := by simpa using same
      obtain ⟨logs, rfl⟩ := issued
      exact fresh logs earlier mem
    · rw [← List.cons_append, ← List.append_assoc] at split
      exact faithful.once token before issue since (List.append_inj' split rfl).1 issued earlier mem
  · intro token expiry found
    dsimp only at found ⊢
    rw [grantedAt_concat]
    cases token_move gate arrival token with
    | issued granted stored =>
      rw [stored] at found
      cases found
      exact ⟨arrival.stamped, granted _, rfl⟩
    | dropped _ stored =>
      rw [stored] at found
      cases found
    | refreshed expiry was granted stored =>
      rw [stored] at found
      cases found
      obtain ⟨t, before, _⟩ := faithful.sound token expiry was
      exact ⟨arrival.stamped, by rw [granted, before]; rfl, rfl⟩
    | kept granted stored =>
      rw [granted]
      rcases stored with stored | stored
      · rw [stored] at found
        exact faithful.sound token expiry (Option.filter_eq_some_iff.mp found).1
      · rw [stored] at found
        exact faithful.sound token expiry found
  · intro token t
    dsimp only
    rw [grantedAt_concat]
    cases token_move gate arrival token with
    | issued granted stored =>
      rw [granted]
      rintro ⟨⟩
      exact .inl stored
    | dropped granted =>
      rw [granted]
      intro impossible
      cases impossible
    | refreshed _ _ granted stored =>
      rw [granted]
      intro granted
      obtain ⟨earlier, _, rfl⟩ := Option.map_eq_some_iff.mp granted
      exact .inl stored
    | kept granted stored =>
      rw [granted]
      intro before
      rcases faithful.complete token t before with found | expired
      · rcases stored with stored | stored
        · by_cases early : arrival.now < t + sessionTtl
          · left
            rw [stored, found, Option.filter_some, if_pos (by simpa using early)]
          · exact .inr ((Nat.le_of_not_lt early).trans stamped)
        · exact .inl (stored.trans found)
      · exact .inr (expired.trans (later.trans stamped))
  · refine List.forall_mem_append.mpr ⟨fun exchange mem => ?_, ?_⟩
    · exact (faithful.past exchange mem).trans (later.trans stamped)
    · exact List.forall_mem_singleton.mpr le_rfl

/-- A request that is not a logout of the token leaves it current. -/
theorem Faithful.current_step (faithful : Faithful gate) {token : String} {now : Instant}
    (current : CurrentToken gate.user gate.pass gate.history token now)
    (stays : ¬ LogsOut arrival.request token) (step : gate.step arrival = some next) :
    CurrentToken next.user next.pass next.history token now := by
  obtain ⟨later, stamped, rfl⟩ := LoginGate.step_eq step
  obtain ⟨before, issue, since, split, issued, kept, early⟩ := current
  refine ⟨before, issue, since ++ [{ arrival with action := (gate.decide arrival).1 }],
    by simp [split], issued, ?_, ?_⟩
  · exact List.forall_mem_append.mpr ⟨kept, List.forall_mem_singleton.mpr stays⟩
  rw [lastUse_concat]
  split
  · have last : lastUse token issue since ≤ arrival.stamped := by
      refine (lastUse_le token issue since gate.clock fun exchange mem => ?_).trans
        (later.trans stamped)
      refine faithful.past exchange ?_
      rw [split]
      exact List.mem_append_right _ mem
    exact early.trans_le (Nat.add_le_add_right last _)
  · exact early

/-- A Set-Cookie either clears the cookie or brings the token of a login. -/
theorem LoginGate.decide_cookie {location value : String}
    (answered : (gate.decide arrival).1 = .redirect location (some value)) :
    value = sessionClearCookie ∨
      LogsIn gate.user gate.pass arrival.request ∧ value = sessionSetCookie (newToken arrival.raw) := by
  have decided := decideSessionInner_decided gate.user gate.pass gate.store arrival.request
    (newToken arrival.raw) arrival.now arrival.stamped
  change Decided _ _ _ _ _ _ _ (gate.decide arrival).1 (gate.decide arrival).2 at decided
  rw [answered] at decided
  generalize (gate.decide arrival).2 = store at decided
  cases decided with
  | loggedOut => exact .inl rfl
  | loggedIn login granted => exact .inr ⟨(logsIn_iff _).mpr ⟨login, granted⟩, rfl⟩
  | answered _ _ _ _ cookieless => exact .inl (cookieless location value rfl)

/-- A request to any other path is let through exactly with a current token. -/
theorem Faithful.forward_iff (faithful : Faithful gate) (enabled : gate.clock ≤ arrival.now)
    (gated : arrival.request.isLogout = false ∧ arrival.request.isLogin = false) :
    (gate.decide arrival).1 = .forward ↔ ∃ token, Presents arrival.request token ∧
        CurrentToken gate.user gate.pass gate.history token arrival.now := by
  have current (token : String) :
      (gate.store.validateAndRefresh token arrival.now arrival.stamped).1 = true ↔
        CurrentToken gate.user gate.pass gate.history token arrival.now := by
    have granted := grantedAt_eq_some_iff gate.history token (faithful.once token)
    rw [SessionStore.validateAndRefresh_iff]
    constructor
    · rintro ⟨expiry, found, early⟩
      obtain ⟨t, since, rfl⟩ := faithful.sound token expiry found
      obtain ⟨before, issue, after, split, issued, kept, rfl⟩ := (granted t).mp since
      exact ⟨before, issue, after, split, issued, kept, early⟩
    · rintro ⟨before, issue, after, split, issued, kept, early⟩
      have since := (granted _).mpr ⟨before, issue, after, split, issued, kept, rfl⟩
      rcases faithful.complete token _ since with found | expired
      · exact ⟨_, found, early⟩
      · exact absurd (expired.trans enabled) (Nat.not_le_of_lt early)
  unfold LoginGate.decide decideSessionInner
  have post : arrival.request.isLoginPost = false := by
    simp [isLoginPost, gated.2]
  rw [currentSessionToken_eq, if_neg (by simp [gated.1]), if_neg (by simp [post]),
    if_neg (by simp [gated.2])]
  cases cookie : (sessionCookies arrival.request.headers).head? with
  | none => simp [Presents, cookie]
  | some presented =>
    have only : (∃ token, Presents arrival.request token ∧
        CurrentToken gate.user gate.pass gate.history token arrival.now) ↔
        CurrentToken gate.user gate.pass gate.history presented arrival.now := by
      simp [Presents, cookie]
    rw [only, ← current presented]
    dsimp only
    split <;> simp_all

end Store

/-- Session semantics over every history of requests at non-decreasing times with distinct
random tokens: Forward exactly for a current token, which nothing but its own logout and
time takes away, and a new token only by a login. -/
theorem login_sessions (user pass : String) (clock : Instant) (arrivals : List Arrival)
    (gate : LoginGate) (distinct : Meets LoginGate.step DrawsFresh (.init user pass clock) arrivals)
    (finished : run LoginGate.step (.init user pass clock) arrivals = some gate) :
    (∀ arrival next, gate.step arrival = some next → arrival.request.pathOnly ≠ loginPath.toList →
      arrival.request.pathOnly ≠ logoutPath.toList →
      ((gate.decide arrival).1 = .forward ↔ ∃ token, Presents arrival.request token ∧
          CurrentToken user pass gate.history token arrival.now)) ∧
    (∀ arrival next token now, gate.step arrival = some next →
      ¬ LogsOut arrival.request token → CurrentToken user pass gate.history token now →
      CurrentToken user pass next.history token now) ∧
    ∀ exchange ∈ gate.history, ∀ location value, exchange.action = .redirect location (some value) →
      value = sessionClearCookie ∨
        ∃ token, exchange.Issues user pass token ∧ value = sessionSetCookie token := by
  obtain ⟨rfl, rfl, faithful, cookies⟩ := run_meets
    (fun gate => gate.user = user ∧ gate.pass = pass ∧ Faithful gate ∧
      ∀ exchange ∈ gate.history, ∀ location value,
        exchange.action = .redirect location (some value) →
        value = sessionClearCookie ∨
          ∃ token, exchange.Issues user pass token ∧ value = sessionSetCookie token)
    (by
      rintro gate arrival next ⟨rfl, rfl, faithful, cookies⟩ fresh stepped
      have kept := faithful.step fresh stepped
      obtain ⟨_, _, rfl⟩ := LoginGate.step_eq stepped
      refine ⟨rfl, rfl, kept, List.forall_mem_append.mpr ⟨cookies, ?_⟩⟩
      refine List.forall_mem_singleton.mpr fun location value answered => ?_
      rcases LoginGate.decide_cookie answered with clear | ⟨logs, value⟩
      · exact .inl clear
      · exact .inr ⟨_, ⟨logs, rfl⟩, value⟩)
    ⟨rfl, rfl, faithful_init user pass clock, by simp [LoginGate.init]⟩ distinct finished
  refine ⟨?_, ?_, cookies⟩
  · intro arrival next stepped login logout
    refine faithful.forward_iff (LoginGate.step_eq stepped).1 ⟨?_, ?_⟩
    · simpa [isLogout] using logout
    · simpa [isLogin] using login
  · intro arrival next token now stepped stays current
    have after := faithful.current_step current stays stepped
    obtain ⟨_, _, rfl⟩ := LoginGate.step_eq stepped
    exact after

instance (gate : LoginGate) (arrival : Arrival) : Decidable (DrawsFresh gate arrival) :=
  inferInstanceAs (Decidable (_ → ∀ earlier ∈ gate.history, ¬ _))

def adaLogin : Arrival where
  request := {
    method := "post"
    path := "/__krot/login"
    headers := []
    body := utf8 "user=ada&pass=a%2Bb&next=%2Fdocs&user=eve" }
  raw := .replicate 32 0xA5
  now := 5
  stamped := 6

def adaToken : String := newToken adaLogin.raw

def adaVisit : Arrival where
  request := {
    method := "GET"
    path := "/docs?page=2"
    headers := [("Host", utf8 "shop.relay.example"),
      ("cookie", utf8 ("theme=dark; __krot_session=" ++ adaToken))]
    body := [] }
  raw := .replicate 32 0
  now := 9
  stamped := 9

def adaGate : LoginGate := final LoginGate.step (.init "ada" "a+b" 0) [adaLogin]

theorem login_sessions_ada : (adaGate.decide adaVisit).1 = .forward ∧
      ∃ token, Presents adaVisit.request token ∧
        CurrentToken "ada" "a+b" adaGate.history token adaVisit.now := by
  have evaluated : (adaGate.decide adaVisit).1 = .forward ∧
      (run LoginGate.step (.init "ada" "a+b" 0) [adaLogin]).isSome = true ∧
      (run LoginGate.step adaGate [adaVisit]).isSome = true ∧
      Meets LoginGate.step DrawsFresh (.init "ada" "a+b" 0) [adaLogin] ∧
      adaVisit.request.pathOnly ≠ loginPath.toList ∧
      adaVisit.request.pathOnly ≠ logoutPath.toList := by
    decide +kernel
  obtain ⟨forwarded, reached, visited, distinct, login, logout⟩ := evaluated
  refine ⟨forwarded, ?_⟩
  have stepped : adaGate.step adaVisit = some (final LoginGate.step adaGate [adaVisit]) :=
    (run_single _ _ _ _).mp (run_final visited)
  exact ((login_sessions "ada" "a+b" 0 [adaLogin] adaGate distinct (run_final reached)).1
    adaVisit _ stepped login logout).mp forwarded

end KrotRelay.Guarantees
