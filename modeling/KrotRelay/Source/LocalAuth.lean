import KrotRelay.Source.DataPath
import KrotRelay.Source.LoginPage

/-!
# Client-side HTTP auth (krot-client/src/local_auth.rs)

The decision about one request, from what `httparse` made of its head. The store of a
`Session` policy is passed along; a decision takes its lock at most once. `split_at` in
`strip_scheme_ci` panics inside a character, which ends the task: that is `none`.
-/
namespace KrotRelay.Source
open Lib

/-- A header as `httparse` reports it. -/
abbrev Header := String × List UInt8

inductive AuthPolicy where
  | session (user pass : String)
  | apiKey (key : String)
  deriving DecidableEq

inductive Outcome where
  | ok
  | missing
  | badCreds
  deriving DecidableEq

inductive SessionAction where
  | forward
  | serveLoginPage (next : String) (error : Option String)
  | redirect (location : String) (setCookie : Option String)
  deriving DecidableEq

def eqIgnoreAsciiCase (a b : String) : Bool := asciiLower a.toList == asciiLower b.toList

/-- `str::from_utf8`. -/
def fromUtf8 (bytes : List UInt8) : Option String := String.fromUTF8? ⟨bytes.toArray⟩

def currentSessionToken (headers : List Header) : Option String :=
  headers.findSome? fun header =>
    if eqIgnoreAsciiCase header.1 "cookie" then
      (fromUtf8 header.2).bind fun value => extractSessionCookie value.toList
    else none

def hexUpper (nibble : UInt8) : Char :=
  if nibble ≤ 9 then Char.ofNat (48 + nibble.toNat) else Char.ofNat (65 + nibble.toNat - 10)

/-- The bytes `percent_encode_path` leaves alone. -/
def keptInPath (byte : UInt8) : Bool :=
  (65 ≤ byte && byte ≤ 90) || (97 ≤ byte && byte ≤ 122) || (48 ≤ byte && byte ≤ 57) ||
    (utf8 "-_.~/:@,;=").contains byte

def percentEncodePath (path : String) : String :=
  String.ofList ((utf8 path).flatMap fun byte =>
    if keptInPath byte then [Char.ofNat byte.toNat]
    else ['%', hexUpper (byte >>> 4), hexUpper (byte &&& 0x0F)])

/-- `value.split_at(scheme.len())`, which must not fall inside a character. -/
def splitAtByte (n : Nat) : List Char → Option (List Char × List Char)
  | [] => if n = 0 then some ([], []) else none
  | c :: rest =>
    if n = 0 then some ([], c :: rest)
    else if c.utf8Size ≤ n then
      (splitAtByte (n - c.utf8Size) rest).map fun (front, back) => (c :: front, back)
    else none

/-- `strip_scheme_ci`; the outer `none` is its panic. -/
def stripSchemeCi (value scheme : List Char) : Option (Option (List Char)) :=
  if (String.ofList value).utf8ByteSize ≤ (String.ofList scheme).utf8ByteSize then some none
  else
    (splitAtByte (String.ofList scheme).utf8ByteSize value).map fun (head, tail) =>
      if asciiLower head ≠ asciiLower scheme then none
      else if !(tail.head?.any isWhitespace) then none
      else some tail

def matchesKey (text : List Char) (key : String) : Bool :=
  constantTimeEq (utf8 (String.ofList (trim text))) (utf8 key)

/-- The part of the loop of `check_api_key` that looks for `Authorization: Bearer`. -/
def bearerMatches (key : String) (value : String) : Option Bool :=
  (stripSchemeCi (trim value.toList) "bearer".toList).map fun rest =>
    rest.any fun token => matchesKey token key

/-- The loop of `check_api_key`; `none` is a panic. -/
def checkApiKeyFrom (key : String) (sawHeader : Bool) : List Header → Option Outcome
  | [] => some (if sawHeader then .badCreds else .missing)
  | (name, raw) :: rest =>
    if eqIgnoreAsciiCase name "x-api-key" then
      match fromUtf8 raw with
      | none => some .badCreds
      | some value =>
        if matchesKey value.toList key then some .ok else checkApiKeyFrom key true rest
    else if eqIgnoreAsciiCase name "authorization" then
      match fromUtf8 raw with
      | none => some .badCreds
      | some value =>
        match bearerMatches key value with
        | none => none
        | some true => some .ok
        | some false => checkApiKeyFrom key true rest
    else checkApiKeyFrom key sawHeader rest

def checkApiKey (key : String) (headers : List Header) : Option Outcome :=
  checkApiKeyFrom key false headers

/-- One request as `decide_session` is given it. -/
structure SessionRequest where
  method : String
  path : String
  headers : List Header
  body : List UInt8
  deriving DecidableEq

namespace SessionRequest

variable (request : SessionRequest)

/-- The path up to the query. -/
def pathOnly : List Char :=
  match splitOnce '?' request.path.toList with
  | some (path, _) => path
  | none => request.path.toList

def query : Option (List Char) :=
  (splitOnce '?' request.path.toList).map Prod.snd

def isLogout : Bool := request.pathOnly == logoutPath.toList

def isLogin : Bool := request.pathOnly == loginPath.toList

def isLoginPost : Bool := request.isLogin && eqIgnoreAsciiCase request.method "POST"

def form : LoginForm := parseLoginForm ((fromUtf8 request.body).getD "").toList

/-- The credentials of the form are the configured ones. -/
def credentialsOk (user pass : String) : Bool :=
  request.form.user == some user && constantTimeEq (utf8 (request.form.pass.getD "")) (utf8 pass)

end SessionRequest

/-- `GET /__krot/login`: the page, with the target the query asks for. -/
def loginPageFor (request : SessionRequest) : SessionAction :=
  let asked := request.query.bind fun query =>
    (query.splitOn '&').findSome? (stripPrefixOf "next=".toList)
  .serveLoginPage ((asked.map fun raw => safeNext (formDecode raw)).getD "/") none

/-- `decide_session_inner`. `token` is what `create` draws if it is called; `now` and
`stamped` are the two readings of the clock under the store's lock. -/
def decideSessionInner (user pass : String) (store : SessionStore) (request : SessionRequest)
    (token : String) (now stamped : Instant) : SessionAction × SessionStore :=
  if request.isLogout then
    let store :=
      match currentSessionToken request.headers with
      | some presented => store.invalidate presented
      | none => store
    (.redirect "/" (some sessionClearCookie), store)
  else if request.isLoginPost then
    let next := (request.form.next.map safeNext).getD "/"
    if request.credentialsOk user pass then
      (.redirect next (some (sessionSetCookie token)), store.create token now stamped)
    else (.serveLoginPage next (some "Invalid username or password."), store)
  else if request.isLogin then (loginPageFor request, store)
  else
    let denied : SessionAction :=
      .redirect (loginPath ++ "?next=" ++ percentEncodePath request.path) none
    match currentSessionToken request.headers with
    | none => (denied, store)
    | some presented =>
      let (valid, store) := store.validateAndRefresh presented now stamped
      (if valid then .forward else denied, store)

def apiKeyRejectResponse : List UInt8 :=
  utf8 ("HTTP/1.1 403 Forbidden\r\nContent-Type: text/plain\r\nContent-Length: 9\r\n" ++
    "Connection: close\r\n\r\nForbidden")

def looksLikeTls (firstByte : UInt8) : Bool := firstByte == 0x16

section Cookies

/-- Every `__krot_session` cookie of a request, in order. -/
def sessionCookies (headers : List Header) : List String :=
  headers.flatMap fun header =>
    if eqIgnoreAsciiCase header.1 "cookie" then
      ((fromUtf8 header.2).map fun value => sessionValues value.toList).getD []
    else []

theorem currentSessionToken_eq (headers : List Header) :
    currentSessionToken headers = (sessionCookies headers).head? := by
  unfold currentSessionToken sessionCookies
  rw [List.head?_flatMap]
  congr 1
  funext header
  split
  · cases fromUtf8 header.2 with
    | none => rfl
    | some value => exact extractSessionCookie_eq value.toList
  · rfl

/-- The form check, in terms of the first fields of the body. -/
theorem SessionRequest.credentialsOk_iff (request : SessionRequest) (user pass : String) :
    request.credentialsOk user pass = true ↔
      (formFields "user" ((fromUtf8 request.body).getD "").toList).head? = some user ∧
      (formFields "pass" ((fromUtf8 request.body).getD "").toList).head?.getD "" = pass := by
  unfold credentialsOk form
  rw [parseLoginForm_user, parseLoginForm_pass, Bool.and_eq_true, beq_iff_eq, constantTimeEq_iff,
    utf8_inj]

end Cookies

section Decisions
variable (user pass : String) (store : SessionStore) (request : SessionRequest) (token : String)
  (now stamped : Instant)

/-- What a decision can be, with everything it does to the store. -/
inductive Decided : SessionAction → SessionStore → Prop
  | loggedOut (logout : request.isLogout = true) (presented : String)
      (cookie : (sessionCookies request.headers).head? = some presented) :
      Decided (.redirect "/" (some sessionClearCookie)) (store.invalidate presented)
  | loggedIn (login : request.isLoginPost = true) (granted : request.credentialsOk user pass = true)
      (location : String) :
      Decided (.redirect location (some (sessionSetCookie token))) (store.create token now stamped)
  | admitted (gated : request.isLogout = false ∧ request.isLogin = false) (presented : String)
      (cookie : (sessionCookies request.headers).head? = some presented)
      (valid : (store.validateAndRefresh presented now stamped).1 = true) :
      Decided .forward (store.validateAndRefresh presented now stamped).2
  | denied (gated : request.isLogout = false ∧ request.isLogin = false) (presented : String)
      (cookie : (sessionCookies request.headers).head? = some presented)
      (invalid : (store.validateAndRefresh presented now stamped).1 = false)
      (location : String) :
      Decided (.redirect location none) (store.validateAndRefresh presented now stamped).2
  | answered (action : SessionAction)
      (grantless : request.isLoginPost = true → request.credentialsOk user pass = false)
      (anonymous : (sessionCookies request.headers).head? = none ∨
        (request.isLogin = true ∧ request.isLogout = false))
      (kept : action ≠ .forward)
      (cookieless : ∀ location value, action = .redirect location (some value) →
        value = sessionClearCookie) :
      Decided action store

theorem decideSessionInner_decided : Decided user pass store request token now stamped
      (decideSessionInner user pass store request token now stamped).1
      (decideSessionInner user pass store request token now stamped).2 := by
  unfold decideSessionInner
  rw [currentSessionToken_eq]
  split
  · rename_i logout
    cases cookie : (sessionCookies request.headers).head? with
    | some presented => exact .loggedOut logout presented cookie
    | none =>
      refine .answered _ ?_ (.inl cookie) nofun ?_
      · intro post
        have other : request.isLogin = false := by
          have : request.pathOnly = logoutPath.toList := by simpa [SessionRequest.isLogout] using logout
          simp [SessionRequest.isLogin, this]
          decide
        simp [SessionRequest.isLoginPost, other] at post
      · rintro location value ⟨⟩
        rfl
  · rename_i stays
    have stays : request.isLogout = false := by simpa using stays
    split
    · rename_i post
      have login : request.isLogin = true := by
        rw [SessionRequest.isLoginPost, Bool.and_eq_true] at post
        exact post.1
      split
      · rename_i granted
        exact .loggedIn post granted _
      · rename_i refused
        exact .answered _ (fun _ => by simpa using refused) (.inr ⟨login, stays⟩) nofun nofun
    · rename_i other
      split
      · rename_i login
        exact .answered _ (fun post => absurd post other) (.inr ⟨login, stays⟩) nofun nofun
      · rename_i gated
        have gated : request.isLogin = false := by simpa using gated
        cases cookie : (sessionCookies request.headers).head? with
        | none => exact .answered _ (fun post => absurd post other) (.inl cookie) nofun nofun
        | some presented =>
          dsimp only
          cases valid : (store.validateAndRefresh presented now stamped).1 with
          | true => exact .admitted ⟨stays, gated⟩ presented cookie valid
          | false => exact .denied ⟨stays, gated⟩ presented cookie valid _

end Decisions

end KrotRelay.Source
