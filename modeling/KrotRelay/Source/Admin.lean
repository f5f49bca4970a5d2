import KrotRelay.Lib.Bytes
import KrotRelay.Source.LocalAuth
import KrotRelay.Source.ServerEffects

/-!
# Admin tokens and the admin API (krot-server/src/admin.rs, admin_api.rs)

The token store and the map of session hashes are what their mutexes guard; an operation is
one function for what happens under the lock, with the reading of the clock as an argument.
A clock that is read before the lock is taken may be older than the state it is written to.
base32, BLAKE3 and the JSON of the session request are third-party. The hash file is written
and removed next to the state and never read back; it is left out, and so are the replies'
JSON and what the handlers do to the key registry, which is the subject of `KeyStore`.
-/
namespace KrotRelay.Source
open Lib

def adminTokenTtl : Duration := 10 * 60 * 1000000000

structure AdminCrates where
  /-- Crockford base32, unpadded -/
  base32 : Vector UInt8 32 → String
  blake3 : List UInt8 → Vector UInt8 32
  /-- the `admin_token` of a session request's body -/
  sessionBody : List UInt8 → Option String

structure TokenState where
  hash : Vector UInt8 32
  expiresAt : Instant
  deriving DecidableEq

structure AdminTokenStore where
  state : Option TokenState
  deriving DecidableEq

namespace AdminTokenStore
variable (crates : AdminCrates)

def new : AdminTokenStore := ⟨none⟩

/-- The assignment of `issue`. -/
def issue (_ : AdminTokenStore) (token : String) (stamped : Instant) : AdminTokenStore :=
  ⟨some { hash := crates.blake3 (utf8 token), expiresAt := stamped + adminTokenTtl }⟩

def consume (store : AdminTokenStore) (presented : String) (now : Instant) :
    Except String Unit × AdminTokenStore :=
  match store.state with
  | none => (.error "no admin token issued", store)
  | some state =>
    if state.expiresAt ≤ now then (.error "admin token expired", ⟨none⟩)
    else if !constantTimeEq (crates.blake3 (utf8 presented)).toList state.hash.toList then
      (.error "admin token mismatch", store)
    else (.ok (), ⟨none⟩)

/-- What a call of `consume` finds and leaves behind. -/
inductive Consumed (store : AdminTokenStore) (presented : String) (now : Instant) :
    Except String Unit × AdminTokenStore → Prop where
  | none (empty : store.state = .none) :
      Consumed store presented now (.error "no admin token issued", store)
  | expired (state) (found : store.state = some state) (late : state.expiresAt ≤ now) :
      Consumed store presented now (.error "admin token expired", ⟨.none⟩)
  | mismatch (state) (found : store.state = some state) (early : now < state.expiresAt)
      (differs : crates.blake3 (utf8 presented) ≠ state.hash) :
      Consumed store presented now (.error "admin token mismatch", store)
  | accepted (state) (found : store.state = some state) (early : now < state.expiresAt)
      (same : crates.blake3 (utf8 presented) = state.hash) :
      Consumed store presented now (.ok (), ⟨.none⟩)

theorem consume_consumed (store : AdminTokenStore) (presented : String) (now : Instant) :
    Consumed crates store presented now (store.consume crates presented now) := by
  unfold consume
  cases found : store.state with
  | none => exact .none found
  | some state =>
    dsimp only
    split
    · rename_i late
      exact .expired state found late
    · rename_i late
      have early : now < state.expiresAt := Nat.lt_of_not_le late
      split
      · rename_i differs
        refine .mismatch state found early fun same => ?_
        have equal := (constantTimeEq_iff state.hash.toList state.hash.toList).mpr rfl
        rw [same, equal] at differs
        cases differs
      · rename_i same
        refine .accepted state found early ?_
        rw [← Vector.toList_inj]
        simpa using same

end AdminTokenStore

/-- The part of `AdminApiState` that holds the sessions. -/
structure AdminSessions where
  sessions : HashMap (Vector UInt8 32) Instant
  sessionTtl : Duration

namespace AdminSessions
variable (crates : AdminCrates)

/-- `mint_session`, from the token it drew and its reading of the clock. -/
def mintSession (api : AdminSessions) (token : String) (stamped : Instant) : AdminSessions :=
  { api with
    sessions := api.sessions.insert (crates.blake3 (utf8 token)) (stamped + api.sessionTtl) }

def checkSession (api : AdminSessions) (presented : String) (now : Instant) :
    Bool × AdminSessions :=
  let candidate := crates.blake3 (utf8 presented)
  let sessions := HashMap.retain api.sessions fun _ expiry => now < expiry
  (sessions.keys.foldl (fun hit known => hit || constantTimeEq candidate.toList known.toList) false,
    { api with sessions := sessions })

theorem hit_iff (candidate : Vector UInt8 32) (keys : List (Vector UInt8 32)) (hit : Bool) :
    keys.foldl (fun hit known => hit || constantTimeEq candidate.toList known.toList) hit = true ↔
      hit = true ∨ candidate ∈ keys := by
  induction keys generalizing hit with
  | nil => simp
  | cons _ _ ih =>
    rw [List.foldl_cons, ih, Bool.or_eq_true, constantTimeEq_iff, Vector.toList_inj,
      List.mem_cons, or_assoc]

/-- The scan over all hashes amounts to a look-up. -/
theorem checkSession_iff (api : AdminSessions) (presented : String) (now : Instant) :
    (api.checkSession crates presented now).1 = true ↔
      ∃ expiry, api.sessions.lookup (crates.blake3 (utf8 presented)) = some expiry ∧
        now < expiry := by
  have kept := HashMap.lookup_retain api.sessions (fun _ expiry => decide (now < expiry))
    (crates.blake3 (utf8 presented))
  rw [checkSession, hit_iff, ← AList.mem_keys, ← AList.lookup_isSome, kept,
    Option.isSome_iff_exists]
  simp [Option.filter_eq_some_iff]

@[simp] theorem checkSession_ttl (api : AdminSessions) (presented : String) (now : Instant) :
    (api.checkSession crates presented now).2.sessionTtl = api.sessionTtl := rfl

/-- A check keeps what has not expired and adds nothing. -/
theorem checkSession_lookup (api : AdminSessions) (presented : String) (now expiry : Instant)
    (hash : Vector UInt8 32)
    (found : (api.checkSession crates presented now).2.sessions.lookup hash = some expiry) :
    api.sessions.lookup hash = some expiry := by
  have kept := HashMap.lookup_retain api.sessions (fun _ expiry => decide (now < expiry)) hash
  rw [checkSession] at found
  exact (Option.filter_eq_some_iff.mp (kept ▸ found)).1

end AdminSessions

structure AdminRequest where
  method : String
  path : String
  headers : List (String × String)
  body : List UInt8
  deriving DecidableEq

def AdminRequest.authBearer (request : AdminRequest) : Option String :=
  request.headers.findSome? fun (name, value) =>
    if eqIgnoreAsciiCase name "authorization" then
      ((stripPrefixOf "Bearer ".toList value.toList).or
        (stripPrefixOf "bearer ".toList value.toList)).map fun rest => String.ofList (trim rest)
    else none

/-- The route handlers behind the bearer token. -/
inductive AdminHandler where
  | listTunnels
  | listKeys
  | appendKey
  | metrics
  | deleteKey (pubkey : String)
  deriving DecidableEq

def adminHandler (method path : String) : Option AdminHandler :=
  if method = "GET" ∧ path = "/admin/v1/tunnels" then some .listTunnels
  else if method = "GET" ∧ path = "/admin/v1/keys" then some .listKeys
  else if method = "POST" ∧ path = "/admin/v1/keys" then some .appendKey
  else if method = "GET" ∧ path = "/admin/v1/metrics" then some .metrics
  else if method = "DELETE" then
    (stripPrefixOf "/admin/v1/keys/".toList path.toList).map fun key =>
      .deleteKey (String.ofList key)
  else none

/-- What `route` does with a request, up to its reply. -/
inductive AdminOutcome where
  /-- `handle_session` goes on to `mint_session` -/
  | mint (redeemed : String)
  | run (token : String) (handler : AdminHandler)
  | error (status : Nat) (message : String)
  deriving DecidableEq

/-- `handle_session` up to `mint_session`. -/
def handleSession (crates : AdminCrates) (request : AdminRequest) (tokens : AdminTokenStore)
    (now : Instant) : AdminOutcome × AdminTokenStore :=
  match crates.sessionBody request.body with
  | none => (.error 400 "expected \x7b\"admin_token\": \"...\"\x7d", tokens)
  | some adminToken =>
    match tokens.consume crates adminToken now with
    | (.error _, tokens) => (.error 401 "admin token rejected", tokens)
    | (.ok (), tokens) => (.mint adminToken, tokens)

def AdminRequest.isSession (request : AdminRequest) : Bool :=
  request.method == "POST" && request.path == "/admin/v1/session"

def route (crates : AdminCrates) (request : AdminRequest) (tokens : AdminTokenStore)
    (api : AdminSessions) (now : Instant) : AdminOutcome × AdminTokenStore × AdminSessions :=
  if request.isSession then
    let (outcome, tokens) := handleSession crates request tokens now
    (outcome, tokens, api)
  else
    match request.authBearer with
    | none => (.error 401 "missing Authorization: Bearer", tokens, api)
    | some token =>
      match api.checkSession crates token now with
      | (false, api) => (.error 401 "invalid or expired session token", tokens, api)
      | (true, api) =>
        match adminHandler request.method request.path with
        | some handler => (.run token handler, tokens, api)
        | none => (.error 404 "no such route", tokens, api)

/-- The string a request has hashed: the admin token it presents, or its bearer token. -/
def AdminRequest.presented (crates : AdminCrates) (request : AdminRequest) : Option String :=
  if request.isSession then crates.sessionBody request.body else request.authBearer

/-- Everything `route` can do. -/
inductive Routed (crates : AdminCrates) (request : AdminRequest) (tokens : AdminTokenStore)
    (api : AdminSessions) (now : Instant) : AdminOutcome × AdminTokenStore × AdminSessions → Prop
  where
  | refused (status message) :
      Routed crates request tokens api now (.error status message, tokens, api)
  | redeemed (adminToken after) (asked : request.presented crates = some adminToken)
      (consumed : tokens.consume crates adminToken now = (.ok (), after)) :
      Routed crates request tokens api now (.mint adminToken, after, api)
  | unredeemed (adminToken detail after) (asked : request.presented crates = some adminToken)
      (consumed : tokens.consume crates adminToken now = (.error detail, after)) :
      Routed crates request tokens api now (.error 401 "admin token rejected", after, api)
  | unknown (token status message hit after) (checked : api.checkSession crates token now = (hit, after)) :
      Routed crates request tokens api now (.error status message, tokens, after)
  | handled (token handler after) (asked : request.presented crates = some token)
      (checked : api.checkSession crates token now = (true, after)) :
      Routed crates request tokens api now (.run token handler, tokens, after)

theorem route_routed (crates : AdminCrates) (request : AdminRequest) (tokens : AdminTokenStore)
    (api : AdminSessions) (now : Instant) :
    Routed crates request tokens api now (route crates request tokens api now) := by
  unfold route
  split
  · rename_i session
    unfold handleSession
    cases body : crates.sessionBody request.body with
    | none => exact .refused _ _
    | some adminToken =>
      have asked : request.presented crates = some adminToken := by
        rw [AdminRequest.presented, if_pos session, body]
      rcases consumed : tokens.consume crates adminToken now with ⟨detail | ⟨⟩, after⟩
      · simp only [consumed]
        exact .unredeemed adminToken detail after asked consumed
      · simp only [consumed]
        exact .redeemed adminToken after asked consumed
  · rename_i other
    cases bearer : request.authBearer with
    | none => exact .refused _ _
    | some token =>
      have asked : request.presented crates = some token := by
        rw [AdminRequest.presented, if_neg other, bearer]
      rcases checked : api.checkSession crates token now with ⟨_ | _, after⟩
      · simp only [checked]
        exact .unknown token _ _ _ after checked
      · simp only [checked]
        cases adminHandler request.method request.path with
        | none => exact .unknown token _ _ _ after checked
        | some handler => exact .handled token handler after asked checked

/-- The call a handshake is about to make. -/
def Task.handshakeCall? : Task → Option Call
  | .handshaking (.call request _) => some request
  | _ => none

/-- One call of `mint_session`: owed to the admin token that was redeemed, then stored. -/
inductive MintSlot where
  | owed (redeemed : String) (since : Instant)
  | stored (redeemed token : String) (stamped : Instant)
  deriving DecidableEq

def MintSlot.redeemed : MintSlot → String
  | .owed redeemed _ | .stored redeemed _ _ => redeemed

/-- The relay with its token store and its admin API. The last five fields only observe. -/
structure AdministeredServer where
  server : Server
  crates : AdminCrates
  tokens : AdminTokenStore
  api : AdminSessions
  minting : List MintSlot
  /-- the admin tokens that `issue` returned, with its reading of the clock -/
  issued : List (String × Instant)
  /-- the admin tokens that `consume` accepted -/
  accepted : List String
  /-- the connections whose enrollment had its token accepted, and those whose key was stored -/
  redeemers : List Connection
  enrolled : List Connection
  /-- the bearer token, the handler it was let through to, and when -/
  handled : List (String × AdminHandler × Instant)

namespace AdministeredServer

inductive Event where
  | relay (event : Source.Event)
  /-- `issue` gets the lock; it has read the clock before -/
  | issue (raw : Vector UInt8 32) (stamped : Instant)
  | request (request : AdminRequest)
  /-- a `handle_session` whose token was accepted mints its session -/
  | mint (slot : Nat) (raw : Vector UInt8 32) (stamped : Instant)

def init (server : Server) (crates : AdminCrates) (sessionTtl : Duration) : AdministeredServer where
  server := server
  crates := crates
  tokens := .new
  api := { sessions := ∅, sessionTtl := sessionTtl }
  minting := []
  issued := []
  accepted := []
  redeemers := []
  enrolled := []
  handled := []

def handshakeCall? (admin : AdministeredServer) (connection : Connection) : Option Call :=
  (admin.server.tasks connection).handshakeCall?

/-- The event as the relay sees it: the store answers a handshake's `consume`. -/
def answered (admin : AdministeredServer) : Source.Event → Source.Event
  | .call connection choice =>
    match admin.handshakeCall? connection with
    | some (.consume presented) =>
      .call connection { choice with
        consumed := (admin.tokens.consume admin.crates presented admin.server.now).1 }
    | _ => .call connection choice
  | event => event

/-- What an event of the relay does to the store, and what is observed of it. -/
def around (admin : AdministeredServer) : Source.Event → AdministeredServer
  | .call connection choice =>
    match admin.handshakeCall? connection with
    | some (.consume presented) =>
      match admin.tokens.consume admin.crates presented admin.server.now with
      | (.error _, tokens) => { admin with tokens := tokens }
      | (.ok (), tokens) =>
        { admin with
          tokens := tokens
          accepted := admin.accepted ++ [presented]
          redeemers := admin.redeemers ++ [connection] }
    | some (.appendLine _) =>
      match choice.appended with
      | .error _ => admin
      | .ok _ => { admin with enrolled := admin.enrolled ++ [connection] }
    | _ => admin
  | _ => admin

/-- What follows from the outcome of a request. -/
def settle (admin : AdministeredServer) : AdminOutcome → AdministeredServer
  | .mint redeemed =>
    { admin with
      accepted := admin.accepted ++ [redeemed]
      minting := admin.minting ++ [.owed redeemed admin.server.now] }
  | .run token handler =>
    { admin with handled := admin.handled ++ [(token, handler, admin.server.now)] }
  | .error _ _ => admin

def step (admin : AdministeredServer) : Event → Option AdministeredServer
  | .relay event =>
    (admin.server.step (admin.answered event)).map fun next =>
      { admin.around event with server := next }
  | .issue raw stamped =>
    if stamped ≤ admin.server.now then
      some { admin with
        tokens := admin.tokens.issue admin.crates (admin.crates.base32 raw) stamped
        issued := admin.issued ++ [(admin.crates.base32 raw, stamped)] }
    else none
  | .request request =>
    let (outcome, tokens, api) :=
      route admin.crates request admin.tokens admin.api admin.server.now
    some ({ admin with tokens := tokens, api := api }.settle outcome)
  | .mint slot raw stamped =>
    match admin.minting[slot]? with
    | some (.owed redeemed since) =>
      if since ≤ stamped ∧ stamped ≤ admin.server.now then
        some { admin with
          api := admin.api.mintSession admin.crates (admin.crates.base32 raw) stamped
          minting := admin.minting.set slot (.stored redeemed (admin.crates.base32 raw) stamped) }
      else none
    | _ => none

end AdministeredServer
end KrotRelay.Source
