import KrotRelay.Lib.Bytes
import KrotRelay.Lib.Text
import KrotRelay.Source.Registry

/-!
# Login page and session store (krot-client/src/login_page.rs)

`SessionStore` is the map its mutex guards, one function for each operation; `OsRng` and the
readings of the clock are arguments, one for each reading. The markup of the page that
`render_login_page` fills in is a parameter of what sends it.
-/
namespace KrotRelay.Source
open Lib

def sessionTtl : Duration := 8 * 3600 * 1000000000

def sessionCookie : String := "__krot_session"

def loginPath : String := "/__krot/login"

def logoutPath : String := "/__krot/logout"

def loginBodyCap : Nat := 4 * 1024

def hexChar (nibble : UInt8) : Char :=
  if nibble ≤ 9 then Char.ofNat (48 + nibble.toNat) else Char.ofNat (97 + nibble.toNat - 10)

/-- `new_token`, from the 32 random bytes it draws. -/
def newToken (raw : Vector UInt8 32) : String :=
  String.ofList (raw.toList.flatMap fun (byte : UInt8) => [hexChar (byte >>> 4), hexChar (byte &&& 0x0F)])

/-- The map from a token to its expiry. -/
structure SessionStore where
  inner : HashMap String Instant

namespace SessionStore

def new : SessionStore := ⟨∅⟩

def prune (map : HashMap String Instant) (now : Instant) : HashMap String Instant :=
  HashMap.retain map fun _ expiry => now < expiry

/-- The clock is read to prune and again for the expiry. -/
def create (store : SessionStore) (token : String) (now stamped : Instant) : SessionStore :=
  ⟨(prune store.inner now).insert token (stamped + sessionTtl)⟩

def validateAndRefresh (store : SessionStore) (token : String) (now stamped : Instant) :
    Bool × SessionStore :=
  match store.inner.lookup token with
  | some expiry =>
    if now < expiry then (true, ⟨store.inner.insert token (stamped + sessionTtl)⟩)
    else (false, ⟨store.inner.erase token⟩)
  | none => (false, store)

def invalidate (store : SessionStore) (token : String) : SessionStore :=
  ⟨store.inner.erase token⟩

@[simp] theorem create_lookup (store : SessionStore) (token other : String)
    (now stamped : Instant) : (store.create token now stamped).inner.lookup other =
      if other = token then some (stamped + sessionTtl)
      else (store.inner.lookup other).filter (now < ·) := by
  unfold create
  split
  · rename_i same
    rw [same, AList.lookup_insert]
  · rename_i differs
    rw [AList.lookup_insert_ne differs]
    exact HashMap.lookup_retain store.inner _ other

@[simp] theorem invalidate_lookup (store : SessionStore) (token other : String) :
    (store.invalidate token).inner.lookup other =
      if other = token then none else store.inner.lookup other := by
  unfold invalidate
  split
  · rename_i same
    rw [same, AList.lookup_erase]
  · rename_i differs
    exact AList.lookup_erase_ne differs

/-- A validation answers for the token it is asked about and touches no other. -/
theorem validateAndRefresh_other (store : SessionStore) (token other : String)
    (now stamped : Instant) (differs : other ≠ token) :
    (store.validateAndRefresh token now stamped).2.inner.lookup other =
      store.inner.lookup other := by
  unfold validateAndRefresh
  split
  · split
    · exact AList.lookup_insert_ne differs
    · exact AList.lookup_erase_ne differs
  · rfl

theorem validateAndRefresh_iff (store : SessionStore) (token : String) (now stamped : Instant) :
    (store.validateAndRefresh token now stamped).1 = true ↔
      ∃ expiry, store.inner.lookup token = some expiry ∧ now < expiry := by
  unfold validateAndRefresh
  split
  · rename_i expiry found
    rw [found]
    split <;> simp_all
  · rename_i absent
    simp [absent]

/-- Afterwards the token is either good for another TTL, or gone. -/
theorem validateAndRefresh_self (store : SessionStore) (token : String) (now stamped : Instant) :
    (store.validateAndRefresh token now stamped).2.inner.lookup token =
      if (store.validateAndRefresh token now stamped).1 then some (stamped + sessionTtl)
      else none := by
  unfold validateAndRefresh
  split
  · split
    · exact AList.lookup_insert _
    · exact AList.lookup_erase _ _
  · assumption

end SessionStore

def stripPrefixOf (start text : List Char) : Option (List Char) :=
  if start.isPrefixOf text then some (text.drop start.length) else none

/-- What one pair of a cookie header says about the session. -/
def sessionValue (pair : List Char) : Option (List Char) :=
  (stripPrefixOf sessionCookie.toList (trim pair)).bind (stripPrefixOf ['='])

def extractSessionCookie (cookieHeader : List Char) : Option String :=
  ((cookieHeader.splitOn ';').findSome? sessionValue).map String.ofList

def hexVal (byte : UInt8) : Option UInt8 :=
  if 48 ≤ byte ∧ byte ≤ 57 then some (byte - 48)
  else if 97 ≤ byte ∧ byte ≤ 102 then some (byte - 97 + 10)
  else if 65 ≤ byte ∧ byte ≤ 70 then some (byte - 65 + 10)
  else none

/-- The loop of `form_decode`. -/
def formDecodeBytes : List UInt8 → List UInt8
  | [] => []
  | byte :: rest =>
    if byte = 0x2B then 0x20 :: formDecodeBytes rest
    else if byte = 0x25 then
      match rest with
      | high :: low :: after =>
        match hexVal high, hexVal low with
        | some h, some l => ((h <<< 4) ||| l) :: formDecodeBytes after
        | _, _ => 0x25 :: formDecodeBytes (high :: low :: after)
      | short => 0x25 :: formDecodeBytes short
    else byte :: formDecodeBytes rest

def formDecode (raw : List Char) : String :=
  String.ofList (fromUtf8Lossy (formDecodeBytes (utf8 (String.ofList raw))))

structure LoginForm where
  user : Option String
  pass : Option String
  next : Option String
  deriving DecidableEq

/-- The loop body of `parse_login_form`: a field that is set stays as it is. -/
def LoginForm.add (form : LoginForm) (pair : List Char) : LoginForm :=
  match splitOnce '=' pair with
  | none => form
  | some (key, raw) =>
    let value := formDecode raw
    if key = "user".toList ∧ form.user.isNone then { form with user := some value }
    else if key = "pass".toList ∧ form.pass.isNone then { form with pass := some value }
    else if key = "next".toList ∧ form.next.isNone then { form with next := some value }
    else form

def parseLoginForm (body : List Char) : LoginForm :=
  (body.splitOn '&').foldl LoginForm.add ⟨none, none, none⟩

/-- Only a path of this site is taken as the target of a redirect. -/
def safeNext (candidate : String) : String :=
  let text := candidate.toList
  if text.head? = some '/' && !(['/', '/'].isPrefixOf text) && !text.contains '\r' &&
      !text.contains '\n' then candidate
  else "/"

def sessionSetCookie (token : String) : String :=
  sessionCookie ++ "=" ++ token ++ "; HttpOnly; SameSite=Lax; Path=/; Max-Age=" ++
    toString (sessionTtl / 1000000000)

def sessionClearCookie : String :=
  sessionCookie ++ "=; HttpOnly; SameSite=Lax; Path=/; Max-Age=0"

def httpHtmlResponse (body : String) : List UInt8 :=
  utf8 ("HTTP/1.1 200 OK\r\nContent-Type: text/html; charset=utf-8\r\nContent-Length: " ++
    toString body.utf8ByteSize ++
    "\r\nCache-Control: no-store\r\nConnection: close\r\n\r\n" ++ body)

def httpRedirect (location : String) (setCookie : Option String) : List UInt8 :=
  let cookieLine :=
    match setCookie with
    | some value => "Set-Cookie: " ++ value ++ "\r\n"
    | none => ""
  utf8 ("HTTP/1.1 302 Found\r\nLocation: " ++ location ++ "\r\n" ++ cookieLine ++
    "Content-Length: 0\r\nCache-Control: no-store\r\nConnection: close\r\n\r\n")

section Fields

/-- The value a pair of the body gives for a field. -/
def fieldOf (key : String) (pair : List Char) : Option String :=
  (splitOnce '=' pair).bind fun parts =>
    if parts.1 = key.toList then some (formDecode parts.2) else none

/-- Every value a body gives for a field, in order. -/
def formFields (key : String) (body : List Char) : List String :=
  (body.splitOn '&').filterMap (fieldOf key)

theorem LoginForm.add_fields (form : LoginForm) (pair : List Char) :
    (form.add pair).user = form.user.or (fieldOf "user" pair) ∧
    (form.add pair).pass = form.pass.or (fieldOf "pass" pair) ∧
    (form.add pair).next = form.next.or (fieldOf "next" pair) := by
  unfold add fieldOf
  cases splitOnce '=' pair with
  | none => simp
  | some pieces =>
    obtain ⟨user, pass, next⟩ := form
    dsimp only [Option.bind_some]
    split_ifs <;> cases user <;> cases pass <;> cases next <;> simp_all

/-- What the first pair that has the field says is what the loop ends with. -/
private theorem foldl_first {α : Type} (read : LoginForm → Option α) (given : List Char → Option α)
    (added : ∀ form pair, read (form.add pair) = (read form).or (given pair))
    (pairs : List (List Char)) (form : LoginForm) :
    read (pairs.foldl LoginForm.add form) = (read form).or (pairs.filterMap given).head? := by
  induction pairs generalizing form with
  | nil => simp
  | cons pair _ ih =>
    rw [List.foldl_cons, ih, added, Option.or_assoc, List.filterMap_cons]
    cases given pair <;> rfl

/-- `parse_login_form` takes the first value of a field. -/
theorem parseLoginForm_user (body : List Char) :
    (parseLoginForm body).user = (formFields "user" body).head? :=
  foldl_first LoginForm.user (fieldOf "user") (fun form pair => (form.add_fields pair).1) _ _

theorem parseLoginForm_pass (body : List Char) :
    (parseLoginForm body).pass = (formFields "pass" body).head? :=
  foldl_first LoginForm.pass (fieldOf "pass") (fun form pair => (form.add_fields pair).2.1) _ _

theorem parseLoginForm_next (body : List Char) :
    (parseLoginForm body).next = (formFields "next" body).head? :=
  foldl_first LoginForm.next (fieldOf "next") (fun form pair => (form.add_fields pair).2.2) _ _

/-- Every session value of a cookie header, in order. -/
def sessionValues (cookieHeader : List Char) : List String :=
  (cookieHeader.splitOn ';').filterMap fun pair => (sessionValue pair).map String.ofList

theorem extractSessionCookie_eq (cookieHeader : List Char) :
    extractSessionCookie cookieHeader = (sessionValues cookieHeader).head? := by
  unfold extractSessionCookie sessionValues
  rw [List.head?_filterMap, List.map_findSome?]
  rfl

end Fields

end KrotRelay.Source
