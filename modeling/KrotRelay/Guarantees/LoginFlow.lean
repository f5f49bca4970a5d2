import KrotRelay.Source.Proxy

/-!
# Redirects, forms and responses of the login

`form_decode` undoes both encodings a login goes through: that of the redirect and that of
the browser's form. So a visitor comes back to where they were going, and what they sent
reaches no header unencoded. Whether the place they come back to is the tunnel's own origin
depends on how a browser reads it.
-/
namespace KrotRelay.Guarantees
open Source Lib
open SessionRequest (pathOnly isLogin isLoginPost isLogout)

/-! ## Where a browser goes -/

/-- A location as the URL rules of browsers read it: tab, CR and LF are dropped, and a
backslash is a slash. -/
def browserReads (location : List Char) : List Char :=
  (location.filter fun c => c ≠ '\t' ∧ c ≠ '\r' ∧ c ≠ '\n').map fun c =>
    if c = '\\' then '/' else c

/-- A path on the origin the response came from. -/
def OwnOrigin (location : String) : Prop :=
  ∃ rest, browserReads location.toList = '/' :: rest ∧ rest.head? ≠ some '/'

/-- Not a path, a scheme-relative URL, or a text with a line break. -/
def Unfit (candidate : List Char) : Prop :=
  candidate.head? ≠ some '/' ∨ ['/', '/'] <+: candidate ∨ '\r' ∈ candidate ∨ '\n' ∈ candidate

/-- Behind the first character, tabs apart, there is no slash of either kind. -/
def SingleSlash (candidate : List Char) : Prop :=
  ∀ c, (candidate.tail.dropWhile (· = '\t')).head? = some c → c ≠ '/' ∧ c ≠ '\\'

theorem safeNext_or (candidate : String) : safeNext candidate = "/" ∧ Unfit candidate.toList ∨
      safeNext candidate = candidate ∧ ¬ Unfit candidate.toList := by
  have fit : (candidate.toList.head? = some '/' && !(['/', '/'].isPrefixOf candidate.toList) &&
      !candidate.toList.contains '\r' && !candidate.toList.contains '\n') = true ↔
      ¬ Unfit candidate.toList := by
    rw [Unfit, ← List.isPrefixOf_iff_prefix]
    simp only [Bool.and_eq_true, decide_eq_true_eq, Bool.not_eq_true', List.contains_eq_mem,
      decide_eq_false_iff_not, not_or, not_not, Bool.not_eq_true, and_assoc]
  unfold safeNext
  dsimp only
  split
  · rename_i passed
    exact .inr ⟨rfl, fit.mp passed⟩
  · rename_i refused
    exact .inl ⟨rfl, by rwa [fit, not_not] at refused⟩

/-- Tabs at the front are all that a browser drops from a text without line breaks. -/
theorem browserReads_head (noCr : '\r' ∉ text) (noLf : '\n' ∉ text) :
    (browserReads text).head? = ((text.dropWhile (· = '\t')).head?).map fun c =>
      if c = '\\' then '/' else c := by
  induction text with
  | nil => rfl
  | cons c rest ih =>
    rw [List.mem_cons, not_or] at noCr noLf
    by_cases tab : c = '\t'
    · subst tab
      simpa [browserReads] using ih noCr.2 noLf.2
    · simp [browserReads, tab, Ne.symm noCr.1, Ne.symm noLf.1]

/-- The target of a redirect is on the tunnel's own origin exactly when the candidate is unfit,
or its leading slash, tabs apart, is not followed by a slash or a backslash. -/
theorem safe_next_own_origin_iff (candidate : String) : OwnOrigin (safeNext candidate) ↔
    Unfit candidate.toList ∨ SingleSlash candidate.toList := by
  rcases safeNext_or candidate with ⟨root, unfit⟩ | ⟨same, fit⟩
  · rw [root]
    exact iff_of_true ⟨[], rfl, nofun⟩ (.inl unfit)
  · have passed := fit
    rw [Unfit, not_or, not_not, not_or, not_or] at passed
    obtain ⟨slash, _, noCr, noLf⟩ := passed
    obtain ⟨rest, text⟩ := List.head?_eq_some_iff.mp slash
    rw [text, List.mem_cons, not_or] at noCr noLf
    have reads : browserReads ('/' :: rest) = '/' :: browserReads rest := rfl
    have head := browserReads_head noCr.2 noLf.2
    rw [or_iff_right fit]
    simp only [same, OwnOrigin, SingleSlash, text, reads, List.tail_cons]
    constructor
    · rintro ⟨_, tail, single⟩ c found
      cases tail
      rw [head, found] at single
      by_cases back : c = '\\' <;> simp_all
    · intro single
      refine ⟨_, rfl, ?_⟩
      rw [head]
      cases found : (rest.dropWhile (· = '\t')).head? with
      | none => nofun
      | some c => simp [single c found]

/-- An encoded backslash behind the slash names another host. -/
theorem backslash_leaves_origin : formDecode "/%5Cevil.example".toList = "/\\evil.example" ∧
      safeNext "/\\evil.example" = "/\\evil.example" ∧ ¬ OwnOrigin "/\\evil.example" := by
  have evaluated : formDecode "/%5Cevil.example".toList = "/\\evil.example" ∧
      safeNext "/\\evil.example" = "/\\evil.example" ∧
      browserReads "/\\evil.example".toList = '/' :: '/' :: "evil.example".toList := by
    decide +kernel
  refine ⟨evaluated.1, evaluated.2.1, ?_⟩
  rintro ⟨rest, reads, single⟩
  rw [evaluated.2.2] at reads
  cases reads
  exact single rfl

/-! ## Encodings `form_decode` undoes -/

/-- The bytes a form leaves alone. -/
def keptInForm (byte : UInt8) : Bool :=
  (65 ≤ byte && byte ≤ 90) || (97 ≤ byte && byte ≤ 122) || (48 ≤ byte && byte ≤ 57) ||
    (utf8 "*-._").contains byte

/-- The encoding of the fields of a form, as browsers send it. -/
def formUrlencode (value : String) : List Char :=
  (utf8 value).flatMap fun byte =>
    if byte = 0x20 then ['+']
    else if keptInForm byte then [Char.ofNat byte.toNat]
    else ['%', hexUpper (byte >>> 4), hexUpper (byte &&& 0x0F)]

/-- An encoding of bytes that uses ASCII characters, each byte decoded on its own. -/
def DecodesTo (text : List Char) (byte : UInt8) : Prop :=
  (∀ c ∈ text, c.toNat < 128) ∧ ∀ rest, formDecodeBytes
    ((text.map fun c => UInt8.ofNat c.toNat) ++ rest) = byte :: formDecodeBytes rest

theorem formDecode_flatMap (encode : UInt8 → List Char)
    (decodes : ∀ byte, DecodesTo (encode byte) byte) (value : String) :
    formDecode ((utf8 value).flatMap encode) = value := by
  have whole : ∀ bytes : List UInt8,
      formDecodeBytes (utf8 (String.ofList (bytes.flatMap encode))) = bytes := by
    intro bytes
    induction bytes with
    | nil => rfl
    | cons byte rest ih =>
      rw [List.flatMap_cons, String.ofList_append, utf8_append, utf8_ascii _ (decodes byte).1,
        (decodes byte).2, ih]
  have same := fromUtf8Lossy_utf8 value.toList
  rw [String.ofList_toList] at same
  rw [formDecode, whole, same, String.ofList_toList]

/-- What the encodings do with each of the 256 bytes: the digits of a percent-encoded byte are
read back, and what is left alone is no sign `form_decode` reads. No byte becomes a separator
or a line break, and the bytes of a token become hexadecimal digits. -/
theorem encoded_bytes : ∀ n < 256, let byte := UInt8.ofNat n
    let high := hexUpper (byte >>> 4)
    let low := hexUpper (byte &&& 0x0F)
    ((high.toNat < 128 ∧ low.toNat < 128) ∧ hexVal (UInt8.ofNat high.toNat) = some (byte >>> 4) ∧
      hexVal (UInt8.ofNat low.toNat) = some (byte &&& 0x0F) ∧
      (byte >>> 4) <<< 4 ||| byte &&& 0x0F = byte) ∧
    ((keptInPath byte || keptInForm byte) = true → n < 128 ∧ byte ≠ 0x2B ∧ byte ≠ 0x25) ∧
    (['&', '\r', '\n'].all fun c =>
      c ∉ if keptInPath byte then [Char.ofNat byte.toNat] else ['%', high, low]) = true ∧
    '&' ∉ (if byte = 0x20 then ['+'] else if keptInForm byte then [Char.ofNat byte.toNat]
      else ['%', high, low]) ∧
    ([hexChar (byte >>> 4), hexChar (byte &&& 0x0F)].all fun c =>
      c ∈ "0123456789abcdef".toList) = true := by
  rw [String.toList_ofList]
  decide +kernel

theorem decodesTo_percent (byte : UInt8) :
    DecodesTo ['%', hexUpper (byte >>> 4), hexUpper (byte &&& 0x0F)] byte := by
  have digits := (encoded_bytes byte.toNat byte.toNat_lt).1
  rw [UInt8.ofNat_toNat] at digits
  obtain ⟨⟨small, small'⟩, high, low, back⟩ := digits
  refine ⟨by simp [small, small'], fun rest => ?_⟩
  simp only [List.map_cons, List.map_nil, List.cons_append, List.nil_append]
  rw [formDecodeBytes.eq_def]
  dsimp only
  rw [if_neg (by decide), if_pos (by decide), high, low]
  dsimp only
  rw [back]

theorem decodesTo_self {byte : UInt8} (ascii : byte.toNat < 128) (plus : byte ≠ 0x2B)
    (percent : byte ≠ 0x25) : DecodesTo [Char.ofNat byte.toNat] byte := by
  have value := (by decide : ∀ n < 128, (Char.ofNat n).toNat = n) byte.toNat ascii
  refine ⟨by simpa [value], fun rest => ?_⟩
  simp only [List.map_cons, List.map_nil, List.cons_append, List.nil_append, value,
    UInt8.ofNat_toNat]
  rw [formDecodeBytes.eq_def]
  dsimp only
  rw [if_neg plus, if_neg percent]

theorem decoded_alone (kept : (keptInPath byte || keptInForm byte) = true) :
    byte.toNat < 128 ∧ byte ≠ 0x2B ∧ byte ≠ 0x25 := by
  have plain := (encoded_bytes byte.toNat byte.toNat_lt).2.1
  rw [UInt8.ofNat_toNat] at plain
  exact plain kept

/-- `form_decode` inverts `percent_encode_path`. -/
theorem formDecode_percentEncodePath (path : String) :
    formDecode (percentEncodePath path).toList = path := by
  rw [percentEncodePath, String.toList_ofList]
  refine formDecode_flatMap _ (fun byte => ?_) path
  split
  · rename_i kept
    obtain ⟨ascii, plus, percent⟩ := decoded_alone (by rw [kept, Bool.true_or])
    exact decodesTo_self ascii plus percent
  · exact decodesTo_percent byte

theorem formDecode_formUrlencode (value : String) : formDecode (formUrlencode value) = value := by
  refine formDecode_flatMap _ (fun byte => ?_) value
  split
  · rename_i space
    subst space
    refine ⟨List.forall_mem_singleton.mpr (by decide), fun rest => ?_⟩
    simp only [List.map_cons, List.map_nil, List.cons_append, List.nil_append]
    rw [formDecodeBytes.eq_def]
    rfl
  · split
    · rename_i kept
      obtain ⟨ascii, plus, percent⟩ := decoded_alone (by rw [kept, Bool.or_true])
      exact decodesTo_self ascii plus percent
    · exact decodesTo_percent byte

/-- Neither encoding produces a separator or a line break. -/
theorem not_mem_percentEncodePath (path : String) :
    ∀ c ∈ ['&', '\r', '\n'], c ∉ (percentEncodePath path).toList := by
  intro c broken mem
  rw [percentEncodePath, String.toList_ofList, List.mem_flatMap] at mem
  obtain ⟨byte, _, mem⟩ := mem
  have apart := (encoded_bytes byte.toNat byte.toNat_lt).2.2.1
  rw [UInt8.ofNat_toNat] at apart
  exact of_decide_eq_true (List.all_eq_true.mp apart c broken) mem

theorem not_mem_formUrlencode (value : String) : '&' ∉ formUrlencode value := by
  intro mem
  obtain ⟨byte, _, mem⟩ := List.mem_flatMap.mp mem
  have apart := (encoded_bytes byte.toNat byte.toNat_lt).2.2.2.1
  rw [UInt8.ofNat_toNat] at apart
  exact apart mem

/-! ## The way back -/

/-- The body of a form, its fields in the order they are given. -/
def formBody (fields : List (String × String)) : List UInt8 :=
  utf8 (String.ofList (['&'].intercalate (fields.map fun field =>
    field.1.toList ++ '=' :: formUrlencode field.2)))

/-- `parse_login_form` finds in a body what the browser put there. -/
theorem formFields_formBody (some_ : fields ≠ [])
    (plain : ∀ field ∈ fields, '&' ∉ field.1.toList ∧ '=' ∉ field.1.toList) (key : String) :
    formFields key ((fromUtf8 (formBody fields)).getD "").toList =
      fields.filterMap fun field => if field.1 = key then some field.2 else none := by
  have text := (fromUTF8?_eq_some_iff (formBody fields) _).mpr rfl
  rw [fromUtf8, text, Option.getD_some, String.toList_ofList, formFields, List.splitOn_intercalate]
  · rw [List.filterMap_map]
    refine List.filterMap_congr fun field mem => ?_
    simp only [Function.comp, fieldOf, splitOnce_append (plain field mem).2, Option.bind_some,
      formDecode_formUrlencode, String.toList_inj]
  · intro pair listed
    obtain ⟨field, mem, rfl⟩ := List.mem_map.mp listed
    simp [(plain field mem).1, not_mem_formUrlencode]
  · simpa using some_

theorem safeNext_idem (candidate : String) : safeNext (safeNext candidate) = safeNext candidate := by
  rcases safeNext_or candidate with ⟨root, _⟩ | ⟨same, _⟩
  · rw [root, safeNext]
    split <;> rfl
  · rw [same, same]

/-- A token is made of hexadecimal digits. -/
theorem mem_newToken {raw : Vector UInt8 32} {c : Char} (mem : c ∈ (newToken raw).toList) :
    c ∈ "0123456789abcdef".toList := by
  rw [newToken, String.toList_ofList, List.mem_flatMap] at mem
  obtain ⟨byte, _, mem⟩ := mem
  have digits := (encoded_bytes byte.toNat byte.toNat_lt).2.2.2.2
  rw [UInt8.ofNat_toNat] at digits
  exact of_decide_eq_true (List.all_eq_true.mp digits c mem)

/-- The cookie a login sets is read back as its token. -/
theorem extractSessionCookie_token (raw : Vector UInt8 32) (attributes : List Char)
    (separate : attributes = [] ∨ attributes.head? = some ';') :
    extractSessionCookie (sessionCookie.toList ++ '=' :: (newToken raw).toList ++ attributes) =
      some (newToken raw) := by
  have value : sessionValue (sessionCookie.toList ++ '=' :: (newToken raw).toList) =
      some (newToken raw).toList := by
    have solid : ∀ c ∈ sessionCookie.toList ++ '=' :: (newToken raw).toList,
        isWhitespace c = false := by
      intro c mem
      rcases List.mem_append.mp mem with name | rest
      · simpa using List.all_eq_true.mp
          (by decide : (sessionCookie.toList.all fun c => !isWhitespace c) = true) c name
      · rcases List.mem_cons.mp rest with rfl | digit
        · decide
        · simpa using List.all_eq_true.mp
            (by decide : ("0123456789abcdef".toList.all fun c => !isWhitespace c) = true) c
              (mem_newToken digit)
    rw [sessionValue, trim_solid solid]
    simp [stripPrefixOf]
  have single : ';' ∉ sessionCookie.toList ++ '=' :: (newToken raw).toList := by
    intro mem
    rcases List.mem_append.mp mem with name | rest
    · exact absurd name (by decide)
    · rcases List.mem_cons.mp rest with same | digit
      · cases same
      · exact absurd (mem_newToken digit) (by decide)
  rcases separate with rfl | ends
  · rw [extractSessionCookie, List.append_nil, List.splitOn_eq_singleton single,
      List.findSome?_cons, value]
    exact congrArg some String.ofList_toList
  · obtain ⟨rest, rfl⟩ := List.head?_eq_some_iff.mp ends
    rw [extractSessionCookie, List.splitOn_append_cons_self, List.splitOn_eq_singleton single,
      List.singleton_append, List.findSome?_cons, value]
    exact congrArg some String.ofList_toList

/-- The redirect to the login page, followed. -/
theorem login_page_shown (user pass : String) (store : SessionStore)
    (drawn : String) (now stamped : Instant)
    (path : request.path = loginPath ++ "?next=" ++ percentEncodePath target)
    (get : eqIgnoreAsciiCase request.method "POST" = false) :
    (decideSessionInner user pass store request drawn now stamped).1 =
      .serveLoginPage (safeNext target) none := by
  have parts : splitOnce '?' request.path.toList =
      some (loginPath.toList, "next=".toList ++ (percentEncodePath target).toList) := by
    rw [path, String.toList_append, String.toList_append, List.append_assoc]
    exact splitOnce_append (by decide) _
  have login : request.pathOnly = loginPath.toList := by simp only [pathOnly, parts]
  have whole : '&' ∉ "next=".toList ++ (percentEncodePath target).toList := by
    rw [List.mem_append, not_or]
    exact ⟨by decide, not_mem_percentEncodePath target '&' (by decide)⟩
  unfold decideSessionInner
  rw [if_neg, if_neg, if_pos]
  · simp only [loginPageFor, SessionRequest.query, parts, Option.map_some, Option.bind_some]
    rw [List.splitOn_eq_singleton whole]
    simp [stripPrefixOf, formDecode_percentEncodePath]
  · simp [isLogin, login]
  · simp [isLoginPost, get]
  · rw [isLogout, login]
    decide

/-- The right credentials, posted with the page's target. -/
theorem login_granted {user pass : String} (store : SessionStore) (token : String)
    (now stamped : Instant)
    (post : request.isLoginPost = true)
    (permuted : fields.Perm [("user", user), ("pass", pass), ("next", target)])
    (body : request.body = formBody fields) :
    decideSessionInner user pass store request token now stamped =
      (.redirect (safeNext target) (some (sessionSetCookie token)),
        store.create token now stamped) := by
  have found : ∀ key, formFields key ((fromUtf8 request.body).getD "").toList =
      fields.filterMap fun field => if field.1 = key then some field.2 else none := by
    intro key
    rw [body]
    refine formFields_formBody ?_ ?_ key
    · rintro rfl
      simpa using permuted.length_eq
    · intro field member
      have member := permuted.mem_iff.mp member
      simp only [List.mem_cons, List.not_mem_nil, or_false] at member
      rcases member with rfl | rfl | rfl <;> simp
  have only : ∀ key value, [("user", user), ("pass", pass), ("next", target)].filterMap
      (fun field => if field.1 = key then some field.2 else none) = [value] →
      formFields key ((fromUtf8 request.body).getD "").toList = [value] := by
    intro key value single
    rw [found]
    exact List.perm_singleton.mp (single ▸ permuted.filterMap _)
  have login : request.isLogin = true := by
    rw [isLoginPost, Bool.and_eq_true] at post
    exact post.1
  have stays : request.isLogout = false := by
    rw [isLogin, beq_iff_eq] at login
    rw [isLogout, login]
    decide
  have granted : request.credentialsOk user pass = true := by
    rw [SessionRequest.credentialsOk_iff, only "user" user (by simp), only "pass" pass (by simp)]
    exact ⟨rfl, rfl⟩
  have next : request.form.next = some target := by
    rw [SessionRequest.form, parseLoginForm_next, only "next" target (by simp)]
    rfl
  unfold decideSessionInner
  rw [if_neg (by simp [stays]), if_pos post]
  dsimp only
  rw [if_pos granted, next]
  rfl

/-- A visitor without a session is sent to the login page, finds there where they were
going, and with the right credentials is sent back there with a session. -/
theorem login_returns (user pass : String) (store : SessionStore) (asked : SessionRequest)
    (drawn : String) (now stamped : Instant)
    (gated : asked.isLogout = false ∧ asked.isLogin = false)
    (unauthenticated : ∀ presented, currentSessionToken asked.headers = some presented →
      (store.validateAndRefresh presented now stamped).1 = false) :
    (∀ text, formDecode (percentEncodePath text).toList = text) ∧
    ∃ location,
      (decideSessionInner user pass store asked drawn now stamped).1 = .redirect location none ∧
      (∀ store followed drawn now stamped, followed.path = location →
        eqIgnoreAsciiCase followed.method "POST" = false →
        (decideSessionInner user pass store followed drawn now stamped).1 =
          .serveLoginPage (safeNext asked.path) none) ∧
      ∀ store posted raw now stamped fields, posted.isLoginPost = true →
        fields.Perm [("user", user), ("pass", pass), ("next", safeNext asked.path)] →
        posted.body = formBody fields →
        decideSessionInner user pass store posted (newToken raw) now stamped =
          (.redirect (safeNext asked.path) (some (sessionSetCookie (newToken raw))),
            store.create (newToken raw) now stamped) ∧
        (store.create (newToken raw) now stamped).inner.lookup (newToken raw) =
          some (stamped + sessionTtl) ∧
        extractSessionCookie (sessionSetCookie (newToken raw)).toList = some (newToken raw) ∧
        extractSessionCookie (sessionCookie ++ "=" ++ newToken raw).toList =
          some (newToken raw) := by
  refine ⟨formDecode_percentEncodePath, loginPath ++ "?next=" ++ percentEncodePath asked.path, ?_,
    ?_, ?_⟩
  · unfold decideSessionInner
    have notPost : asked.isLoginPost = false := by simp [isLoginPost, gated.2]
    rw [if_neg (by simp [gated.1]), if_neg (by simp [notPost]), if_neg (by simp [gated.2])]
    cases presented : currentSessionToken asked.headers with
    | none => rfl
    | some token => simp [unauthenticated token presented]
  · intro store followed drawn now stamped path get
    exact login_page_shown user pass store drawn now stamped path get
  · intro store posted raw now stamped fields post permuted body
    have granted := login_granted store (newToken raw) now stamped post permuted body
    rw [safeNext_idem] at granted
    refine ⟨granted, ?_, ?_, ?_⟩
    · rw [SessionStore.create_lookup, if_pos rfl]
    · have cookie := extractSessionCookie_token raw ("; HttpOnly; SameSite=Lax; Path=/; Max-Age=" ++
        toString (sessionTtl / 1000000000)).toList (.inr rfl)
      simpa [sessionSetCookie] using cookie
    · simpa using extractSessionCookie_token raw [] (.inl rfl)

def deepLink : SessionRequest := ⟨"GET", "/report?q=a+b&x=%", [], []⟩

theorem login_returns_deep_link :
    formDecode (percentEncodePath deepLink.path).toList = deepLink.path ∧
    (decideSessionInner "ada" "pw" .new deepLink "" 0 0).1 =
      .redirect "/__krot/login?next=/report%3Fq=a%2Bb%26x=%25" none ∧
    (decideSessionInner "ada" "pw" .new
      ⟨"GET", "/__krot/login?next=/report%3Fq=a%2Bb%26x=%25", [], []⟩ "" 0 0).1 =
        .serveLoginPage deepLink.path none ∧
    ∀ raw, (decideSessionInner "ada" "pw" .new ⟨"POST", "/__krot/login", [],
      formBody [("user", "ada"), ("pass", "pw"), ("next", deepLink.path)]⟩ (newToken raw) 0 0).1 =
        .redirect deepLink.path (some (sessionSetCookie (newToken raw))) := by
  obtain ⟨inverse, location, redirected, shown, granted⟩ := login_returns "ada" "pw" .new deepLink
    "" 0 0 (by decide) (by intro presented; decide +revert)
  have here : (decideSessionInner "ada" "pw" .new deepLink "" 0 0).1 =
      .redirect "/__krot/login?next=/report%3Fq=a%2Bb%26x=%25" none := by decide +kernel
  obtain ⟨rfl, -⟩ := SessionAction.redirect.inj (redirected.symm.trans here)
  have stays : safeNext deepLink.path = deepLink.path := by decide +kernel
  rw [stays] at shown granted
  exact ⟨inverse _, here, shown .new _ "" 0 0 rfl (by decide), fun raw =>
    congrArg Prod.fst (granted .new _ raw 0 0 _ (by decide) (.refl _) rfl).1⟩

/-! ## The responses -/

/-- One message, from its parts. -/
structure HttpMessage where
  status : String
  headers : List (String × String)
  body : List UInt8

def HttpMessage.bytes (message : HttpMessage) : List UInt8 :=
  utf8 (message.status ++ "\r\n" ++
    String.join (message.headers.map fun header => header.1 ++ ": " ++ header.2 ++ "\r\n") ++
    "\r\n") ++ message.body

def NoBreak (text : String) : Prop := '\r' ∉ text.toList ∧ '\n' ∉ text.toList

/-- No line is broken, and the body is as long as the message says, once. -/
structure HttpMessage.WellFormed (message : HttpMessage) : Prop where
  version : "HTTP/1.1 ".toList <+: message.status.toList
  status : NoBreak message.status
  headers : ∀ header ∈ message.headers, NoBreak header.1 ∧ NoBreak header.2
  length : message.headers.filter (·.1 == "Content-Length") =
    [("Content-Length", toString message.body.length)]

/-- These bytes are one message and nothing else. -/
def OneMessage (bytes : List UInt8) : Prop :=
  ∃ message : HttpMessage, message.WellFormed ∧ bytes = message.bytes

theorem noBreak_append {first second : String} (left : NoBreak first) (right : NoBreak second) :
    NoBreak (first ++ second) := by
  simp [NoBreak, left.1, left.2, right.1, right.2]

theorem noBreak_toString (n : Nat) : NoBreak (toString n) := by
  have digits : ∀ c ∈ (toString n).toList, c.isDigit = true := by
    intro c mem
    rw [show toString n = n.repr from rfl, Nat.toList_repr] at mem
    exact Nat.isDigit_of_mem_toDigits (by decide) (by decide) mem
  exact ⟨fun mem => absurd (digits _ mem) (by decide), fun mem => absurd (digits _ mem) (by decide)⟩

theorem noBreak_safeNext (candidate : String) : NoBreak (safeNext candidate) := by
  rcases safeNext_or candidate with ⟨root, _⟩ | ⟨same, fit⟩
  · rw [root]
    exact ⟨by decide, by decide⟩
  · rw [same]
    exact ⟨fun cr => fit (.inr (.inr (.inl cr))), fun lf => fit (.inr (.inr (.inr lf)))⟩

theorem noBreak_setCookie (raw : Vector UInt8 32) : NoBreak (sessionSetCookie (newToken raw)) := by
  have token : NoBreak (newToken raw) :=
    ⟨fun mem => absurd (mem_newToken mem) (by decide),
      fun mem => absurd (mem_newToken mem) (by decide)⟩
  refine noBreak_append (noBreak_append (noBreak_append ?_ token) ?_) (noBreak_toString _)
  all_goals exact ⟨by decide, by decide⟩

theorem oneMessage_redirect {location : String} {cookie : Option String}
    (plain : NoBreak location) (plainCookie : ∀ value, cookie = some value → NoBreak value) :
    OneMessage (httpRedirect location cookie) := by
  refine ⟨⟨"HTTP/1.1 302 Found", ("Location", location) ::
    (cookie.toList.map fun value => ("Set-Cookie", value)) ++
      [("Content-Length", "0"), ("Cache-Control", "no-store"), ("Connection", "close")], []⟩,
    ⟨by simp, by simp [NoBreak], ?_, ?_⟩, ?_⟩
  · cases cookie with
    | none => simp [NoBreak, plain.1, plain.2]
    | some value =>
      have := plainCookie value rfl
      simp [NoBreak, plain.1, plain.2, this.1, this.2]
  · cases cookie <;> simp <;> rfl
  · rw [HttpMessage.bytes, List.append_nil]
    unfold httpRedirect
    refine congrArg utf8 (String.toList_inj.mp ?_)
    cases cookie <;> simp [String.join]

theorem oneMessage_html (page : String) : OneMessage (httpHtmlResponse page) := by
  have size : (utf8 page).length = page.utf8ByteSize := by simp [utf8]
  have digits := noBreak_toString page.utf8ByteSize
  refine ⟨⟨"HTTP/1.1 200 OK", [("Content-Type", "text/html; charset=utf-8"),
    ("Content-Length", toString page.utf8ByteSize), ("Cache-Control", "no-store"),
    ("Connection", "close")], utf8 page⟩, ⟨by simp, by simp [NoBreak], ?_, ?_⟩, ?_⟩
  · simp only [List.forall_mem_cons]
    simp [NoBreak] at digits ⊢
    exact digits
  · simp [size]
  · rw [HttpMessage.bytes, httpHtmlResponse, ← utf8_append]
    refine congrArg utf8 (String.toList_inj.mp ?_)
    simp [String.join]

theorem oneMessage_badRequest : OneMessage badRequestResponse := by
  refine ⟨⟨"HTTP/1.1 400 Bad Request", [("Content-Type", "text/plain"), ("Content-Length", "11"),
    ("Connection", "close")], utf8 "Bad Request"⟩, ⟨by simp, by simp [NoBreak], ?_, ?_⟩, ?_⟩
  · simp [NoBreak]
  · simp [utf8]
    rfl
  · rw [HttpMessage.bytes, badRequestResponse, ← utf8_append]
    refine congrArg utf8 (String.toList_inj.mp ?_)
    simp only [String.join, List.map_cons, List.map_nil, List.foldl_cons, List.foldl_nil,
      String.toList_append]
    repeat rw [String.toList_ofList]
    rfl

theorem oneMessage_forbidden : OneMessage apiKeyRejectResponse := by
  refine ⟨⟨"HTTP/1.1 403 Forbidden", [("Content-Type", "text/plain"), ("Content-Length", "9"),
    ("Connection", "close")], utf8 "Forbidden"⟩, ⟨by simp, by simp [NoBreak], ?_, ?_⟩, ?_⟩
  · simp [NoBreak]
  · simp [utf8]
    rfl
  · rw [HttpMessage.bytes, apiKeyRejectResponse, ← utf8_append]
    refine congrArg utf8 (String.toList_inj.mp ?_)
    simp only [String.join, List.map_cons, List.map_nil, List.foldl_cons, List.foldl_nil,
      String.toList_append]
    repeat rw [String.toList_ofList]
    rfl

/-- What a decision sends into headers. -/
def PlainAction : SessionAction → Prop
  | .redirect location cookie => NoBreak location ∧ ∀ value, cookie = some value → NoBreak value
  | _ => True

theorem decideSessionInner_plain (user pass : String) (store : SessionStore)
    (request : SessionRequest) (raw : Vector UInt8 32) (now stamped : Instant) :
    PlainAction (decideSessionInner user pass store request (newToken raw) now stamped).1 := by
  have root : NoBreak "/" := ⟨by decide, by decide⟩
  have denied : PlainAction
      (.redirect (loginPath ++ "?next=" ++ percentEncodePath request.path) none) := by
    have encoded := not_mem_percentEncodePath request.path
    refine ⟨noBreak_append ⟨by decide, by decide⟩ ⟨?_, ?_⟩, nofun⟩
    · exact encoded '\r' (by decide)
    · exact encoded '\n' (by decide)
  unfold decideSessionInner
  split
  · refine ⟨root, ?_⟩
    rintro value ⟨⟩
    exact ⟨by decide, by decide⟩
  split
  · dsimp only
    split
    · refine ⟨?_, ?_⟩
      · cases request.form.next with
        | none => exact root
        | some asked => exact noBreak_safeNext asked
      · rintro value ⟨⟩
        exact noBreak_setCookie raw
    · trivial
  split
  · trivial
  · dsimp only
    split
    · exact denied
    · dsimp only
      split
      · trivial
      · exact denied

/-- No response is split: whatever the request, the policy and the store, what
`decide_auth_response` answers is one message whose lines end where they should and whose
body has the length it declares. -/
theorem no_response_splitting (crates : ProxyCrates) (config : ProxyConfig) (policy : AuthPolicy)
    (buf arriving : List UInt8) (headersEnd : Option Nat) (store : SessionStore)
    (raw : Vector UInt8 32) (now stamped : Instant) (response : List UInt8)
    (responds : ProxyPhase.decideAuthResponse crates config policy buf headersEnd arriving store
      (newToken raw) now stamped = .responding response) : OneMessage response := by
  have decided : ∀ user pass request buffered recorded,
      ProxyPhase.afterDecision crates buffered recorded
        (decideSessionInner user pass store request (newToken raw) now stamped).1 =
          .responding response → OneMessage response := by
    intro user pass request buffered recorded answered
    have plain := decideSessionInner_plain user pass store request raw now stamped
    revert answered plain
    cases (decideSessionInner user pass store request (newToken raw) now stamped).1 with
    | forward => nofun
    | serveLoginPage next error =>
      rintro ⟨⟩ -
      exact oneMessage_html _
    | redirect location cookie =>
      rintro ⟨⟩ plain
      exact oneMessage_redirect plain.1 plain.2
  unfold ProxyPhase.decideAuthResponse at responds
  split at responds
  · cases responds
    exact oneMessage_badRequest
  · split at responds
    · exact decided _ _ _ _ _ responds
    · exact decided _ _ _ _ _ responds
    · -- before the store only the two fixed responses are given
      unfold ProxyPhase.decideAuth at responds
      split at responds
      · cases responds
        exact oneMessage_badRequest
      · dsimp only at responds
        split at responds
        · split at responds <;> cases responds
          exact oneMessage_forbidden
        · split at responds
          · unfold ProxyPhase.afterLoginBody at responds
            split at responds <;> cases responds
          · cases responds

/-- Every request is for a target with a line break in it. -/
def brokenTarget : ProxyCrates where
  parseRequest _ := some ⟨some "GET", some "/a\r\nSet-Cookie: x=y", []⟩
  prelude := ⟨fun _ => none, fun _ => none⟩
  renderLoginPage next _ := next

def sessionTunnel : ProxyConfig := ⟨⟨1⟩, false, false, some (.session "ada" "pw")⟩

theorem no_response_splitting_broken_target :
    OneMessage (httpRedirect "/__krot/login?next=/a%0D%0ASet-Cookie:%20x=y" none) :=
  no_response_splitting brokenTarget sessionTunnel (.session "ada" "pw") [] [] (some 0) .new
    (Vector.replicate 32 0) 0 0 _ (by decide +kernel)

end KrotRelay.Guarantees
