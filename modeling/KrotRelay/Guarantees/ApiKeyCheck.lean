import KrotRelay.Source.LocalAuth

/-!
# The API-key check on every list of headers

`check_api_key` against a specification that knows nothing of its loop: which headers name a
key at all, which of them carry the configured one, and which cannot be read. The loop agrees
with it on every list, unless it comes to an `Authorization` value with a character across
its seventh byte: there `split_at` panics.
-/
namespace KrotRelay.Guarantees
open Source Lib List Option

section Specification

/-- The two headers a key can come in. -/
def isApiKeyHeader (header : Header) : Bool := eqIgnoreAsciiCase header.1 "x-api-key"

def isAuthorization (header : Header) : Bool := eqIgnoreAsciiCase header.1 "authorization"

def BearsKey (header : Header) : Prop :=
  isApiKeyHeader header = true ∨ isAuthorization header = true

/-- The header carries this key: `X-Api-Key: key` or `Authorization: bearer key`. -/
def Grants (key : String) (header : Header) : Prop :=
  ∃ value, fromUtf8 header.2 = some value ∧
    ((isApiKeyHeader header = true ∧ trim value.toList = key.toList) ∨
      (isAuthorization header = true ∧ ∃ scheme space rest,
        trim value.toList = scheme ++ space :: rest ∧ asciiLower scheme = "bearer".toList ∧
          isWhitespace space = true ∧ trim (space :: rest) = key.toList))

/-- A header of either name whose value is not text. -/
def Unreadable (header : Header) : Prop := BearsKey header ∧ fromUtf8 header.2 = none

/-- Some header carries the key, and none before it is unreadable. -/
def Granted (key : String) (headers : List Header) : Prop :=
  ∃ before header after, headers = before ++ header :: after ∧ Grants key header ∧
    ∀ earlier ∈ before, ¬ Unreadable earlier

/-- The check returns, and what it returns is right. -/
def CheckedExactly (key : String) (headers : List Header) : Prop :=
  ∃ outcome, checkApiKey key headers = some outcome ∧ (outcome = .ok ↔ Granted key headers) ∧
    (outcome = .missing ↔ ∀ header ∈ headers, ¬ BearsKey header) ∧
    (outcome = .badCreds ↔ ¬ Granted key headers ∧ ∃ header ∈ headers, BearsKey header)

/-- Byte six of the trimmed value of an `Authorization` header is inside a character. -/
def SplitsCharacter (header : Header) : Prop :=
  isAuthorization header = true ∧ ∃ value, fromUtf8 header.2 = some value ∧
    6 < (String.ofList (trim value.toList)).utf8ByteSize ∧
    ¬ ∃ front back, trim value.toList = front ++ back ∧ (String.ofList front).utf8ByteSize = 6

/-- No such header comes before every header that ends the check. -/
def NoSplitReached (key : String) (headers : List Header) : Prop :=
  ∀ before header after, headers = before ++ header :: after →
    (∀ earlier ∈ before, ¬ Unreadable earlier ∧ ¬ Grants key earlier) → ¬ SplitsCharacter header

end Specification

section Splitting

/-- `split_at` succeeds exactly at the end of a character. -/
theorem splitAtByte_iff (n : Nat) (text front back : List Char) :
    splitAtByte n text = some (front, back) ↔
      text = front ++ back ∧ (String.ofList front).utf8ByteSize = n := by
  induction text generalizing n front with
  | nil =>
    rw [splitAtByte]
    constructor
    · split
      · rintro ⟨⟩
        rename_i zero
        exact ⟨rfl, by simp [zero]⟩
      · rintro ⟨⟩
    · rintro ⟨empty, size⟩
      obtain ⟨rfl, rfl⟩ := append_eq_nil_iff.mp empty.symm
      rw [← size]
      rfl
  | cons c text ih =>
    have positive := c.utf8Size_pos
    rw [splitAtByte]
    cases front with
    | nil =>
      constructor
      · split
        · rintro ⟨⟩
          rename_i zero
          exact ⟨rfl, by simp [zero]⟩
        · split
          · simp
          · rintro ⟨⟩
      · rintro ⟨same, size⟩
        rw [if_pos (by simpa using size.symm), nil_append] at *
        rw [same]
    | cons d front =>
      have size : (String.ofList (d :: front)).utf8ByteSize =
          d.utf8Size + (String.ofList front).utf8ByteSize := by
        simp
      constructor
      · split
        · rintro ⟨⟩
        · split
          · rename_i fits
            simp only [map_eq_some_iff, Prod.mk.injEq, Prod.exists]
            rintro ⟨first, second, found, same, rfl⟩
            cases same
            obtain ⟨rfl, inner⟩ := (ih _ _).mp found
            exact ⟨rfl, by omega⟩
          · rintro ⟨⟩
      · rintro ⟨same, total⟩
        obtain ⟨rfl, rfl⟩ := List.cons.inj same
        rw [if_neg (by omega), if_pos (by omega), (ih (n - c.utf8Size) front).mpr ⟨rfl, by omega⟩]
        rfl

theorem splitAtByte_none (n : Nat) (text : List Char) : splitAtByte n text = none ↔
      ¬ ∃ front back, text = front ++ back ∧ (String.ofList front).utf8ByteSize = n := by
  rw [eq_none_iff_forall_ne_some]
  constructor
  · rintro all ⟨front, back, found⟩
    exact all _ ((splitAtByte_iff n text front back).mpr found)
  · rintro none_ ⟨front, back⟩ found
    exact none_ ⟨front, back, (splitAtByte_iff n text front back).mp found⟩

/-- A letter that lowers to an ASCII letter is one byte. -/
theorem utf8Size_of_toLower {c lower : Char} (same : c.toLower = lower)
    (ascii : lower.val ≤ 127) : c.utf8Size = 1 := by
  have small : c.val ≤ 127 := by
    unfold Char.toLower at same
    split at same
    · rename_i upper
      exact UInt32.le_trans upper.2 (by decide)
    · rw [same]
      exact ascii
  unfold Char.utf8Size
  exact if_pos small

theorem utf8ByteSize_of_lower (same : asciiLower text = lower)
    (ascii : ∀ c ∈ lower, c.val ≤ 127) : (String.ofList text).utf8ByteSize = lower.length := by
  subst same
  induction text with
  | nil => rfl
  | cons c text ih =>
    have one := utf8Size_of_toLower rfl (ascii c.toLower (by simp [asciiLower]))
    have rest := ih fun d mem => ascii d (by simp_all [asciiLower])
    simp only [asciiLower, map_cons, length_cons] at rest ⊢
    rw [← rest]
    simp [one, Nat.add_comm]

end Splitting

section OneHeader
variable (key : String) (header : Header)

theorem matchesKey_iff (text : List Char) : matchesKey text key = true ↔ trim text = key.toList := by
  unfold matchesKey
  rw [constantTimeEq_iff, utf8_inj]
  constructor
  · rintro rfl
    exact String.toList_ofList.symm
  · intro same
    rw [same, String.ofList_toList]

/-- The scheme of six letters, found or not, or a character across its end. -/
theorem bearerMatches_none (value : String) : bearerMatches key value = none ↔
      6 < (String.ofList (trim value.toList)).utf8ByteSize ∧
      ¬ ∃ front back, trim value.toList = front ++ back ∧
        (String.ofList front).utf8ByteSize = 6 := by
  have six : (String.ofList "bearer".toList).utf8ByteSize = 6 := by decide +kernel
  unfold bearerMatches stripSchemeCi
  rw [six, ← splitAtByte_none]
  generalize asciiLower "bearer".toList = scheme
  split
  · rename_i short
    simp [Nat.not_lt.mpr short]
  · rename_i long
    simp [Nat.lt_of_not_le long]

theorem bearerMatches_true (value : String) :
    bearerMatches key value = some true ↔ ∃ scheme space rest,
      trim value.toList = scheme ++ space :: rest ∧ asciiLower scheme = "bearer".toList ∧
        isWhitespace space = true ∧ trim (space :: rest) = key.toList := by
  have six : (String.ofList "bearer".toList).utf8ByteSize = 6 := by decide +kernel
  have lowered : asciiLower "bearer".toList = "bearer".toList := by decide +kernel
  have long : "bearer".toList.length = 6 := by decide +kernel
  have ascii : ("bearer".toList.all fun c => decide (c.val ≤ 127)) = true := by decide +kernel
  unfold bearerMatches stripSchemeCi
  rw [six, lowered]
  generalize "bearer".toList = name at *
  constructor
  · split
    · simp
    · intro found
      simp only [map_eq_some_iff, any_eq_true_iff_get, Prod.exists] at found
      obtain ⟨rest, ⟨head, tail, split_, branch⟩, accepted⟩ := found
      obtain ⟨whole, -⟩ := (splitAtByte_iff _ _ _ _).mp split_
      split at branch
      · cases branch
        simp at accepted
      · rename_i scheme
        split at branch
        · cases branch
          simp at accepted
        · rename_i spaced
          cases branch
          cases tail with
          | nil => simp at spaced
          | cons space rest =>
            refine ⟨head, space, rest, whole, by simpa using scheme, by simpa using spaced, ?_⟩
            exact (matchesKey_iff key _).mp (by simpa using accepted)
  · rintro ⟨scheme, space, rest, whole, bearer, spaced, same⟩
    have size : (String.ofList scheme).utf8ByteSize = 6 :=
      (utf8ByteSize_of_lower bearer fun c mem =>
        of_decide_eq_true (List.all_eq_true.mp ascii c mem)).trans long
    have long : ¬ (String.ofList (trim value.toList)).utf8ByteSize ≤ 6 := by
      have := space.utf8Size_pos
      rw [whole]
      simp only [String.ofList_append, String.ofList_cons, String.utf8ByteSize_append,
        String.utf8ByteSize_singleton, size]
      omega
    rw [if_neg long, (splitAtByte_iff 6 _ scheme (space :: rest)).mpr ⟨whole, size⟩]
    simp [bearer, spaced, (matchesKey_iff key (space :: rest)).mpr same]

theorem not_both (named : isApiKeyHeader header = true) : isAuthorization header = false := by
  unfold isApiKeyHeader isAuthorization eqIgnoreAsciiCase at *
  rw [beq_iff_eq] at named
  rw [named]
  decide

theorem splitsCharacter_not_grants (splits : SplitsCharacter header) : ¬ Grants key header := by
  obtain ⟨authorization, value, text, long, inside⟩ := splits
  rintro ⟨other, same, ⟨apiKey, -⟩ | ⟨-, matched⟩⟩
  · simp [not_both header apiKey] at authorization
  · rw [text] at same
    cases same
    have found := (bearerMatches_true key value).mpr matched
    rw [(bearerMatches_none key value).mpr ⟨long, inside⟩] at found
    cases found

/-- What the loop does with one header. -/
inductive Judged (saw : Bool) (rest : List Header) : Option Outcome → Prop
  | skipped (other : ¬ BearsKey header) : Judged saw rest (checkApiKeyFrom key saw rest)
  | unreadable (garbled : Unreadable header) : Judged saw rest (some .badCreds)
  | granted (grants : Grants key header) : Judged saw rest (some .ok)
  | panicked (splits : SplitsCharacter header) : Judged saw rest none
  | refused (bears : BearsKey header) (readable : ¬ Unreadable header)
      (refuses : ¬ Grants key header) (whole : ¬ SplitsCharacter header) :
      Judged saw rest (checkApiKeyFrom key true rest)

theorem checkApiKeyFrom_judged (saw : Bool) (rest : List Header) :
    Judged key header saw rest (checkApiKeyFrom key saw (header :: rest)) := by
  obtain ⟨name, raw⟩ := header
  rw [checkApiKeyFrom]
  split
  · rename_i named
    have named : isApiKeyHeader (name, raw) = true := named
    have other := not_both _ named
    cases text : fromUtf8 raw with
    | none => exact .unreadable ⟨.inl named, text⟩
    | some value =>
      dsimp only
      split
      · rename_i same
        exact .granted ⟨value, text, .inl ⟨named, (matchesKey_iff key _).mp same⟩⟩
      · rename_i differs
        refine .refused (.inl named) (fun garbled => ?_) ?_ ?_
        · rw [Unreadable, text] at garbled
          simp at garbled
        · rintro ⟨read, same, ⟨-, equal⟩ | ⟨authorization, -⟩⟩
          · rw [text] at same
            cases same
            exact differs ((matchesKey_iff key _).mpr equal)
          · simp [other] at authorization
        · rintro ⟨authorization, -⟩
          simp [other] at authorization
  · rename_i unnamed
    split
    · rename_i named
      have named : isAuthorization (name, raw) = true := named
      cases text : fromUtf8 raw with
      | none => exact .unreadable ⟨.inr named, text⟩
      | some value =>
        dsimp only
        split
        · rename_i panics
          exact .panicked ⟨named, value, text, (bearerMatches_none key value).mp panics⟩
        · rename_i same
          exact .granted ⟨value, text, .inr ⟨named, (bearerMatches_true key value).mp same⟩⟩
        · rename_i differs
          refine .refused (.inr named) (fun garbled => ?_) ?_ ?_
          · rw [Unreadable, text] at garbled
            simp at garbled
          · rintro ⟨read, same, ⟨apiKey, -⟩ | ⟨-, matched⟩⟩
            · exact unnamed apiKey
            · rw [text] at same
              cases same
              rw [(bearerMatches_true key value).mpr matched] at differs
              cases differs
          · rintro ⟨-, read, same, splits⟩
            rw [text] at same
            cases same
            rw [(bearerMatches_none key value).mpr splits] at differs
            cases differs
    · rename_i unnamed2
      exact .skipped fun bears => bears.elim unnamed unnamed2

end OneHeader

section Loop
variable (key : String)

theorem granted_cons (header : Header) (rest : List Header) : Granted key (header :: rest) ↔
      Grants key header ∨ (¬ Unreadable header ∧ Granted key rest) := by
  constructor
  · rintro ⟨before, found, after, split_, grants, readable⟩
    cases before with
    | nil =>
      cases split_
      exact .inl grants
    | cons _ before =>
      cases split_
      refine .inr ⟨readable header mem_cons_self, before, found, after, rfl, grants, ?_⟩
      exact fun earlier mem => readable earlier (mem_cons_of_mem _ mem)
  · rintro (grants | ⟨readable, before, found, after, rfl, grants, others⟩)
    · exact ⟨[], header, rest, rfl, grants, nofun⟩
    · exact ⟨header :: before, found, after, rfl, grants, forall_mem_cons.mpr ⟨readable, others⟩⟩

theorem noSplitReached_cons (header : Header) (rest : List Header) :
    NoSplitReached key (header :: rest) ↔ ¬ SplitsCharacter header ∧
      (¬ Unreadable header → ¬ Grants key header → NoSplitReached key rest) := by
  constructor
  · intro all
    refine ⟨all [] header rest rfl nofun, fun readable refuses before found after split_ open_ => ?_⟩
    refine all (header :: before) found after (by rw [split_]; rfl) ?_
    exact forall_mem_cons.mpr ⟨⟨readable, refuses⟩, open_⟩
  · rintro ⟨whole, later⟩ before found after split_ open_
    cases before with
    | nil =>
      cases split_
      exact whole
    | cons _ before =>
      cases split_
      obtain ⟨⟨readable, refuses⟩, others⟩ := forall_mem_cons.mp open_
      exact later readable refuses before found after rfl others

/-- The loop, from any point on. -/
theorem checkApiKeyFrom_exact (headers : List Header) (saw : Bool) :
    (¬ NoSplitReached key headers → checkApiKeyFrom key saw headers = none) ∧
    (NoSplitReached key headers → ∃ outcome, checkApiKeyFrom key saw headers = some outcome ∧
      (outcome = .ok ↔ Granted key headers) ∧
      (outcome = .missing ↔ saw = false ∧ ∀ header ∈ headers, ¬ BearsKey header)) := by
  induction headers generalizing saw with
  | nil =>
    refine ⟨fun splits => absurd ?_ splits, fun _ => ⟨_, rfl, ?_, ?_⟩⟩
    · intro before found after split_
      simp at split_
    · cases saw <;> simp [Granted]
    · cases saw <;> simp
  | cons header rest ih =>
    rw [noSplitReached_cons, granted_cons, forall_mem_cons]
    generalize result : checkApiKeyFrom key saw (header :: rest) = found
    have judged := checkApiKeyFrom_judged key header saw rest
    rw [result] at judged
    cases judged with
    | skipped other =>
      have readable : ¬ Unreadable header := fun garbled => other garbled.1
      have refuses : ¬ Grants key header := by
        rintro ⟨value, -, ⟨named, -⟩ | ⟨named, -⟩⟩
        · exact other (.inl named)
        · exact other (.inr named)
      have whole : ¬ SplitsCharacter header := fun splits => other (.inr splits.1)
      simp only [whole, readable, refuses, other, not_false_eq_true, true_and, false_or,
        true_implies]
      exact ih saw
    | unreadable garbled =>
      have refuses : ¬ Grants key header := by
        rintro ⟨value, text, -⟩
        rw [garbled.2] at text
        cases text
      have whole : ¬ SplitsCharacter header := by
        rintro ⟨-, value, text, -⟩
        rw [garbled.2] at text
        cases text
      simp [garbled, refuses, whole, garbled.1]
    | granted grants =>
      have whole : ¬ SplitsCharacter header := fun splits =>
        splitsCharacter_not_grants key header splits grants
      have bears : BearsKey header := by
        obtain ⟨value, -, ⟨named, -⟩ | ⟨named, -⟩⟩ := grants
        · exact .inl named
        · exact .inr named
      simp [grants, whole, bears]
    | panicked splits => simp [splits]
    | refused bears readable refuses whole =>
      simp only [whole, readable, refuses, bears, not_false_eq_true, not_true_eq_false, true_and,
        false_or, false_and, and_false, true_implies]
      obtain ⟨panics, returns⟩ := ih true
      refine ⟨panics, fun safe => ?_⟩
      obtain ⟨outcome, same, ok, missing⟩ := returns safe
      exact ⟨outcome, same, ok, by simpa using missing⟩

end Loop

/-- The check returns the right outcome exactly when it meets no `Authorization` value with a
character across byte six before a header that ends it. -/
theorem api_key_check_exact (key : String) (headers : List Header) :
    CheckedExactly key headers ↔ NoSplitReached key headers := by
  obtain ⟨panics, returns⟩ := checkApiKeyFrom_exact key headers false
  constructor
  · rintro ⟨outcome, returned, -⟩
    by_contra splits
    rw [checkApiKey, panics splits] at returned
    cases returned
  · intro safe
    obtain ⟨outcome, returned, ok, missing⟩ := returns safe
    rw [eq_self_iff_true, true_and] at missing
    refine ⟨outcome, returned, ok, missing, ?_⟩
    have bears : (∃ header ∈ headers, BearsKey header) ↔ outcome ≠ .missing := by
      simp only [ne_eq, missing, not_forall, not_not, exists_prop]
    rw [bears, ← ok]
    cases outcome <;> simp

/-- `Authorization: Beareé sk`, one letter short of the scheme. -/
def accentedBearer : List Header := [("Authorization", utf8 "Beareé sk")]

theorem accented_bearer_panics : ¬ CheckedExactly "sk" accentedBearer := by
  rintro ⟨outcome, returned, -⟩
  have panics : checkApiKey "sk" accentedBearer = none := by decide +kernel
  rw [panics] at returned
  cases returned

end KrotRelay.Guarantees
