import Mathlib.Data.List.Basic
import Mathlib.Data.List.Induction

/-!
Byte strings: a comparison that looks at every byte, the first place of a pattern, and the
decoding of UTF-8 that replaces what is malformed. The replacement follows Unicode's maximal
subparts: one U+FFFD for each longest start of a well-formed sequence, or for one stray byte.
-/
namespace KrotRelay.Lib
open List

/-- Equality, with the differences gathered over the whole length. -/
def constantTimeEq (a b : List UInt8) : Bool :=
  if a.length != b.length then false
  else (a.zip b).foldl (fun acc (x, y) => acc ||| (x ^^^ y)) 0 == 0

theorem or_eq_zero_iff (a b : UInt8) : a ||| b = 0 ↔ a = 0 ∧ b = 0 := by
  rw [← UInt8.toBitVec_inj, ← UInt8.toBitVec_inj, ← UInt8.toBitVec_inj]
  exact BitVec.or_eq_zero_iff

theorem xor_eq_zero_iff (a b : UInt8) : a ^^^ b = 0 ↔ a = b := by
  rw [← UInt8.toBitVec_inj, ← UInt8.toBitVec_inj]
  exact BitVec.xor_eq_zero_iff

private theorem differences_eq_zero_iff (pairs : List (UInt8 × UInt8)) (acc : UInt8) :
    pairs.foldl (fun acc (x, y) => acc ||| (x ^^^ y)) acc = 0 ↔
      acc = 0 ∧ ∀ pair ∈ pairs, pair.1 = pair.2 := by
  induction pairs generalizing acc with
  | nil => simp
  | cons _ _ ih =>
    rw [foldl_cons, ih, or_eq_zero_iff, xor_eq_zero_iff, forall_mem_cons, and_assoc]

@[simp] theorem constantTimeEq_iff (a b : List UInt8) : constantTimeEq a b = true ↔ a = b := by
  unfold constantTimeEq
  constructor
  · intro equal
    split at equal
    · cases equal
    · rename_i same
      have same : a.length = b.length := by simpa using same
      have none := ((differences_eq_zero_iff _ _).mp (by simpa using equal)).2
      refine ext_getElem same fun i left right => ?_
      have mem : (a[i], b[i]) ∈ a.zip b := by
        rw [mem_iff_getElem]
        exact ⟨i, by rw [length_zip]; omega, by simp⟩
      exact none _ mem
  · rintro rfl
    have none : ∀ pair ∈ a.zip a, pair.1 = pair.2 := by
      intro pair mem
      obtain ⟨i, bound, rfl⟩ := mem_iff_getElem.mp mem
      simp
    have := (differences_eq_zero_iff (a.zip a) 0).mpr ⟨rfl, none⟩
    simp [this]

/-- Where the pattern first occurs (`windows(n).position(..)`). -/
def position (pattern : List UInt8) : List UInt8 → Option Nat
  | [] => if pattern.isEmpty then some 0 else none
  | byte :: rest =>
    if pattern.isPrefixOf (byte :: rest) then some 0 else (position pattern rest).map (· + 1)

section Utf8

/-- The bytes of a string. -/
def utf8 (text : String) : List UInt8 := text.toUTF8.data.toList

theorem utf8_inj {first second : String} : utf8 first = utf8 second ↔ first = second := by
  constructor
  · intro same
    exact String.toByteArray_inj.mp (ByteArray.ext (Array.toList_inj.mp same))
  · exact fun same => same ▸ rfl

theorem utf8_append (first second : String) : utf8 (first ++ second) = utf8 first ++ utf8 second := by
  simp [utf8, String.toByteArray_append, ByteArray.data_append]

theorem utf8_ascii (text : List Char) (ascii : ∀ c ∈ text, c.toNat < 128) :
    utf8 (String.ofList text) = text.map fun c => UInt8.ofNat c.toNat := by
  have bytes : utf8 (String.ofList text) = text.flatMap String.utf8EncodeChar := by
    simp [utf8, List.utf8Encode]
  rw [bytes, map_eq_flatMap]
  refine flatMap_congr fun c mem => if_pos ?_
  exact Nat.le_of_lt_succ (ascii c mem)

/-- Decoding is the inverse of encoding, and fails on everything else. -/
theorem fromUTF8?_eq_some_iff (bytes : List UInt8) (text : String) :
    String.fromUTF8? ⟨bytes.toArray⟩ = some text ↔ utf8 text = bytes := by
  unfold String.fromUTF8? utf8
  constructor
  · intro decoded
    split at decoded
    · cases decoded
      rfl
    · cases decoded
  · intro encoded
    have same : (⟨bytes.toArray⟩ : ByteArray) = text.toByteArray := by
      apply ByteArray.ext
      rw [← encoded]
      rfl
    rw [dif_pos (same ▸ text.isValidUTF8)]
    exact congrArg some (String.toByteArray_inj.mp same)

theorem utf8EncodeChar_getLast? (c : Char) :
    (String.utf8EncodeChar c).getLast? = some 10 ↔ c = '\n' := by
  have tail : ∀ n : Nat, UInt8.ofNat (n % 64 + 128) ≠ 10 := by
    intro n same
    have value := congrArg UInt8.toNat same
    rw [UInt8.toNat_ofNat_of_lt' (show n % 64 + 128 < 2 ^ 8 by omega)] at value
    exact absurd value (by simp)
  constructor
  · intro ends
    unfold String.utf8EncodeChar at ends
    dsimp only at ends
    split at ends
    · rename_i small
      have value : (UInt8.ofNat c.val.toNat).toNat = 10 :=
        congrArg UInt8.toNat (Option.some.inj ends)
      rw [UInt8.toNat_ofNat_of_lt' (show c.val.toNat < 2 ^ 8 by omega)] at value
      exact Char.ext (UInt32.toNat_inj.mp value)
    · -- the last byte of a longer sequence has its top bit set
      split at ends
      · exact absurd (Option.some.inj ends) (tail _)
      · split at ends <;> exact absurd (Option.some.inj ends) (tail _)
  · rintro rfl
    rfl

/-- A text ends with a line feed exactly when its bytes do. -/
theorem utf8_getLast? (text : List Char) :
    (utf8 (String.ofList text)).getLast? = some 10 ↔ text.getLast? = some '\n' := by
  cases text using List.reverseRecOn with
  | nil => simp [utf8]
  | append_singleton front c =>
    have bytes : utf8 (String.ofList (front ++ [c])) =
        utf8 (String.ofList front) ++ String.utf8EncodeChar c := by
      rw [String.ofList_append, utf8_append]
      simp [utf8, List.utf8Encode]
    have nonempty : String.utf8EncodeChar c ≠ [] := by simp
    rw [bytes, getLast?_append_of_ne_nil _ nonempty, utf8EncodeChar_getLast?,
      getLast?_concat, Option.some.injEq]

def replacementChar : Char := Char.ofNat 0xFFFD

def isContinuation (byte : UInt8) : Bool := 0x80 ≤ byte && byte ≤ 0xBF

/-- The start of a three-byte sequence: no surrogates, nothing that is too long. -/
def leadsThree (first second : UInt8) : Bool :=
  (first == 0xE0 && 0xA0 ≤ second && second ≤ 0xBF) ||
    (0xE1 ≤ first && first ≤ 0xEC && isContinuation second) ||
    (first == 0xED && 0x80 ≤ second && second ≤ 0x9F) ||
    (0xEE ≤ first && first ≤ 0xEF && isContinuation second)

/-- The start of a four-byte sequence, up to U+10FFFF. -/
def leadsFour (first second : UInt8) : Bool :=
  (first == 0xF0 && 0x90 ≤ second && second ≤ 0xBF) ||
    (0xF1 ≤ first && first ≤ 0xF3 && isContinuation second) ||
    (first == 0xF4 && 0x80 ≤ second && second ≤ 0x8F)

def leadsTwo (first second : UInt8) : Bool :=
  0xC2 ≤ first && first ≤ 0xDF && isContinuation second

/-- The scalar with these lower bits, six for each continuation byte. -/
def scalar (lead : Nat) (continuations : List UInt8) : Char :=
  Char.ofNat (continuations.foldl (fun value byte => value * 64 + byte.toNat % 64) lead)

/-- `String::from_utf8_lossy`. -/
def fromUtf8Lossy : List UInt8 → List Char
  | [] => []
  | [b0] => if b0 < 0x80 then [Char.ofNat b0.toNat] else [replacementChar]
  | b0 :: b1 :: rest =>
    if b0 < 0x80 then Char.ofNat b0.toNat :: fromUtf8Lossy (b1 :: rest)
    else if leadsTwo b0 b1 then scalar (b0.toNat % 32) [b1] :: fromUtf8Lossy rest
    else if leadsThree b0 b1 then
      match rest with
      | [] => [replacementChar]
      | b2 :: after =>
        if isContinuation b2 then scalar (b0.toNat % 16) [b1, b2] :: fromUtf8Lossy after
        else replacementChar :: fromUtf8Lossy (b2 :: after)
    else if leadsFour b0 b1 then
      match rest with
      | [] => [replacementChar]
      | [b2] =>
        if isContinuation b2 then [replacementChar] else replacementChar :: fromUtf8Lossy [b2]
      | b2 :: b3 :: after =>
        if isContinuation b2 && isContinuation b3 then
          scalar (b0.toNat % 8) [b1, b2, b3] :: fromUtf8Lossy after
        else if isContinuation b2 then replacementChar :: fromUtf8Lossy (b3 :: after)
        else replacementChar :: fromUtf8Lossy (b2 :: b3 :: after)
    else replacementChar :: fromUtf8Lossy (b1 :: rest)

/-- The two malformed bytes of a cut three-byte sequence make one replacement character. -/
example : fromUtf8Lossy [0x61, 0xE2, 0x82, 0x62, 0xC3, 0xA9] =
    ['a', replacementChar, 'b', 'é'] := by decide

theorem fromUtf8Lossy_ascii {byte : UInt8} (small : byte < 0x80) (rest : List UInt8) :
    fromUtf8Lossy (byte :: rest) = Char.ofNat byte.toNat :: fromUtf8Lossy rest := by
  rw [fromUtf8Lossy.eq_def]
  cases rest with
  | nil => exact if_pos small
  | cons => exact if_pos small

/-- What is well formed is decoded as it was encoded. -/
theorem fromUtf8Lossy_char (c : Char) (rest : List UInt8) :
    fromUtf8Lossy (String.utf8EncodeChar c ++ rest) = c :: fromUtf8Lossy rest := by
  have valid := c.valid
  have back : Char.ofNat c.val.toNat = c := Char.ofNat_toNat c
  have byte : ∀ n < 256, (UInt8.ofNat n).toNat = n := fun _ small => UInt8.toNat_ofNat_of_lt' small
  simp only [UInt32.isValidChar, Nat.isValidChar] at valid
  unfold String.utf8EncodeChar
  dsimp only
  generalize c.val.toNat = v at valid back
  have last := byte (v % 64 + 128) (by omega)
  have second := byte (v / 64 % 64 + 128) (by omega)
  split
  · have only := byte v (by omega)
    rw [singleton_append, fromUtf8Lossy_ascii, only, back]
    rw [UInt8.lt_iff_toNat_lt, only]
    exact Nat.lt_succ_of_le ‹_›
  rw [← back]
  split
  · have first := byte (v / 64 % 32 + 192) (by omega)
    rw [cons_append, singleton_append, fromUtf8Lossy.eq_def]
    dsimp only
    rw [if_neg, if_pos]
    · simp only [scalar, foldl_cons, foldl_nil, first, last]
      congr 2
      omega
    · simp [leadsTwo, isContinuation, UInt8.le_iff_toNat_le]
      omega
    · simp [UInt8.lt_iff_toNat_lt]
      omega
  split
  · have first := byte (v / 4096 % 16 + 224) (by omega)
    rw [cons_append, cons_append, singleton_append, fromUtf8Lossy, if_neg, if_neg, if_pos, if_pos]
    · simp only [scalar, foldl_cons, foldl_nil, first, second, last]
      congr 2
      omega
    all_goals
      simp [leadsTwo, leadsThree, isContinuation, UInt8.le_iff_toNat_le, UInt8.lt_iff_toNat_lt,
        ← UInt8.toNat_inj]
      omega
  · have first := byte (v / 262144 % 8 + 240) (by omega)
    have next := byte (v / 4096 % 64 + 128) (by omega)
    rw [cons_append, cons_append, cons_append, singleton_append, fromUtf8Lossy,
      if_neg, if_neg, if_neg, if_pos]
    dsimp only
    rw [if_pos]
    · simp only [scalar, foldl_cons, foldl_nil, first, next, second, last]
      congr 2
      omega
    all_goals
      simp [leadsTwo, leadsThree, leadsFour, isContinuation, UInt8.le_iff_toNat_le,
        UInt8.lt_iff_toNat_lt, ← UInt8.toNat_inj]
      omega

theorem fromUtf8Lossy_utf8 (text : List Char) :
    fromUtf8Lossy (utf8 (String.ofList text)) = text := by
  have bytes : utf8 (String.ofList text) = text.flatMap String.utf8EncodeChar := by
    simp [utf8, List.utf8Encode]
  rw [bytes]
  clear bytes
  induction text with
  | nil => rw [flatMap_nil, fromUtf8Lossy]
  | cons c rest ih => rw [flatMap_cons, fromUtf8Lossy_char, ih]

end Utf8

end KrotRelay.Lib
