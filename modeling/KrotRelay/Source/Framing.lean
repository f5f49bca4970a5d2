import Mathlib.Tactic.Ring
import KrotRelay.Source.Wire

/-!
# Length-prefixed frames (krot-proto/src/framing.rs, krot-transport/src/frame.rs)

A frame is a varint length and a `postcard` payload. `read_frame` is a future that
takes its bytes off the stream as it goes: `FrameReader` is its progress between two
polls, `feed` the effect of one byte. `postcard` is third-party and a parameter.
-/
namespace KrotRelay.Source
open List

def maxFrameSize : Nat := 64 * 1024

def varintMaxBytes : Nat := 5

structure Postcard where
  toStdvec : ClientFrame → List UInt8
  fromBytes : List UInt8 → Option ClientFrame

inductive FramingError where
  | frameTooLarge (size max : Nat)
  | badVarint
  | truncated (needed had : Nat)
  | postcard
  deriving DecidableEq

/-- `ReadExact` is `quinn`'s answer to a stream that ends early, with the bytes it had read. -/
inductive TransportError where
  | framing (problem : FramingError)
  | readExact (finishedEarly : Nat)
  | unexpectedEof
  deriving DecidableEq

/-- The loop of `write_varint_u32`, with the number of groups a `u32` can still have. -/
def writeVarintGroups : Nat → Nat → List UInt8
  | 0, _ => []
  | groups + 1, v =>
    if 0x80 ≤ v then UInt8.ofNat (v % 0x80 + 0x80) :: writeVarintGroups groups (v / 0x80)
    else [UInt8.ofNat v]

def writeVarintU32 (v : Nat) : List UInt8 := writeVarintGroups varintMaxBytes v

def encodeFrame (postcard : Postcard) (value : ClientFrame) : Except FramingError (List UInt8) :=
  let payload := postcard.toStdvec value
  if maxFrameSize < payload.length then .error (.frameTooLarge payload.length maxFrameSize)
  else .ok (writeVarintU32 payload.length ++ payload)

/-- How far a `read_frame` has got. -/
inductive FrameReader where
  /-- in `read_varint`, before byte `i` -/
  | varint (i : Nat) (acc : Nat)
  /-- in `read_exact`, with part of the payload -/
  | payload (len : Nat) (buf : List UInt8)
  deriving DecidableEq

def FrameReader.start : FrameReader := .varint 0 0

inductive Fed where
  | more (reader : FrameReader)
  | done (payload : List UInt8)
  | failed (problem : FramingError)
  deriving DecidableEq

/-- `read_frame` once the length is known: an empty payload needs no further read. -/
def afterLength (len : Nat) : Fed :=
  if maxFrameSize < len then .failed (.frameTooLarge len maxFrameSize)
  else if len = 0 then .done []
  else .more (.payload len [])

def FrameReader.feed : FrameReader → UInt8 → Fed
  | .varint i acc, byte =>
    let bits := byte.toNat % 0x80
    let shift := i * 7
    -- the shift is done in 32 bits: what it pushes out must not have been set
    if 32 ≤ shift ∨ ((bits <<< shift) % 2 ^ 32) >>> shift ≠ bits then .failed .badVarint
    else
      let acc := acc ||| (bits <<< shift)
      if byte.toNat < 0x80 then afterLength acc
      else if i + 1 = varintMaxBytes then .failed .badVarint
      else .more (.varint (i + 1) acc)
  | .payload len buf, byte =>
    let buf := buf ++ [byte]
    if buf.length = len then .done buf else .more (.payload len buf)

inductive ReadResult where
  /-- all bytes are taken and the frame is not complete -/
  | pending (reader : FrameReader)
  | frame (payload : List UInt8) (rest : List UInt8)
  | failed (problem : FramingError)
  deriving DecidableEq

/-- Poll the future on the bytes that have arrived. -/
def FrameReader.poll : FrameReader → List UInt8 → ReadResult
  | reader, [] => .pending reader
  | reader, byte :: rest =>
    match reader.feed byte with
    | .more reader => reader.poll rest
    | .done whole => .frame whole rest
    | .failed problem => .failed problem

section RoundTrip

/-- Polling on two arrivals in turn. -/
theorem poll_append (reader : FrameReader) (first second : List UInt8) :
    reader.poll (first ++ second) = match reader.poll first with
      | .pending reader => reader.poll second
      | .frame payload rest => .frame payload (rest ++ second)
      | .failed problem => .failed problem := by
  induction first generalizing reader with
  | nil => simp [FrameReader.poll]
  | cons byte _ ih =>
    simp only [cons_append, FrameReader.poll]
    cases reader.feed byte with
    | more => simp [ih]
    | done | failed => simp

theorem poll_payload (len : Nat) (buf bytes tail : List UInt8) (some_ : bytes ≠ [])
    (exact_ : buf.length + bytes.length = len) :
    (FrameReader.payload len buf).poll (bytes ++ tail) = .frame (buf ++ bytes) tail := by
  induction bytes generalizing buf with
  | nil => exact absurd rfl some_
  | cons byte rest ih =>
    simp only [length_cons] at exact_
    simp only [cons_append, FrameReader.poll, FrameReader.feed, length_append,
      length_cons, length_nil]
    by_cases last : rest = []
    · subst last
      simp only [length_nil] at exact_
      simp [show buf.length + 1 = len by omega]
    · have more : 0 < rest.length := length_pos_iff.mpr last
      have longer : (buf ++ [byte]).length + rest.length = len := by
        simp only [length_append, length_cons, length_nil]
        omega
      rw [if_neg (by omega)]
      simp only
      rw [ih (buf ++ [byte]) last longer, append_assoc, singleton_append]

/-- The future after the whole length was read. -/
def ReadResult.ofFed (fed : Fed) (rest : List UInt8) : ReadResult :=
  match fed with
  | .more reader => reader.poll rest
  | .done payload => .frame payload rest
  | .failed problem => .failed problem

/-- Reading a group back: seven bits at their place, nothing shifted out. -/
private theorem or_group (below : acc < 2 ^ shift) (fits : acc + bits * 2 ^ shift < 2 ^ 32) :
    ((bits <<< shift) % 2 ^ 32) >>> shift = bits ∧ acc ||| (bits <<< shift) = acc + bits * 2 ^ shift := by
  have small : bits <<< shift < 2 ^ 32 := by
    rw [Nat.shiftLeft_eq]
    omega
  refine ⟨?_, ?_⟩
  · rw [Nat.mod_eq_of_lt small, Nat.shiftLeft_eq, Nat.shiftRight_eq_div_pow]
    exact Nat.mul_div_cancel _ (Nat.two_pow_pos shift)
  · rw [Nat.or_comm, ← Nat.shiftLeft_add_eq_or_of_lt below, Nat.shiftLeft_eq]
    omega

private theorem feed_varint (i : Nat) (byte : UInt8) (inside : i * 7 < 32)
    (below : acc < 2 ^ (i * 7)) (fits : acc + byte.toNat % 0x80 * 2 ^ (i * 7) < 2 ^ 32) :
    (FrameReader.varint i acc).feed byte =
      if byte.toNat < 0x80 then afterLength (acc + byte.toNat % 0x80 * 2 ^ (i * 7))
      else if i + 1 = varintMaxBytes then .failed .badVarint
      else .more (.varint (i + 1) (acc + byte.toNat % 0x80 * 2 ^ (i * 7))) := by
  obtain ⟨kept, placed⟩ := or_group below fits
  simp only [FrameReader.feed, kept, placed, ne_eq, not_true_eq_false, or_false,
    if_neg (Nat.not_le.mpr inside)]

theorem poll_varint (groups v acc : Nat) (tail : List UInt8) (some_ : 0 < groups)
    (few : groups ≤ varintMaxBytes) (bound : v < 128 ^ groups)
    (below : acc < 2 ^ ((varintMaxBytes - groups) * 7))
    (fits : acc + v * 2 ^ ((varintMaxBytes - groups) * 7) < 2 ^ 32) :
    (FrameReader.varint (varintMaxBytes - groups) acc).poll (writeVarintGroups groups v ++ tail) =
      .ofFed (afterLength (acc + v * 2 ^ ((varintMaxBytes - groups) * 7))) tail := by
  induction groups generalizing v acc with
  | zero => omega
  | succ groups ih =>
    simp only [varintMaxBytes] at few below fits ih ⊢
    generalize shifted : (5 - (groups + 1)) * 7 = shift at below fits ⊢
    have inside : ¬ 32 ≤ shift := by omega
    have split_ := Nat.div_add_mod v 128
    rw [writeVarintGroups]
    by_cases large : 0x80 ≤ v
    · rw [if_pos large]
      have byte : (UInt8.ofNat (v % 0x80 + 0x80)).toNat = v % 0x80 + 0x80 := by
        rw [UInt8.toNat_ofNat']
        omega
      have bits : (UInt8.ofNat (v % 0x80 + 0x80)).toNat % 0x80 = v % 0x80 := by
        rw [byte]
        omega
      have positive : 0 < groups := by
        rcases Nat.eq_zero_or_pos groups with rfl | positive
        · omega
        · exact positive
      -- the low seven bits go to their place, the rest is read by the induction hypothesis
      have lower : v % 128 * 2 ^ shift ≤ v * 2 ^ shift := Nat.mul_le_mul_right _ (Nat.mod_le _ _)
      have next : (5 - groups) * 7 = shift + 7 := by omega
      have carried : acc + v % 128 * 2 ^ shift < 2 ^ (shift + 7) := by
        have small : v % 128 * 2 ^ shift ≤ 127 * 2 ^ shift :=
          Nat.mul_le_mul_right _ (by omega)
        rw [Nat.pow_add]
        omega
      have total : acc + v % 128 * 2 ^ shift + v / 128 * 2 ^ (shift + 7) = acc + v * 2 ^ shift := by
        calc acc + v % 128 * 2 ^ shift + v / 128 * 2 ^ (shift + 7)
            = acc + (128 * (v / 128) + v % 128) * 2 ^ shift := by rw [Nat.pow_add]; ring
          _ = acc + v * 2 ^ shift := by rw [split_]
      have recursion := ih (v / 128) (acc + v % 128 * 2 ^ shift) positive (by omega)
        (by rw [Nat.div_lt_iff_lt_mul (by decide)]; rw [Nat.pow_succ] at bound; exact bound)
        (by rw [next]; exact carried) (by rw [next, total]; exact fits)
      rw [next, total] at recursion
      have fed := feed_varint (5 - (groups + 1)) (UInt8.ofNat (v % 0x80 + 0x80)) (by omega)
        (by rw [shifted]; exact below) (by rw [shifted, bits]; omega)
      rw [shifted, bits, byte, if_neg (by omega), if_neg (by simp only [varintMaxBytes]; omega),
        show 5 - (groups + 1) + 1 = 5 - groups by omega] at fed
      rw [cons_append, FrameReader.poll, fed]
      exact recursion
    · rw [if_neg large]
      have byte : (UInt8.ofNat v).toNat = v := by
        rw [UInt8.toNat_ofNat']
        omega
      have bits : (UInt8.ofNat v).toNat % 0x80 = v := by
        rw [byte]
        omega
      have fed := feed_varint (5 - (groups + 1)) (UInt8.ofNat v) (by omega)
        (by rw [shifted]; exact below) (by rw [shifted, bits]; exact fits)
      rw [shifted, bits, byte, if_pos (by omega)] at fed
      rw [cons_append, nil_append, FrameReader.poll, fed]
      rfl

/-- A payload is read back from its frame, whatever follows it. -/
theorem poll_framed (payload tail : List UInt8) (fits : payload.length ≤ maxFrameSize) :
    FrameReader.start.poll (writeVarintU32 payload.length ++ payload ++ tail) =
      .frame payload tail := by
  simp only [maxFrameSize] at fits
  have length := poll_varint 5 payload.length 0 (payload ++ tail) (by decide) (by decide)
    (by omega) (by decide) (by simp only [varintMaxBytes]; omega)
  simp only [varintMaxBytes, Nat.sub_self, Nat.zero_mul, Nat.pow_zero, Nat.mul_one,
    Nat.zero_add] at length
  rw [append_assoc, writeVarintU32, FrameReader.start, varintMaxBytes, length, afterLength,
    if_neg (by simp only [maxFrameSize]; omega)]
  by_cases empty : payload = []
  · simp [empty, ReadResult.ofFed]
  · rw [if_neg (by rw [length_eq_zero_iff]; exact empty)]
    exact poll_payload payload.length [] payload tail empty (by simp)

/-- A frame is read back from its own bytes, whatever follows them. -/
theorem poll_encodeFrame (postcard : Postcard) (value : ClientFrame) (bytes tail : List UInt8)
    (encoded : encodeFrame postcard value = .ok bytes) :
    FrameReader.start.poll (bytes ++ tail) = .frame (postcard.toStdvec value) tail := by
  simp only [encodeFrame] at encoded
  split at encoded
  · cases encoded
  · rename_i fits
    cases encoded
    exact poll_framed _ tail (Nat.le_of_not_lt fits)

end RoundTrip

end KrotRelay.Source
