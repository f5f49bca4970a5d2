import KrotRelay.Source.Codec

/-!
# The two readers of frames

`decode_frame` on a buffer and `read_frame` on a stream take the same frames off the same
bytes, however the stream cuts them, and refuse the same ones. What has been encoded one
frame after the other is read back as it was.
-/
namespace KrotRelay.Guarantees
open Source List

section Prefix

/-- The input ends inside a length prefix. -/
def endsInPrefix (i : Nat) (input : List UInt8) : Bool :=
  i + input.length < varintMaxBytes && input.all fun b => 0x80 ≤ b.toNat

theorem endsInPrefix_false {i : Nat} {input : List UInt8}
    (long : varintMaxBytes ≤ i + input.length) : endsInPrefix i input = false := by
  rw [endsInPrefix, decide_eq_false (Nat.not_lt.mpr long), Bool.false_and]

/-- The first four groups have room in 32 bits. -/
theorem group_fits (early : i < 4) (small : bits < 0x80) :
    ¬ (32 ≤ i * 7 ∨ ((bits <<< (i * 7)) % 2 ^ 32) >>> (i * 7) ≠ bits) := by
  have power : 2 ^ (i * 7) ≤ 2 ^ 21 := Nat.pow_le_pow_right (by decide) (by omega)
  have room : bits <<< (i * 7) < 2 ^ 32 := by
    rw [Nat.shiftLeft_eq]
    calc bits * 2 ^ (i * 7) ≤ 0x7F * 2 ^ 21 := Nat.mul_le_mul (by omega) power
      _ < 2 ^ 32 := by decide
  rw [not_or, not_not, Nat.mod_eq_of_lt room, Nat.shiftLeft_shiftRight]
  exact ⟨by omega, rfl⟩

/-- Both readers make the same of a length prefix: a length after the same number of bytes,
a refusal, or nothing yet. -/
theorem poll_readVarint (input : List UInt8) (i acc : Nat) (inside : i < varintMaxBytes) :
    match readVarintFrom i acc input with
    | .ok (len, used) => i < used ∧ used - i ≤ input.length ∧
        (FrameReader.varint i acc).poll input = .ofFed (afterLength len) (input.drop (used - i))
    | .error problem => problem = .badVarint ∧
        if endsInPrefix i input then ∃ reader, (FrameReader.varint i acc).poll input = .pending reader
        else (FrameReader.varint i acc).poll input = .failed .badVarint := by
  induction input generalizing i acc with
  | nil =>
    have short : endsInPrefix i [] = true := by simpa [endsInPrefix] using inside
    rw [readVarintFrom]
    simp only [short, if_true]
    exact ⟨trivial, _, rfl⟩
  | cons b rest ih =>
    rw [readVarintFrom, if_neg (Nat.not_le.mpr inside)]
    simp only [FrameReader.poll, FrameReader.feed]
    by_cases drops : 32 ≤ i * 7 ∨
        (((b.toNat % 0x80) <<< (i * 7)) % 2 ^ 32) >>> (i * 7) ≠ b.toNat % 0x80
    · -- only the fifth byte can carry bits that do not fit
      have late : ¬ i < 4 := fun early => group_fits early (Nat.mod_lt _ (by decide)) drops
      have whole : endsInPrefix i (b :: rest) = false :=
        endsInPrefix_false (by simp only [varintMaxBytes, length_cons]; omega)
      simp only [if_pos drops, whole, Bool.false_eq_true, if_false]
      exact ⟨trivial, trivial⟩
    · simp only [if_neg drops]
      by_cases last : b.toNat < 0x80
      · simp only [if_pos last]
        refine ⟨by omega, by simp, ?_⟩
        rw [Nat.add_sub_cancel_left, drop_succ_cons, drop_zero]
        rfl
      · simp only [if_neg last]
        by_cases fifth : i + 1 = varintMaxBytes
        · have refused : readVarintFrom (i + 1) (acc ||| (b.toNat % 0x80) <<< (i * 7)) rest =
              .error .badVarint := by
            cases rest with
            | nil => rfl
            | cons => rw [readVarintFrom, if_pos (Nat.le_of_eq fifth.symm)]
          have whole : endsInPrefix i (b :: rest) = false :=
            endsInPrefix_false (by rw [length_cons]; omega)
          simp only [refused, if_pos fifth, whole, Bool.false_eq_true, if_false]
          exact ⟨trivial, trivial⟩
        · have tail := ih (i + 1) (acc ||| (b.toNat % 0x80) <<< (i * 7)) (by omega)
          have short : endsInPrefix i (b :: rest) = endsInPrefix (i + 1) rest := by
            have longer : i + (rest.length + 1) = i + 1 + rest.length := by omega
            simp [endsInPrefix, Nat.not_lt.mp last, longer]
          simp only [if_neg fifth, short]
          cases read : readVarintFrom (i + 1) (acc ||| (b.toNat % 0x80) <<< (i * 7)) rest with
          | error =>
            rw [read] at tail
            exact tail
          | ok found =>
            rw [read] at tail
            obtain ⟨later, bound, polled⟩ := tail
            have one : found.2 - i = found.2 - (i + 1) + 1 := by omega
            refine ⟨by omega, by rw [length_cons]; omega, ?_⟩
            rw [one, drop_succ_cons]
            exact polled

end Prefix

section Payload

theorem poll_payload_short (buf bytes : List UInt8) (short : buf.length + bytes.length < len) :
    ∃ reader, (FrameReader.payload len buf).poll bytes = .pending reader := by
  induction bytes generalizing buf with
  | nil => exact ⟨_, rfl⟩
  | cons byte rest ih =>
    rw [length_cons] at short
    have longer : (buf ++ [byte]).length = buf.length + 1 := by simp
    rw [FrameReader.poll, FrameReader.feed, if_neg (by omega)]
    exact ih (buf ++ [byte]) (by omega)

/-- What `read_frame` makes of the bytes behind a length it accepts. -/
theorem poll_afterLength (rest : List UInt8) (fits : len ≤ maxFrameSize) :
    if rest.length < len then ∃ reader, ReadResult.ofFed (afterLength len) rest = .pending reader
    else ReadResult.ofFed (afterLength len) rest = .frame (rest.take len) (rest.drop len) := by
  rw [afterLength, if_neg (Nat.not_lt.mpr fits)]
  by_cases empty : len = 0
  · subst empty
    simp [ReadResult.ofFed]
  · rw [if_neg empty]
    split
    · rename_i short
      exact poll_payload_short [] rest (by simpa using short)
    · rename_i enough
      have taken : (rest.take len).length = len := by
        rw [length_take]
        omega
      have nonempty : rest.take len ≠ [] := by
        intro none
        rw [none] at taken
        exact empty taken.symm
      have polled := poll_payload len [] (rest.take len) (rest.drop len) nonempty (by simp [taken])
      rwa [take_append_drop] at polled

end Payload

section Stream
variable (kind : TransportKind)

/-- The bytes that arrive before a read returns none: on QUIC all of them, on the TCP mux those
in front of the first empty chunk. -/
def delivered (chunks : List (List UInt8)) : List UInt8 :=
  match kind with
  | .quic => chunks.flatten
  | .tcpFallback => (chunks.takeWhile (· ≠ [])).flatten

/-- The bytes behind that read. -/
def withheld (chunks : List (List UInt8)) : List UInt8 :=
  match kind with
  | .quic => []
  | .tcpFallback => (chunks.dropWhile (· ≠ [])).flatten

theorem delivered_append_withheld (chunks : List (List UInt8)) :
    delivered kind chunks ++ withheld kind chunks = chunks.flatten := by
  cases kind with
  | quic => exact append_nil _
  | tcpFallback => rw [delivered, withheld, ← flatten_append, takeWhile_append_dropWhile]

variable {kind}

theorem delivered_cons {chunk : List UInt8} (rest : List (List UInt8))
    (goes : chunk ≠ [] ∨ kind = .quic) :
    delivered kind (chunk :: rest) = chunk ++ delivered kind rest ∧
      withheld kind (chunk :: rest) = withheld kind rest := by
  cases kind with
  | quic => exact ⟨flatten_cons, rfl⟩
  | tcpFallback =>
    have some_ := goes.resolve_right nofun
    simp [delivered, withheld, some_]

/-- `read_exact` takes its bytes off what is delivered, wherever it was cut. -/
theorem readExact_eq (len : Nat) (got : List UInt8) (chunks : List (List UInt8)) :
    if got.length + (delivered kind chunks).length < len then
      ∃ read, readExact kind len got chunks = .error (endOfStream kind read)
    else ∃ rest, readExact kind len got chunks =
        .ok (got ++ (delivered kind chunks).take (len - got.length), rest) ∧
      delivered kind rest = (delivered kind chunks).drop (len - got.length) ∧
      withheld kind rest = withheld kind chunks := by
  induction chunks generalizing got with
  | nil =>
    have none_ : delivered kind [] = [] := by cases kind <;> rfl
    rw [none_, readExact]
    split
    · rename_i short
      exact ⟨_, if_neg (by simpa using short)⟩
    · rename_i enough
      exact ⟨[], by rw [if_pos (by simpa using enough), take_nil, append_nil],
        by rw [none_, drop_nil], rfl⟩
  | cons chunk rest ih =>
    rw [readExact]
    by_cases done : len ≤ got.length
    · rw [if_neg (by omega), if_pos done, Nat.sub_eq_zero_of_le done]
      exact ⟨_, by rw [take_zero, append_nil], rfl, rfl⟩
    · rw [if_neg done]
      by_cases stops : chunk = [] ∧ kind = .tcpFallback
      · obtain ⟨rfl, rfl⟩ := stops
        have none_ : delivered .tcpFallback ([] :: rest) = [] := by simp [delivered]
        rw [none_, if_pos (by simp only [length_nil]; omega)]
        exact ⟨got.length, by simp⟩
      · have goes : chunk ≠ [] ∨ kind = .quic := by
          cases kind <;> simp_all
        obtain ⟨arrives, stays⟩ := delivered_cons rest goes
        have reads : ¬ (min chunk.length (len - got.length) = 0 ∧ kind = .tcpFallback) := by
          rintro ⟨zero, tcp⟩
          have empty : chunk.length = 0 := by omega
          exact stops ⟨length_eq_zero_iff.mp empty, tcp⟩
        dsimp only
        rw [if_neg reads, arrives, stays]
        by_cases part : len - got.length < chunk.length
        · -- the chunk has more than is asked for
          have more : chunk.drop (len - got.length) ≠ [] := by
            rw [ne_eq, drop_eq_nil_iff]
            omega
          obtain ⟨left, same⟩ := @delivered_cons kind _ rest (.inl more)
          rw [Nat.min_eq_right part.le, if_pos part, if_neg (by rw [length_append]; omega)]
          refine ⟨_, by rw [take_append_of_le_length part.le], ?_, same⟩
          rw [left, drop_append_of_le_length part.le]
        · have whole : chunk.length ≤ len - got.length := Nat.le_of_not_lt part
          have later := ih (got ++ chunk)
          rw [Nat.min_eq_left whole, if_neg (lt_irrefl _)]
          rw [length_append, Nat.add_assoc, ← length_append, Nat.sub_add_eq] at later
          rwa [take_append, take_of_length_le whole, drop_append, drop_eq_nil_of_le whole,
            nil_append, ← append_assoc]

/-- `read_varint` takes the same bytes off the stream as the future between two polls. -/
theorem readVarint_eq (turns i acc : Nat) (chunks : List (List UInt8)) (some_ : 0 < turns)
    (counted : i + turns = varintMaxBytes) :
    match readVarint kind i acc turns chunks with
    | .ok (len, rest) => (FrameReader.varint i acc).poll (delivered kind chunks) =
          .ofFed (afterLength len) (delivered kind rest) ∧
        withheld kind rest = withheld kind chunks
    | .error problem =>
      (∃ reader read, (FrameReader.varint i acc).poll (delivered kind chunks) = .pending reader ∧
        problem = endOfStream kind read) ∨
      (FrameReader.varint i acc).poll (delivered kind chunks) = .failed .badVarint ∧
        problem = .framing .badVarint := by
  induction turns generalizing i acc chunks with
  | zero => exact absurd some_ (lt_irrefl 0)
  | succ turns ih =>
    have one := @readExact_eq kind 1 [] chunks
    rw [readVarint]
    cases arrived : delivered kind chunks with
    | nil =>
      rw [arrived, if_pos (by decide)] at one
      obtain ⟨read, ended⟩ := one
      rw [ended]
      exact .inl ⟨_, read, rfl, rfl⟩
    | cons byte later =>
      rw [arrived, if_neg (by simp)] at one
      obtain ⟨rest, taken, behind, stays⟩ := one
      obtain rfl : delivered kind rest = later := behind
      have taken : readExact kind 1 [] chunks = .ok ([byte], rest) := taken
      rw [taken, FrameReader.poll, FrameReader.feed]
      dsimp only [headD]
      by_cases drops : 32 ≤ i * 7 ∨
          (((byte.toNat % 0x80) <<< (i * 7)) % 2 ^ 32) >>> (i * 7) ≠ byte.toNat % 0x80
      · rw [if_pos drops, if_pos drops]
        exact .inr ⟨rfl, rfl⟩
      · rw [if_neg drops, if_neg drops]
        by_cases last : byte.toNat < 0x80
        · rw [if_pos last, if_pos last]
          exact ⟨rfl, stays⟩
        · rw [if_neg last, if_neg last]
          by_cases fifth : i + 1 = varintMaxBytes
          · obtain rfl : turns = 0 := by omega
            rw [if_pos fifth]
            exact .inr ⟨rfl, rfl⟩
          · rw [if_neg fifth, ← stays]
            exact ih (i + 1) _ rest (by omega) (by omega)

end Stream

section Agreement
variable {T : Type} (serde : Serde T)

/-- What a stream reader should make of bytes that `decode_frame` answers so: the same
value with the rest of the bytes left, or the same refusal. Where the buffer is too short
the stream ends. -/
def asRead (input : List UInt8) :
    Except FramingError (T × Nat) → Except TransportError (T × List UInt8)
  | .ok (value, used) => .ok (value, input.drop used)
  | .error .badVarint =>
    if endsInPrefix 0 input then .error .unexpectedEof else .error (.framing .badVarint)
  | .error (.truncated _ _) => .error .unexpectedEof
  | .error problem => .error (.framing problem)

/-- What `read_frame` makes of a poll on all the bytes there are. -/
def afterPoll : ReadResult → Except TransportError (T × List UInt8)
  | .pending _ => .error .unexpectedEof
  | .failed problem => .error (.framing problem)
  | .frame payload rest =>
    match serde.fromBytes payload with
    | none => .error (.framing .postcard)
    | some value => .ok (value, rest)

/-- `read_frame` sees what is delivered and leaves what is behind its frame. -/
theorem readFrame_poll (kind : TransportKind) (chunks : List (List UInt8)) :
    match FrameReader.start.poll (delivered kind chunks) with
    | .pending _ => ∃ read, serde.readFrame kind chunks = .error (endOfStream kind read)
    | .failed problem => serde.readFrame kind chunks = .error (.framing problem)
    | .frame payload left => ∃ rest, delivered kind rest = left ∧
        withheld kind rest = withheld kind chunks ∧
        serde.readFrame kind chunks = match serde.fromBytes payload with
          | none => .error (.framing .postcard)
          | some value => .ok (value, rest) := by
  have prefixed := @readVarint_eq kind varintMaxBytes 0 0 chunks (by decide) rfl
  unfold Serde.readFrame FrameReader.start
  cases read : readVarint kind 0 0 varintMaxBytes chunks with
  | error problem =>
    rw [read] at prefixed
    obtain ⟨reader, count, pending, rfl⟩ | ⟨failed, rfl⟩ := prefixed
    · rw [pending]
      exact ⟨count, rfl⟩
    · rw [failed]
  | ok found =>
    obtain ⟨len, rest⟩ := found
    rw [read] at prefixed
    obtain ⟨polled, stays⟩ := prefixed
    rw [polled]
    dsimp only
    by_cases large : maxFrameSize < len
    · rw [afterLength, if_pos large, if_pos large]
      rfl
    · have payload := poll_afterLength (delivered kind rest) (Nat.le_of_not_lt large)
      have taken := @readExact_eq kind len [] rest
      rw [length_nil, Nat.zero_add, Nat.sub_zero] at taken
      rw [if_neg large]
      by_cases short : (delivered kind rest).length < len
      · rw [if_pos short] at payload taken
        obtain ⟨reader, pending⟩ := payload
        obtain ⟨count, ended⟩ := taken
        rw [pending, ended]
        exact ⟨count, rfl⟩
      · rw [if_neg short] at payload taken
        obtain ⟨left, whole, behind, same⟩ := taken
        rw [payload, whole]
        exact ⟨left, behind, same.trans stays, rfl⟩

/-- The first bytes of the payload behind its prefix. -/
theorem take_drop_payload (input : List UInt8) (used len : Nat) :
    (input.take (used + len)).drop used = (input.drop used).take len := by
  rw [drop_take, Nat.add_sub_cancel_left]

/-- The input is a proper beginning of a frame: it ends inside the length prefix, or before
the payload the prefix announces. -/
def incomplete (input : List UInt8) : Bool :=
  match readVarintU32 input with
  | .ok (len, used) => len ≤ maxFrameSize && input.length < used + len
  | .error _ => endsInPrefix 0 input

/-- What the stream reader makes of a buffer, in terms of `decode_frame`. -/
theorem poll_decodeFrame (input : List UInt8) :
    (incomplete input = true ↔ ∃ reader, FrameReader.start.poll input = .pending reader) ∧
    afterPoll serde (FrameReader.start.poll input) = asRead input (serde.decodeFrame input) := by
  have prefixed := poll_readVarint input 0 0 (by decide)
  unfold FrameReader.start
  cases read : readVarintFrom 0 0 input with
  | error =>
    rw [read] at prefixed
    obtain ⟨rfl, polled⟩ := prefixed
    simp only [incomplete, Serde.decodeFrame, readVarintU32, read, asRead]
    cases short : endsInPrefix 0 input with
    | true =>
      rw [if_pos short] at polled
      obtain ⟨reader, pending⟩ := polled
      rw [pending, if_pos rfl]
      exact ⟨iff_of_true rfl ⟨_, rfl⟩, rfl⟩
    | false =>
      rw [if_neg (by rw [short]; exact Bool.false_ne_true)] at polled
      rw [polled, if_neg Bool.false_ne_true]
      exact ⟨iff_of_false (by simp) (by simp), rfl⟩
  | ok found =>
    obtain ⟨len, used⟩ := found
    rw [read] at prefixed
    obtain ⟨_, bound, polled⟩ := prefixed
    rw [Nat.sub_zero] at bound polled
    rw [polled]
    simp only [incomplete, Serde.decodeFrame, readVarintU32, read, Bool.and_eq_true,
      decide_eq_true_eq]
    by_cases large : maxFrameSize < len
    · rw [if_pos large, afterLength, if_pos large]
      exact ⟨iff_of_false (fun fits => Nat.not_le.mpr large fits.1) (by simp [ReadResult.ofFed]), rfl⟩
    · have payload := poll_afterLength (input.drop used) (Nat.le_of_not_lt large)
      rw [length_drop] at payload
      rw [if_neg large]
      by_cases short : input.length < used + len
      · rw [if_pos (by omega)] at payload
        obtain ⟨reader, pending⟩ := payload
        rw [pending, if_pos short]
        exact ⟨iff_of_true ⟨Nat.le_of_not_lt large, short⟩ ⟨_, rfl⟩, rfl⟩
      · rw [if_neg (by omega)] at payload
        rw [if_neg short, payload, take_drop_payload]
        refine ⟨iff_of_false (fun ends => short ends.2) (by simp), ?_⟩
        dsimp only [afterPoll]
        cases serde.fromBytes ((input.drop used).take len) with
        | none => rfl
        | some => rw [drop_drop]; rfl

theorem decodeFrame_used_le
    (decoded : serde.decodeFrame input = .ok (value, used)) : used ≤ input.length := by
  unfold Serde.decodeFrame at decoded
  split at decoded
  · cases decoded
  · split at decoded
    · cases decoded
    · dsimp only at decoded
      split at decoded
      · cases decoded
      · rename_i enough
        split at decoded
        · cases decoded
        · cases decoded
          omega

/-- A frame the stream reader takes off a buffer is what `decode_frame` decodes there. -/
theorem decodeFrame_of_poll {input payload rest : List UInt8} {value : T}
    (polled : FrameReader.start.poll input = .frame payload rest)
    (parsed : serde.fromBytes payload = some value) :
    serde.decodeFrame input = .ok (value, input.length - rest.length) := by
  have same := (poll_decodeFrame serde input).2
  simp only [polled, afterPoll, parsed] at same
  cases decoded : serde.decodeFrame input with
  | ok found =>
    obtain ⟨other, used⟩ := found
    rw [decoded] at same
    simp only [asRead, Except.ok.injEq, Prod.mk.injEq] at same
    obtain ⟨rfl, rfl⟩ := same
    have bound := decodeFrame_used_le serde decoded
    rw [length_drop, Nat.sub_sub_self bound]
  | error problem =>
    rw [decoded] at same
    cases problem with
    | badVarint =>
      dsimp only [asRead] at same
      split at same <;> cases same
    | frameTooLarge | truncated | postcard => cases same

theorem poll_of_decodeFrame {input : List UInt8} {value : T} {used : Nat}
    (decoded : serde.decodeFrame input = .ok (value, used)) :
    ∃ payload, FrameReader.start.poll input = .frame payload (input.drop used) ∧
      serde.fromBytes payload = some value := by
  have same := (poll_decodeFrame serde input).2
  rw [decoded] at same
  cases polled : FrameReader.start.poll input with
  | pending | failed =>
    rw [polled] at same
    cases same
  | frame payload =>
    rw [polled] at same
    dsimp only [afterPoll, asRead] at same
    cases parsed : serde.fromBytes payload with
    | none =>
      rw [parsed] at same
      cases same
    | some =>
      rw [parsed] at same
      simp only [Except.ok.injEq, Prod.mk.injEq] at same
      exact ⟨payload, by rw [same.2], by rw [← same.1, parsed]⟩

/-- Bytes behind a frame make no difference to it. -/
theorem decodeFrame_append (input tail : List UInt8) (value : T) (used : Nat)
    (decoded : serde.decodeFrame input = .ok (value, used)) :
    serde.decodeFrame (input ++ tail) = .ok (value, used) := by
  obtain ⟨payload, polled, parsed⟩ := poll_of_decodeFrame serde decoded
  have longer : FrameReader.start.poll (input ++ tail) =
      .frame payload (input.drop used ++ tail) := by
    rw [poll_append, polled]
  have bound := decodeFrame_used_le serde decoded
  have again := decodeFrame_of_poll serde longer parsed
  simp only [length_append, length_drop] at again
  rw [again]
  congr 2
  omega

end Agreement

section Sequences
variable {T : Type} (serde : Serde T)

/-- Encode the values one after the other into the buffer. -/
def encodeAll (values : List T) (out : List UInt8) : List UInt8 :=
  values.foldl (fun out value => (serde.encodeFrame value out).2) out

/-- Decode frame after frame; the values and the number of bytes consumed. -/
def decodeAll : Nat → List UInt8 → Except FramingError (List T × Nat)
  | 0, _ => .ok ([], 0)
  | count + 1, input =>
    match serde.decodeFrame input with
    | .error problem => .error problem
    | .ok (value, used) =>
      match decodeAll count (input.drop used) with
      | .error problem => .error problem
      | .ok (values, more) => .ok (value :: values, used + more)

/-- Read frame after frame off a stream. -/
def readAll (kind : TransportKind) :
    Nat → List (List UInt8) → Except TransportError (List T × List (List UInt8))
  | 0, chunks => .ok ([], chunks)
  | count + 1, chunks =>
    match serde.readFrame kind chunks with
    | .error problem => .error problem
    | .ok (value, rest) =>
      match readAll kind count rest with
      | .error problem => .error problem
      | .ok (values, left) => .ok (value :: values, left)

/-- The value serialises to at most `MAX_FRAME_SIZE` bytes. -/
def Fits (value : T) : Prop :=
  ∃ payload, serde.toStdvec value = some payload ∧ payload.length ≤ maxFrameSize

/-- The bytes of one frame. -/
def frameOf (value : T) : List UInt8 := (serde.encodeFrame value []).2

variable {serde}

theorem encodeFrame_fits {value : T} {payload : List UInt8}
    (serialised : serde.toStdvec value = some payload) (small : payload.length ≤ maxFrameSize)
    (out : List UInt8) : serde.encodeFrame value out =
      (.ok (writeVarintU32 payload.length ++ payload).length,
        out ++ (writeVarintU32 payload.length ++ payload)) := by
  unfold Serde.encodeFrame
  simp only [serialised, if_neg (Nat.not_lt.mpr small), append_assoc, length_append,
    Nat.add_sub_cancel_left]

theorem encodeFrame_out {value : T} (fits : Fits serde value) (out : List UInt8) :
    (serde.encodeFrame value out).2 = out ++ frameOf serde value := by
  obtain ⟨payload, serialised, small⟩ := fits
  rw [frameOf, encodeFrame_fits serialised small, encodeFrame_fits serialised small, nil_append]

theorem encodeAll_eq (values : List T) (fit : ∀ value ∈ values, Fits serde value)
    (out : List UInt8) :
    encodeAll serde values out = out ++ (values.map (frameOf serde)).flatten := by
  induction values generalizing out with
  | nil => simp [encodeAll]
  | cons value _ ih =>
    have later := ih fun other mem => fit other (mem_cons_of_mem _ mem)
    rw [encodeAll, foldl_cons, ← encodeAll, later, encodeFrame_out (fit value mem_cons_self),
      map_cons, flatten_cons, append_assoc]

theorem poll_frameOf {value : T} {payload : List UInt8}
    (serialised : serde.toStdvec value = some payload) (small : payload.length ≤ maxFrameSize)
    (tail : List UInt8) :
    FrameReader.start.poll (frameOf serde value ++ tail) = .frame payload tail := by
  rw [frameOf, encodeFrame_fits serialised small, nil_append]
  exact poll_framed payload tail small

variable (inverts : ∀ value payload, serde.toStdvec value = some payload →
  serde.fromBytes payload = some value)
include inverts

theorem decodeAll_encoded (values : List T) (fit : ∀ value ∈ values, Fits serde value)
    (tail : List UInt8) :
    decodeAll serde values.length ((values.map (frameOf serde)).flatten ++ tail) =
      .ok (values, (values.map (frameOf serde)).flatten.length) := by
  induction values with
  | nil => rfl
  | cons value rest ih =>
    obtain ⟨payload, serialised, small⟩ := fit value mem_cons_self
    have decoded := decodeFrame_of_poll serde
      (poll_frameOf serialised small ((rest.map (frameOf serde)).flatten ++ tail))
      (inverts value payload serialised)
    rw [length_append, Nat.add_sub_cancel] at decoded
    rw [map_cons, flatten_cons, append_assoc, length_cons, decodeAll, decoded]
    simp only [drop_left]
    rw [ih fun other mem => fit other (mem_cons_of_mem _ mem), length_append]

/-- The values are read back exactly when their frames are delivered. -/
theorem readAll_encoded (kind : TransportKind)
    (fit : ∀ value ∈ values, Fits serde value) (tail : List UInt8) (chunks : List (List UInt8))
    (sent : chunks.flatten = (values.map (frameOf serde)).flatten ++ tail) :
    (∃ left, readAll serde kind values.length chunks = .ok (values, left) ∧ left.flatten = tail) ↔
      (values.map (frameOf serde)).flatten <+: delivered kind chunks := by
  induction values generalizing chunks with
  | nil => exact iff_of_true ⟨chunks, rfl, sent⟩ nil_prefix
  | cons value values ih =>
    obtain ⟨payload, serialised, small⟩ := fit value mem_cons_self
    have whole := delivered_append_withheld kind chunks
    have read := readFrame_poll serde kind chunks
    rw [map_cons, flatten_cons, append_assoc] at sent
    rw [map_cons, flatten_cons, length_cons, readAll]
    by_cases arrives : frameOf serde value <+: delivered kind chunks
    · obtain ⟨later, arrived⟩ := arrives
      rw [← arrived, poll_frameOf serialised small] at read
      obtain ⟨rest, behind, stays, framed⟩ := read
      rw [inverts value payload serialised] at framed
      have onward := ih (fun other mem => fit other (mem_cons_of_mem _ mem)) rest (by
        rw [← delivered_append_withheld kind rest, behind, stays]
        rw [← whole, ← arrived, append_assoc] at sent
        exact append_cancel_left sent)
      rw [behind] at onward
      rw [framed, ← arrived, prefix_append_right_inj, ← onward]
      dsimp only
      cases readAll serde kind values.length rest with
      | error => exact ⟨nofun, nofun⟩
      | ok found =>
        obtain ⟨_, _⟩ := found
        simp
    · refine iff_of_false ?_ fun all => arrives ((prefix_append _ _).trans all)
      rintro ⟨left, complete, _⟩
      have polled := poll_frameOf serialised small ((values.map (frameOf serde)).flatten ++ tail)
      rw [← sent, ← whole, poll_append] at polled
      cases now : FrameReader.start.poll (delivered kind chunks) with
      | failed =>
        rw [now] at polled
        cases polled
      | pending =>
        rw [now] at read
        obtain ⟨_, ended⟩ := read
        rw [ended] at complete
        cases complete
      | frame =>
        -- the frame would be complete in what is delivered
        rw [now] at polled
        obtain ⟨_, rest⟩ := ReadResult.frame.inj polled
        have size := congrArg length sent
        rw [← whole, ← rest, length_append, length_append, length_append] at size
        refine arrives (prefix_of_prefix_length_le (sent ▸ prefix_append _ _)
          (whole ▸ prefix_append _ _) ?_)
        omega

end Sequences

/-- The two readers agree about every byte string, unless a stream ends inside the frame: then
a QUIC stream does not answer `UnexpectedEof`, and a TCP mux does at an empty chunk too. -/
theorem readFrame_agrees_iff {T : Type} (serde : Serde T) (kind : TransportKind)
    (chunks : List (List UInt8)) :
    (serde.readFrame kind chunks).map (fun (value, rest) => (value, rest.flatten)) =
        asRead chunks.flatten (serde.decodeFrame chunks.flatten) ↔
      incomplete (delivered kind chunks) = false ∨
        kind = .tcpFallback ∧ incomplete chunks.flatten = true := by
  obtain ⟨ends, same⟩ := poll_decodeFrame serde chunks.flatten
  have now := (poll_decodeFrame serde (delivered kind chunks)).1
  have whole := delivered_append_withheld kind chunks
  have read := readFrame_poll serde kind chunks
  have later := poll_append .start (delivered kind chunks) (withheld kind chunks)
  rw [whole] at later
  rw [← same, ends]
  cases polled : FrameReader.start.poll (delivered kind chunks) with
  | pending reader =>
    rw [polled] at now read
    obtain ⟨count, ended⟩ := read
    have inside : incomplete (delivered kind chunks) = true := now.mpr ⟨_, rfl⟩
    rw [ended, inside]
    cases kind with
    | quic =>
      have all : delivered .quic chunks = chunks.flatten := rfl
      rw [← all, polled]
      exact ⟨nofun, by rintro (⟨⟨⟩⟩ | ⟨⟨⟩, _⟩)⟩
    | tcpFallback =>
      cases FrameReader.start.poll chunks.flatten with
      | pending => exact iff_of_true rfl (.inr ⟨rfl, _, rfl⟩)
      | failed => exact ⟨nofun, by rintro (⟨⟨⟩⟩ | ⟨_, _, ⟨⟩⟩)⟩
      | frame payload =>
        refine iff_of_false ?_ (by rintro (⟨⟨⟩⟩ | ⟨_, _, ⟨⟩⟩))
        dsimp only [afterPoll]
        cases serde.fromBytes payload <;> exact nofun
  | failed problem =>
    rw [polled] at now read later
    rw [read, later]
    exact iff_of_true rfl (.inl (by simpa using now))
  | frame payload left =>
    rw [polled] at now read later
    obtain ⟨rest, behind, stays, framed⟩ := read
    rw [framed, later]
    refine iff_of_true ?_ (.inl (by simpa using now))
    dsimp only [afterPoll]
    cases serde.fromBytes payload with
    | none => rfl
    | some value =>
      dsimp only [Except.map]
      rw [← delivered_append_withheld kind rest, behind, stays]

/-- Frames encoded one after the other are decoded to the same values and nothing more is
consumed, whatever follows; a stream gives them back however it cuts the bytes, if it delivers
them. On every byte string the two readers agree about the length prefix, and about the frame
unless the stream ends inside it. An oversized value leaves the output buffer as it was. -/
theorem control_frame_codec {T : Type} (serde : Serde T)
    (inverts : ∀ value payload, serde.toStdvec value = some payload →
      serde.fromBytes payload = some value) : (∀ values tail, (∀ value ∈ values, Fits serde value) →
      decodeAll serde values.length (encodeAll serde values [] ++ tail) =
        .ok (values, (encodeAll serde values []).length)) ∧
    (∀ kind values tail chunks, (∀ value ∈ values, Fits serde value) →
      chunks.flatten = encodeAll serde values [] ++ tail →
        ((∃ left, readAll serde kind values.length chunks = .ok (values, left) ∧
          left.flatten = tail) ↔ encodeAll serde values [] <+: delivered kind chunks)) ∧
    (∀ input tail value used, serde.decodeFrame input = .ok (value, used) →
      serde.decodeFrame (input ++ tail) = .ok (value, used)) ∧
    (∀ input, match readVarintU32 input with
      | .ok (len, used) => used ≤ input.length ∧
          FrameReader.start.poll input = .ofFed (afterLength len) (input.drop used)
      | .error problem => problem = .badVarint ∧
          if endsInPrefix 0 input then ∃ reader, FrameReader.start.poll input = .pending reader
          else FrameReader.start.poll input = .failed .badVarint) ∧
    (∀ kind chunks, (serde.readFrame kind chunks).map (fun (value, rest) => (value, rest.flatten)) =
          asRead chunks.flatten (serde.decodeFrame chunks.flatten) ↔
        incomplete (delivered kind chunks) = false ∨
          kind = .tcpFallback ∧ incomplete chunks.flatten = true) ∧
    ∀ value payload out, serde.toStdvec value = some payload → maxFrameSize < payload.length →
      serde.encodeFrame value out = (.error (.frameTooLarge payload.length maxFrameSize), out) := by
  refine ⟨?_, ?_, decodeFrame_append serde, ?_, readFrame_agrees_iff serde, ?_⟩
  · intro values tail fit
    rw [encodeAll_eq values fit, nil_append]
    exact decodeAll_encoded inverts values fit tail
  · intro kind values tail chunks fit sent
    rw [encodeAll_eq values fit, nil_append] at sent ⊢
    exact readAll_encoded inverts kind fit tail chunks sent
  · intro input
    have prefixed := poll_readVarint input 0 0 (by decide)
    unfold readVarintU32
    cases read : readVarintFrom 0 0 input with
    | error =>
      rw [read] at prefixed
      exact prefixed
    | ok =>
      rw [read] at prefixed
      exact prefixed.2
  · intro value payload out serialised large
    unfold Serde.encodeFrame
    simp only [serialised, if_pos large]

/-- `postcard` at `u8`: the byte itself; what follows it is not read. -/
def byteSerde : Serde UInt8 where
  toStdvec byte := some [byte]
  fromBytes
    | [] => none
    | byte :: _ => some byte

theorem control_frame_codec_bytes :
    decodeAll byteSerde 2 (encodeAll byteSerde [7, 9] [] ++ [0xFF]) =
      .ok ([7, 9], (encodeAll byteSerde [7, 9] []).length) ∧
    ∃ left, readAll byteSerde .tcpFallback 2 [[1], [7, 1], [9, 0xFF]] = .ok ([7, 9], left) ∧
      left.flatten = [0xFF] := by
  have codec := control_frame_codec byteSerde (by rintro value _ ⟨⟩; rfl)
  have fits : ∀ value ∈ [7, 9], Fits byteSerde value :=
    fun value _ => ⟨[value], rfl, show 1 ≤ maxFrameSize by decide⟩
  exact ⟨codec.1 [7, 9] [0xFF] fits,
    (codec.2.1 .tcpFallback [7, 9] [0xFF] [[1], [7, 1], [9, 0xFF]] fits rfl).mpr (by decide)⟩

/-- A length of five and the end of the stream: `Truncated` for one reader, and for the
other not the `UnexpectedEof` its documentation names. That comes in the middle of a whole
frame, if one of its DATA frames is empty. -/
theorem quic_end_is_not_unexpectedEof : byteSerde.decodeFrame [5] = .error (.truncated 6 1) ∧
      byteSerde.readFrame .tcpFallback [[5]] = .error .unexpectedEof ∧
      byteSerde.readFrame .quic [[5]] = .error (.readExact 0) ∧
      byteSerde.decodeFrame [1, 7] = .ok (7, 2) ∧
      byteSerde.readFrame .tcpFallback [[1], [], [7]] = .error .unexpectedEof := by
  decide

end KrotRelay.Guarantees
