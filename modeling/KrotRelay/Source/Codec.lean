import KrotRelay.Source.Framing

/-!
# The frame codec (krot-proto/src/framing.rs, krot-transport/src/frame.rs)

`encode_frame` and `decode_frame` over buffers, for any type `postcard` can serialise, and
`read_frame` on a stream that delivers its bytes in chunks and then ends
(`RecvStream::read_exact` in krot-transport/src/conn.rs). The two readers of the length prefix
are written separately in the source and are kept apart here: `readVarintU32` walks the
buffer, `readVarint` takes one byte at a time off the stream.
-/
namespace KrotRelay.Source

/-- `postcard` at one type: `to_stdvec` and `from_bytes`. Either may fail. -/
structure Serde (T : Type) where
  toStdvec : T → Option (List UInt8)
  fromBytes : List UInt8 → Option T

/-- The loop of `read_varint_u32` before byte `i`, over what is left of the input. -/
def readVarintFrom (i acc : Nat) : List UInt8 → Except FramingError (Nat × Nat)
  | [] => .error .badVarint
  | b :: rest =>
    if varintMaxBytes ≤ i then .error .badVarint
    else
      let bits := b.toNat % 0x80
      let shift := i * 7
      if 32 ≤ shift ∨ ((bits <<< shift) % 2 ^ 32) >>> shift ≠ bits then .error .badVarint
      else
        let acc := acc ||| (bits <<< shift)
        if b.toNat < 0x80 then .ok (acc, i + 1) else readVarintFrom (i + 1) acc rest

def readVarintU32 (input : List UInt8) : Except FramingError (Nat × Nat) := readVarintFrom 0 0 input

inductive TransportKind where
  | quic
  | tcpFallback
  deriving DecidableEq

/-- The error of `RecvStream::read_exact` at the end of the stream, after `got` bytes: the TCP
mux has its own, a QUIC stream passes `quinn`'s on. -/
def endOfStream : TransportKind → Nat → TransportError
  | .tcpFallback, _ => .unexpectedEof
  | .quic, got => .readExact got

/-- The loop of `RecvStream::read_exact` with `got` read, on the chunks still to come, the
first of which may be what an earlier read has left; the stream ends after them. A read of no
bytes passes for the end, and on the TCP mux an empty DATA frame makes such a read. -/
def readExact (kind : TransportKind) (len : Nat) (got : List UInt8) :
    List (List UInt8) → Except TransportError (List UInt8 × List (List UInt8))
  | [] => if len ≤ got.length then .ok (got, []) else .error (endOfStream kind got.length)
  | chunk :: rest =>
    if len ≤ got.length then .ok (got, chunk :: rest)
    else
      let n := min chunk.length (len - got.length)
      if n = 0 ∧ kind = .tcpFallback then .error (endOfStream kind got.length)
      else if n < chunk.length then .ok (got ++ chunk.take n, chunk.drop n :: rest)
      else readExact kind len (got ++ chunk) rest

/-- The loop of `read_varint` before byte `i`, with so many turns left. -/
def readVarint (kind : TransportKind) (i acc : Nat) : Nat → List (List UInt8) →
    Except TransportError (Nat × List (List UInt8))
  | 0, _ => .error (.framing .badVarint)
  | turns + 1, chunks =>
    match readExact kind 1 [] chunks with
    | .error problem => .error problem
    | .ok (one, rest) =>
      let byte := one.headD 0
      let bits := byte.toNat % 0x80
      let shift := i * 7
      if 32 ≤ shift ∨ ((bits <<< shift) % 2 ^ 32) >>> shift ≠ bits then
        .error (.framing .badVarint)
      else
        let acc := acc ||| (bits <<< shift)
        if byte.toNat < 0x80 then .ok (acc, rest) else readVarint kind (i + 1) acc turns rest

namespace Serde
variable {T : Type} (serde : Serde T)

/-- The result and the output buffer. -/
def encodeFrame (value : T) (out : List UInt8) : Except FramingError Nat × List UInt8 :=
  let start := out.length
  match serde.toStdvec value with
  | none => (.error .postcard, out)
  | some payload =>
    if maxFrameSize < payload.length then
      (.error (.frameTooLarge payload.length maxFrameSize), out)
    else
      let out := out ++ writeVarintU32 payload.length
      let out := out ++ payload
      (.ok (out.length - start), out)

/-- The sum of two lengths does not overflow once the second is at most `maxFrameSize`. -/
def decodeFrame (input : List UInt8) : Except FramingError (T × Nat) :=
  match readVarintU32 input with
  | .error problem => .error problem
  | .ok (len, prefixBytes) =>
    if maxFrameSize < len then .error (.frameTooLarge len maxFrameSize)
    else
      let stop := prefixBytes + len
      if input.length < stop then .error (.truncated stop input.length)
      else
        match serde.fromBytes ((input.take stop).drop prefixBytes) with
        | none => .error .postcard
        | some value => .ok (value, stop)

def readFrame (kind : TransportKind) (chunks : List (List UInt8)) :
    Except TransportError (T × List (List UInt8)) :=
  match readVarint kind 0 0 varintMaxBytes chunks with
  | .error problem => .error problem
  | .ok (len, rest) =>
    if maxFrameSize < len then .error (.framing (.frameTooLarge len maxFrameSize))
    else
      match readExact kind len [] rest with
      | .error problem => .error problem
      | .ok (payload, rest) =>
        match serde.fromBytes payload with
        | none => .error (.framing .postcard)
        | some value => .ok (value, rest)

end Serde
end KrotRelay.Source
