import Mathlib.Data.List.Basic

/-!
# Reading a ClientHello (krot-server/src/domain/sni.rs)

`parse_client_hello` on the bytes `peek_sni` has buffered. A `HelloReader` is a slice and a
position in it. Where the source would panic, by an index or a subtraction out of range, the
model fails with `outOfBounds`; the loops have a bound on their turns and fail with
`unfinished` at its end. Integers are natural numbers, and the Unicode lower-casing of `str`
is a parameter.
-/
namespace KrotRelay.Source

inductive Fault where
  | protocol (detail : String)
  | outOfBounds
  | unfinished
  deriving DecidableEq

structure HelloReader where
  buf : List UInt8
  pos : Nat
  deriving DecidableEq

namespace HelloReader

def new (buf : List UInt8) : HelloReader := ⟨buf, 0⟩

variable (reader : HelloReader)

def isEmpty : Bool := reader.buf.length ≤ reader.pos

def remaining : Except Fault (List UInt8) :=
  if reader.pos ≤ reader.buf.length then .ok (reader.buf.drop reader.pos) else .error .outOfBounds

def ensure (n : Nat) : Except Fault Unit :=
  -- `self.buf.len() - self.pos` on unsigned integers
  if reader.buf.length < reader.pos then .error .outOfBounds
  else if reader.buf.length - reader.pos < n then
    .error (.protocol "truncated ClientHello field")
  else .ok ()

/-- `self.buf[self.pos + i]`. -/
def index (i : Nat) : Except Fault Nat :=
  match reader.buf[reader.pos + i]? with
  | some byte => .ok byte.toNat
  | none => .error .outOfBounds

def takeU8 : Except Fault (Nat × HelloReader) := do
  reader.ensure 1
  let v ← reader.index 0
  return (v, { reader with pos := reader.pos + 1 })

def takeU16 : Except Fault (Nat × HelloReader) := do
  reader.ensure 2
  let high ← reader.index 0
  let low ← reader.index 1
  return (high * 256 + low, { reader with pos := reader.pos + 2 })

def takeU24 : Except Fault (Nat × HelloReader) := do
  reader.ensure 3
  let high ← reader.index 0
  let middle ← reader.index 1
  let low ← reader.index 2
  return (high * 65536 + middle * 256 + low, { reader with pos := reader.pos + 3 })

def skip (n : Nat) : Except Fault HelloReader := do
  reader.ensure n
  return { reader with pos := reader.pos + n }

def take (n : Nat) : Except Fault (HelloReader × HelloReader) := do
  reader.ensure n
  -- `&self.buf[self.pos..self.pos + n]`
  if reader.buf.length < reader.pos + n then throw .outOfBounds
  return (new ((reader.buf.drop reader.pos).take n), { reader with pos := reader.pos + n })

end HelloReader

/-- The loop of `parse_alpn_extension`. -/
def alpnNames : Nat → HelloReader → List (List UInt8) → Except Fault (List (List UInt8))
  | 0, _, _ => .error .unfinished
  | turns + 1, list, out =>
    if list.isEmpty then .ok out
    else do
      let (nameLen, list) ← list.takeU8
      let (name, list) ← list.take nameLen
      let name ← name.remaining
      alpnNames turns list (out ++ [name])

def parseAlpnExtension (data : List UInt8) : Except Fault (List (List UInt8)) := do
  let (listLen, r) ← (HelloReader.new data).takeU16
  let (list, _) ← r.take listLen
  alpnNames (list.buf.length + 1) list []

section Names
variable (toLowercase : String → String)

/-- What `parse_sni_extension` returns for the bytes of a host name. -/
def hostName (bytes : List UInt8) : Except Fault String :=
  match String.fromUTF8? ⟨bytes.toArray⟩ with
  | some name => .ok (toLowercase name)
  | none => .error (.protocol "non-utf8 SNI")

/-- The loop of `parse_sni_extension`. -/
def sniNames : Nat → HelloReader → Except Fault String
  | 0, _ => .error .unfinished
  | turns + 1, list =>
    if list.isEmpty then .error (.protocol "no host_name in SNI extension")
    else do
      let (nameType, list) ← list.takeU8
      let (nameLen, list) ← list.takeU16
      let (nameBytes, list) ← list.take nameLen
      if nameType = 0 then
        let bytes ← nameBytes.remaining
        hostName toLowercase bytes
      else sniNames turns list

def parseSniExtension (data : List UInt8) : Except Fault String := do
  let (listLen, r) ← (HelloReader.new data).takeU16
  let (list, _) ← r.take listLen
  sniNames toLowercase (list.buf.length + 1) list

/-- What the loop over the extensions has found. -/
structure HelloNames where
  serverName : Option String
  alpn : List (List UInt8)
  deriving DecidableEq

/-- One extension. -/
def HelloNames.extend (found : HelloNames) (extType : Nat) (data : List UInt8) :
    Except Fault HelloNames :=
  if extType = 0x0000 then do
    return { found with serverName := some (← parseSniExtension toLowercase data) }
  else if extType = 0x0010 then do
    return { found with alpn := ← parseAlpnExtension data }
  else return found

def helloExtensions : Nat → HelloReader → HelloNames → Except Fault HelloNames
  | 0, _, _ => .error .unfinished
  | turns + 1, exts, found =>
    if exts.isEmpty then .ok found
    else do
      let (extType, exts) ← exts.takeU16
      let (extDataLen, exts) ← exts.takeU16
      let (extData, exts) ← exts.take extDataLen
      let data ← extData.remaining
      let found ← found.extend toLowercase extType data
      helloExtensions turns exts found

/-- The body of the handshake message, up to the extensions. -/
def helloBody (body : HelloReader) : Except Fault HelloReader := do
  let body ← body.skip 2
  let body ← body.skip 32
  let (sidLen, body) ← body.takeU8
  let body ← body.skip sidLen
  let (csLen, body) ← body.takeU16
  let body ← body.skip csLen
  let (cmLen, body) ← body.takeU8
  let body ← body.skip cmLen
  let (extLen, body) ← body.takeU16
  let (exts, _) ← body.take extLen
  return exts

def parseClientHello (fragment : List UInt8) : Except Fault (String × List (List UInt8)) := do
  let (msgType, r) ← (HelloReader.new fragment).takeU8
  if msgType ≠ 0x01 then throw (.protocol "not a ClientHello")
  let (hsLen, r) ← r.takeU24
  let (body, _) ← r.take hsLen
  let exts ← helloBody body
  let found ← helloExtensions toLowercase (exts.buf.length + 1) exts ⟨none, []⟩
  match found.serverName with
  | none => throw (.protocol "no SNI extension in ClientHello")
  | some name => return (name, found.alpn)

end Names
end KrotRelay.Source
