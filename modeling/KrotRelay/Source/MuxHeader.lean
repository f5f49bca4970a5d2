import KrotRelay.Lib.LittleEndian

/-!
# The `krot-tcp/1` frame header (krot-proto/src/mux.rs)
-/
namespace KrotRelay.Source
open Lib

def muxHeaderSize : Nat := 9

def controlStreamId : UInt32 := 0

inductive MuxFlag where
  | open_
  | data
  | fin
  deriving DecidableEq

def MuxFlag.asByte : MuxFlag → UInt8
  | .open_ => 0x01
  | .data => 0x02
  | .fin => 0x03

inductive MuxHeaderError where
  | tooShort
  | unknownFlag (byte : UInt8)
  | finWithPayload (len : UInt32)
  | openBadPayload (len : UInt32)
  deriving DecidableEq

def MuxFlag.tryFrom (byte : UInt8) : Except MuxHeaderError MuxFlag :=
  if byte = 0x01 then .ok .open_
  else if byte = 0x02 then .ok .data
  else if byte = 0x03 then .ok .fin
  else .error (.unknownFlag byte)

structure MuxHeader where
  flag : MuxFlag
  streamId : UInt32
  payloadLen : UInt32
  deriving DecidableEq

namespace MuxHeader

def toBytes (header : MuxHeader) : List UInt8 :=
  header.flag.asByte :: (leBytes 4 header.streamId.toNat ++ leBytes 4 header.payloadLen.toNat)

def decode (bytes : List UInt8) : Except MuxHeaderError MuxHeader :=
  match bytes with
  | [] => .error .tooShort
  | first :: rest =>
    if bytes.length < muxHeaderSize then .error .tooShort
    else
      match MuxFlag.tryFrom first with
      | .error problem => .error problem
      | .ok flag =>
        let streamId := UInt32.ofNat (leValue (rest.take 4))
        let payloadLen := UInt32.ofNat (leValue ((rest.drop 4).take 4))
        if flag = .fin ∧ payloadLen ≠ 0 then .error (.finWithPayload payloadLen)
        else if flag = .open_ ∧ payloadLen ≠ 9 then .error (.openBadPayload payloadLen)
        else .ok { flag, streamId, payloadLen }

/-- FIN carries nothing, OPEN exactly a Data-stream header. -/
def Valid (header : MuxHeader) : Prop :=
  (header.flag = .fin → header.payloadLen = 0) ∧ (header.flag = .open_ → header.payloadLen = 9)

@[simp] theorem toBytes_length (header : MuxHeader) : header.toBytes.length = 9 := by
  simp [toBytes]

theorem tryFrom_asByte (flag : MuxFlag) : MuxFlag.tryFrom flag.asByte = .ok flag := by
  cases flag <;> decide

theorem decode_toBytes (header : MuxHeader) (valid : header.Valid) :
    decode header.toBytes = .ok header := by
  obtain ⟨flag, streamId, payloadLen⟩ := header
  obtain ⟨finEmpty, openNine⟩ := valid
  have id : UInt32.ofNat (leValue (leBytes 4 streamId.toNat)) = streamId := by
    rw [leValue_leBytes 4 _ streamId.toNat_lt, UInt32.ofNat_toNat]
  have len : UInt32.ofNat (leValue (leBytes 4 payloadLen.toNat)) = payloadLen := by
    rw [leValue_leBytes 4 _ payloadLen.toNat_lt, UInt32.ofNat_toNat]
  have firstFour : (leBytes 4 streamId.toNat ++ leBytes 4 payloadLen.toNat).take 4 =
      leBytes 4 streamId.toNat := by
    rw [List.take_left' (leBytes_length 4 _)]
  have lastFour : ((leBytes 4 streamId.toNat ++ leBytes 4 payloadLen.toNat).drop 4).take 4 =
      leBytes 4 payloadLen.toNat := by
    rw [List.drop_left' (leBytes_length 4 _), List.take_of_length_le (by simp)]
  simp only [decode, toBytes, tryFrom_asByte, firstFour, lastFour, id, len, List.length_cons,
    List.length_append, leBytes_length, muxHeaderSize]
  rw [if_neg (by omega), if_neg (by simpa using finEmpty), if_neg (by simpa using openNine)]

end MuxHeader

end KrotRelay.Source
