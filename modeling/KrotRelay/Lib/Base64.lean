import Mathlib.Data.List.Basic
import Mathlib.Tactic.Common

/-!
Base64 with the standard alphabet and canonical padding: decoding accepts exactly whole
groups of four, padding only in the last one, and no stray bits under the padding.
-/
namespace KrotRelay.Lib.Base64
open Option

def digit (n : Nat) : Char :=
  if n < 26 then Char.ofNat (65 + n)
  else if n < 52 then Char.ofNat (97 + (n - 26))
  else if n < 62 then Char.ofNat (48 + (n - 52))
  else if n = 62 then '+'
  else '/'

def value? (c : Char) : Option Nat :=
  let n := c.toNat
  if 65 ≤ n ∧ n ≤ 90 then some (n - 65)
  else if 97 ≤ n ∧ n ≤ 122 then some (n - 97 + 26)
  else if 48 ≤ n ∧ n ≤ 57 then some (n - 48 + 52)
  else if n = 43 then some 62
  else if n = 47 then some 63
  else none

def encode : List UInt8 → List Char
  | [] => []
  | [a] =>
    let n := a.toNat * 65536
    [digit (n / 262144), digit (n / 4096 % 64), '=', '=']
  | [a, b] =>
    let n := a.toNat * 65536 + b.toNat * 256
    [digit (n / 262144), digit (n / 4096 % 64), digit (n / 64 % 64), '=']
  | a :: b :: c :: rest =>
    let n := a.toNat * 65536 + b.toNat * 256 + c.toNat
    digit (n / 262144) :: digit (n / 4096 % 64) :: digit (n / 64 % 64) :: digit (n % 64) ::
      encode rest

def decode : List Char → Option (List UInt8)
  | [] => some []
  | p :: q :: r :: s :: rest => do
    let x ← value? p
    let y ← value? q
    if s = '=' then
      if !rest.isEmpty then none
      else if r = '=' then
        if y % 16 = 0 then some [UInt8.ofNat (x * 4 + y / 16)] else none
      else do
        let z ← value? r
        if z % 4 = 0 then
          some [UInt8.ofNat (x * 4 + y / 16), UInt8.ofNat (y % 16 * 16 + z / 4)]
        else none
    else do
      let z ← value? r
      let w ← value? s
      let bytes ← decode rest
      some (UInt8.ofNat (x * 4 + y / 16) :: UInt8.ofNat (y % 16 * 16 + z / 4) ::
        UInt8.ofNat (z % 4 * 64 + w) :: bytes)
  | _ => none

theorem value?_digit {n : Nat} (small : n < 64) : value? (digit n) = some n := by
  have all : ∀ i : Fin 64, value? (digit i) = some i.val := by decide +kernel
  exact all ⟨n, small⟩

theorem isSome_value?_digit {n : Nat} (small : n < 64) : (value? (digit n)).isSome = true := by
  rw [value?_digit small, isSome_some]

theorem digit_ne_pad {n : Nat} (small : n < 64) : digit n ≠ '=' := by
  intro pad
  have valued := value?_digit small
  rw [pad] at valued
  cases valued

private theorem byte_eq {byte : UInt8} {n : Nat} (same : n = byte.toNat) :
    UInt8.ofNat n = byte := by
  rw [same, UInt8.ofNat_toNat]

theorem decode_encode (bytes : List UInt8) : decode (encode bytes) = some bytes := by
  fun_induction encode bytes with
  | case1 => rfl
  | case2 a n =>
    have := a.toNat_lt
    have first : n / 262144 < 64 := by omega
    have second : n / 4096 % 64 < 64 := by omega
    have clear : n / 4096 % 64 % 16 = 0 := by omega
    have byte : UInt8.ofNat (n / 262144 * 4 + n / 4096 % 64 / 16) = a := byte_eq (by omega)
    simp only [decode, value?_digit first, value?_digit second, clear, byte, bind_eq_bind,
      bind_some, ↓reduceIte, List.isEmpty_nil, Bool.not_true, Bool.false_eq_true]
  | case3 a b n =>
    have := a.toNat_lt
    have := b.toNat_lt
    have first : n / 262144 < 64 := by omega
    have second : n / 4096 % 64 < 64 := by omega
    have third : n / 64 % 64 < 64 := by omega
    have clear : n / 64 % 64 % 4 = 0 := by omega
    have byteA : UInt8.ofNat (n / 262144 * 4 + n / 4096 % 64 / 16) = a := byte_eq (by omega)
    have byteB : UInt8.ofNat (n / 4096 % 64 % 16 * 16 + n / 64 % 64 / 4) = b := byte_eq (by omega)
    simp only [decode, value?_digit first, value?_digit second, value?_digit third,
      digit_ne_pad third, clear, byteA, byteB, bind_eq_bind, bind_some, ↓reduceIte,
      List.isEmpty_nil, Bool.not_true, Bool.false_eq_true]
  | case4 a b c rest n ih =>
    have := a.toNat_lt
    have := b.toNat_lt
    have := c.toNat_lt
    have first : n / 262144 < 64 := by omega
    have second : n / 4096 % 64 < 64 := by omega
    have third : n / 64 % 64 < 64 := by omega
    have fourth : n % 64 < 64 := by omega
    have byteA : UInt8.ofNat (n / 262144 * 4 + n / 4096 % 64 / 16) = a := byte_eq (by omega)
    have byteB : UInt8.ofNat (n / 4096 % 64 % 16 * 16 + n / 64 % 64 / 4) = b := byte_eq (by omega)
    have byteC : UInt8.ofNat (n / 64 % 64 % 4 * 64 + n % 64) = c := byte_eq (by omega)
    simp only [decode, value?_digit first, value?_digit second, value?_digit third, value?_digit
      fourth, digit_ne_pad fourth, byteA, byteB, byteC, ih, bind_eq_bind, bind_some, ↓reduceIte]

theorem mem_encode {bytes : List UInt8} {c : Char} (mem : c ∈ encode bytes) :
    (value? c).isSome = true ∨ c = '=' := by
  fun_induction encode bytes with
  | case1 => cases mem
  | case2 a n =>
    have := a.toNat_lt
    simp only [List.mem_cons, List.not_mem_nil, or_false] at mem
    rcases mem with rfl | rfl | rfl | rfl
    · exact .inl (isSome_value?_digit (by omega))
    · exact .inl (isSome_value?_digit (by omega))
    all_goals exact .inr rfl
  | case3 a b n =>
    have := a.toNat_lt
    have := b.toNat_lt
    simp only [List.mem_cons, List.not_mem_nil, or_false] at mem
    rcases mem with rfl | rfl | rfl | rfl
    · exact .inl (isSome_value?_digit (by omega))
    · exact .inl (isSome_value?_digit (by omega))
    · exact .inl (isSome_value?_digit (by omega))
    · exact .inr rfl
  | case4 a b c rest n ih =>
    have := a.toNat_lt
    have := b.toNat_lt
    have := c.toNat_lt
    simp only [List.mem_cons] at mem
    rcases mem with rfl | rfl | rfl | rfl | mem
    · exact .inl (isSome_value?_digit (by omega))
    · exact .inl (isSome_value?_digit (by omega))
    · exact .inl (isSome_value?_digit (by omega))
    · exact .inl (isSome_value?_digit (by omega))
    · exact ih mem

end KrotRelay.Lib.Base64
