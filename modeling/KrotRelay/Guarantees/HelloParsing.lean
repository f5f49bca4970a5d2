import Mathlib.Algebra.Order.Ring.Nat
import KrotRelay.Lib.Bytes
import KrotRelay.Source.ClientHello

/-!
# What `parse_client_hello` accepts

The parser reads length-prefixed fields through a slice and a position. Each function is
given one specification: it returns a value exactly when the bytes have a layout, and fails
with an error of its own otherwise, never by an access out of bounds or by not ending.
-/
namespace KrotRelay.Guarantees
open Source Lib List

/-! ## Specifications -/

/-- The values returned are those of `accepted`; every other end is a protocol error. -/
structure Spec {α : Type} (result : Except Fault α) (accepted : α → Prop) : Prop where
  orderly : ∀ fault, result = .error fault → ∃ detail, fault = .protocol detail
  exact : ∀ value, result = .ok value ↔ accepted value

namespace Spec
variable {α β : Type}

theorem ok (value : α) : Spec (.ok value) (value = ·) :=
  ⟨nofun, fun _ => ⟨Except.ok.inj, congrArg _⟩⟩

theorem fail (detail : String) : Spec (.error (.protocol detail) : Except Fault α) fun _ => False :=
  ⟨fun _ same => ⟨detail, (Except.error.inj same).symm⟩, fun _ => ⟨nofun, False.elim⟩⟩

theorem congr {result : Except Fault α} {accepted other : α → Prop} (spec : Spec result accepted)
    (same : ∀ value, accepted value ↔ other value) : Spec result other :=
  ⟨spec.orderly, fun value => (spec.exact value).trans (same value)⟩

/-- Behind a field the fields after it are read. -/
theorem field {ι : Type} {result : Except Fault α} {next : α → Except Fault β} {found : ι → Prop}
    {value : ι → α} (after : ι → β → Prop)
    (spec : Spec result fun out => ∃ field, found field ∧ out = value field)
    (rest : ∀ field, found field → Spec (next (value field)) (after field)) :
    Spec (result >>= next) fun out => ∃ field, found field ∧ after field out := by
  cases result with
  | error fault =>
    obtain ⟨detail, rfl⟩ := spec.orderly fault rfl
    refine (fail detail).congr fun out => ⟨False.elim, ?_⟩
    rintro ⟨field, here, _⟩
    cases (spec.exact _).mpr ⟨field, here, rfl⟩
  | ok got =>
    obtain ⟨field, here, rfl⟩ := (spec.exact got).mp rfl
    refine (rest field here).congr fun out => ⟨fun holds => ⟨field, here, holds⟩, ?_⟩
    rintro ⟨other, there, holds⟩
    have same := Except.ok.inj ((spec.exact _).mpr ⟨other, there, rfl⟩)
    rw [← (rest field here).exact, same]
    exact ((rest other there).exact out).mpr holds

theorem andThen {result : Except Fault α} {next : α → Except Fault β} {accepted : α → Prop}
    (after : α → β → Prop) (spec : Spec result accepted)
    (rest : ∀ value, accepted value → Spec (next value) (after value)) :
    Spec (result >>= next) fun out => ∃ value, accepted value ∧ after value out :=
  field after (spec.congr fun _ => (exists_eq_right'.symm :)) rest

end Spec

/-! ## The reader -/

/-- A number in `width` bytes, the highest first. -/
def bigEndian : Nat → Nat → List UInt8
  | 0, _ => []
  | width + 1, value => bigEndian width (value / 256) ++ [UInt8.ofNat value]

/-- A field behind its length. -/
def sized (width : Nat) (data : List UInt8) : List UInt8 := bigEndian width data.length ++ data

/-- A reader that has passed `front`. -/
def readerAt (front rest : List UInt8) : HelloReader := ⟨front ++ rest, front.length⟩

section Fields
variable {α : Type} {front rest : List UInt8}

theorem ensure_at (n : Nat) : (readerAt front rest).ensure n = if rest.length < n then
      .error (.protocol "truncated ClientHello field") else .ok () := by
  have passed : ¬ front.length + rest.length < front.length := by omega
  simp only [HelloReader.ensure, readerAt, length_append, if_neg passed, Nat.add_sub_cancel_left]

theorem index_at (i : Nat) : (readerAt front rest).index i = match rest[i]? with
      | some byte => .ok byte.toNat
      | none => .error .outOfBounds := by
  have entry : (front ++ rest)[front.length + i]? = rest[i]? := by
    rw [getElem?_append_right (Nat.le_add_right _ i), Nat.add_sub_cancel_left]
  cases found : rest[i]? with
  | none => simp only [HelloReader.index, readerAt, entry, found]
  | some byte => simp only [HelloReader.index, readerAt, entry, found]

/-- The number bytes stand for. -/
def number (data : List UInt8) : Nat := data.foldl (fun value byte => value * 256 + byte.toNat) 0

theorem number_concat (data : List UInt8) (byte : UInt8) :
    number (data ++ [byte]) = number data * 256 + byte.toNat := by
  simp [number]

theorem bigEndian_length (width value : Nat) : (bigEndian width value).length = width := by
  induction width generalizing value with
  | zero => rfl
  | succ width ih => simp [bigEndian, ih]

theorem bigEndian_number (data : List UInt8) :
    number data < 256 ^ data.length ∧ bigEndian data.length (number data) = data := by
  induction data using List.reverseRecOn with
  | nil => exact ⟨Nat.one_pos, rfl⟩
  | append_singleton data byte ih =>
    obtain ⟨small, same⟩ := ih
    have byteSmall := byte.toNat_lt
    have high : (number data * 256 + byte.toNat) / 256 = number data := by omega
    have low : UInt8.ofNat (number data * 256 + byte.toNat) = byte := by
      rw [← UInt8.toNat_inj, UInt8.toNat_ofNat']
      omega
    rw [number_concat, length_append, length_singleton, bigEndian, high, low, same]
    refine ⟨?_, rfl⟩
    rw [Nat.pow_succ]
    omega

theorem number_bigEndian {width value : Nat} (small : value < 256 ^ width) :
    number (bigEndian width value) = value := by
  induction width generalizing value with
  | zero =>
    rw [Nat.pow_zero] at small
    rw [Nat.lt_one_iff.mp small]
    rfl
  | succ width ih =>
    rw [Nat.pow_succ] at small
    rw [bigEndian, number_concat, ih (by omega), UInt8.toNat_ofNat']
    omega

/-- The rest begins with an integer, and goes on behind it. -/
def BeginsInteger (rest : List UInt8) (width : Nat) (field : Nat × List UInt8) : Prop :=
  field.1 < 256 ^ width ∧ rest = bigEndian width field.1 ++ field.2

/-- The rest begins with so many bytes, and goes on behind them. -/
def BeginsBytes (rest : List UInt8) (n : Nat) (field : List UInt8 × List UInt8) : Prop :=
  field.1.length = n ∧ rest = field.1 ++ field.2

/-- The integers of the reader differ in their width only. -/
theorem spec_integer {width : Nat} {taken : Except Fault (Nat × HelloReader)}
    (short : rest.length < width → taken = .error (.protocol "truncated ClientHello field"))
    (long : ∀ data back, rest = data ++ back → data.length = width →
      taken = .ok (number data, readerAt (front ++ data) back)) :
    Spec taken fun out => ∃ field, BeginsInteger rest width field ∧
      out = (field.1, readerAt (front ++ bigEndian width field.1) field.2) := by
  by_cases enough : rest.length < width
  · rw [short enough]
    refine (Spec.fail _).congr fun out => ⟨False.elim, ?_⟩
    rintro ⟨field, ⟨_, whole⟩, _⟩
    rw [whole, length_append, bigEndian_length] at enough
    omega
  · have size : (rest.take width).length = width := by
      rw [length_take]
      omega
    rw [long _ _ (take_append_drop width rest).symm size]
    refine (Spec.ok _).congr fun out => ⟨?_, ?_⟩
    · rintro rfl
      obtain ⟨small, same⟩ := bigEndian_number (rest.take width)
      rw [size] at small same
      exact ⟨(number (rest.take width), rest.drop width),
        ⟨small, by rw [same, take_append_drop]⟩, by rw [same]⟩
    · rintro ⟨field, ⟨small, rfl⟩, rfl⟩
      rw [take_left' (bigEndian_length _ _), drop_left' (bigEndian_length _ _),
        number_bigEndian small]

theorem spec_takeU8 : Spec (readerAt front rest).takeU8 fun out =>
    ∃ field, BeginsInteger rest 1 field ∧
      out = (field.1, readerAt (front ++ bigEndian 1 field.1) field.2) := by
  refine spec_integer (fun short => by rw [HelloReader.takeU8, ensure_at, if_pos short]; rfl) ?_
  rintro data back rfl size
  obtain ⟨a, rfl⟩ := length_eq_one_iff.mp size
  rw [HelloReader.takeU8, ensure_at, if_neg (by simp), index_at]
  simp [readerAt, number, bind, Except.bind, pure, Except.pure]

theorem spec_takeU16 : Spec (readerAt front rest).takeU16 fun out =>
    ∃ field, BeginsInteger rest 2 field ∧
      out = (field.1, readerAt (front ++ bigEndian 2 field.1) field.2) := by
  refine spec_integer (fun short => by rw [HelloReader.takeU16, ensure_at, if_pos short]; rfl) ?_
  rintro data back rfl size
  obtain ⟨a, b, rfl⟩ := length_eq_two.mp size
  rw [HelloReader.takeU16, ensure_at, if_neg (by simp), index_at, index_at]
  simp [readerAt, number, bind, Except.bind, pure, Except.pure]

theorem spec_takeU24 : Spec (readerAt front rest).takeU24 fun out =>
    ∃ field, BeginsInteger rest 3 field ∧
      out = (field.1, readerAt (front ++ bigEndian 3 field.1) field.2) := by
  refine spec_integer (fun short => by rw [HelloReader.takeU24, ensure_at, if_pos short]; rfl) ?_
  rintro data back rfl size
  obtain ⟨a, b, c, rfl⟩ := length_eq_three.mp size
  rw [HelloReader.takeU24, ensure_at, if_neg (by simp), index_at, index_at, index_at]
  simp [readerAt, number, bind, Except.bind, pure, Except.pure]
  omega

theorem spec_skip (n : Nat) : Spec ((readerAt front rest).skip n) fun out =>
    ∃ field, BeginsBytes rest n field ∧ out = readerAt (front ++ field.1) field.2 := by
  rw [HelloReader.skip, ensure_at]
  split
  · rename_i short
    refine (Spec.fail _).congr fun out => ⟨False.elim, ?_⟩
    rintro ⟨field, ⟨rfl, rfl⟩, _⟩
    rw [length_append] at short
    omega
  · rename_i enough
    refine (Spec.ok _).congr fun out => ⟨?_, ?_⟩
    · rintro rfl
      refine ⟨(rest.take n, rest.drop n), ⟨by rw [length_take]; omega,
        (take_append_drop n rest).symm⟩, ?_⟩
      simp [readerAt]
      omega
    · rintro ⟨field, ⟨rfl, rfl⟩, rfl⟩
      simp [readerAt]

theorem spec_take (n : Nat) : Spec ((readerAt front rest).take n) fun out =>
    ∃ field, BeginsBytes rest n field ∧
      out = (readerAt [] field.1, readerAt (front ++ field.1) field.2) := by
  have sliced : (readerAt front rest).take n = do
      let reader ← (readerAt front rest).skip n
      return (readerAt [] (rest.take n), reader) := by
    rw [HelloReader.take, HelloReader.skip, ensure_at]
    split
    · rfl
    · rename_i enough
      have inside : ¬ (front ++ rest).length < front.length + n := by
        rw [length_append]
        omega
      rw [readerAt, if_neg inside]
      simp [readerAt, HelloReader.new, bind, Except.bind, pure, Except.pure]
  rw [sliced]
  refine (Spec.field _ (spec_skip n) fun field begins =>
    Spec.ok (readerAt [] (rest.take n), readerAt (front ++ field.1) field.2)).congr fun out => ?_
  refine exists_congr fun field => and_congr_right fun ⟨size, whole⟩ => ?_
  rw [whole, take_left' size]
  exact eq_comm

/-- The rest begins with a field behind its length. -/
def BeginsSized (rest : List UInt8) (width : Nat) (field : List UInt8 × List UInt8) : Prop :=
  field.1.length < 256 ^ width ∧ rest = sized width field.1 ++ field.2

theorem beginsSized_iff (width : Nat) (field : List UInt8 × List UInt8) :
    BeginsSized rest width field ↔ ∃ length, BeginsInteger rest width length ∧
      BeginsBytes length.2 length.1 field := by
  constructor
  · rintro ⟨small, rfl⟩
    exact ⟨(_, _), ⟨small, append_assoc _ _ _⟩, rfl, rfl⟩
  · rintro ⟨⟨_, _⟩, ⟨small, rfl⟩, rfl, rfl⟩
    exact ⟨small, (append_assoc _ _ _).symm⟩

variable {taken : Except Fault (Nat × HelloReader)} {next : Nat × HelloReader → Except Fault α}
  (after : List UInt8 × List UInt8 → α → Prop) {width : Nat}

theorem Spec.sizedTake {goesOn : HelloReader × HelloReader → Except Fault α}
    (spec : Spec taken fun out => ∃ field, BeginsInteger rest width field ∧
      out = (field.1, readerAt (front ++ bigEndian width field.1) field.2))
    (shape : ∀ v reader, next (v, reader) = (reader.take v >>= goesOn))
    (behind : ∀ field, BeginsSized rest width field → ∀ front,
      Spec (goesOn (readerAt [] field.1, readerAt front field.2)) (after field)) :
    Spec (taken >>= next) fun out => ∃ field, BeginsSized rest width field ∧ after field out := by
  refine (Spec.field (fun length out => ∃ field, BeginsBytes length.2 length.1 field ∧
    after field out) spec fun length begins => ?_).congr fun out => ?_
  · rw [shape]
    exact Spec.field _ (spec_take _) fun field here =>
      behind field ((beginsSized_iff width field).mpr ⟨length, begins, here⟩) _
  · simp only [beginsSized_iff]
    tauto

theorem Spec.sizedSkip {goesOn : HelloReader → Except Fault α}
    (spec : Spec taken fun out => ∃ field, BeginsInteger rest width field ∧
      out = (field.1, readerAt (front ++ bigEndian width field.1) field.2))
    (shape : ∀ v reader, next (v, reader) = (reader.skip v >>= goesOn))
    (behind : ∀ field, BeginsSized rest width field → ∀ front,
      Spec (goesOn (readerAt front field.2)) (after field)) :
    Spec (taken >>= next) fun out => ∃ field, BeginsSized rest width field ∧ after field out := by
  refine (Spec.field (fun length out => ∃ field, BeginsBytes length.2 length.1 field ∧
    after field out) spec fun length begins => ?_).congr fun out => ?_
  · rw [shape]
    exact Spec.field _ (spec_skip _) fun field here =>
      behind field ((beginsSized_iff width field).mpr ⟨length, begins, here⟩) _
  · simp only [beginsSized_iff]
    tauto

theorem BeginsSized.length {field : List UInt8 × List UInt8} (begins : BeginsSized rest width field) :
    field.2.length + width ≤ rest.length := by
  rw [begins.2, sized, length_append, length_append, bigEndian_length]
  omega

/-- A type and a field behind its length. -/
def entry (width : Nat) (typed : Nat × List UInt8) : List UInt8 :=
  bigEndian width typed.1 ++ sized 2 typed.2

def EntryFits (width : Nat) (typed : Nat × List UInt8) : Prop :=
  typed.1 < 256 ^ width ∧ typed.2.length < 256 ^ 2

/-- The rest begins with such an entry. -/
def BeginsEntry (rest : List UInt8) (width : Nat) (found : (Nat × List UInt8) × List UInt8) : Prop :=
  EntryFits width found.1 ∧ rest = entry width found.1 ++ found.2

theorem BeginsEntry.length {found : (Nat × List UInt8) × List UInt8}
    (begins : BeginsEntry rest width found) : found.2.length + width ≤ rest.length := by
  rw [begins.2, entry, length_append, length_append, bigEndian_length]
  omega

theorem Spec.entry (after : (Nat × List UInt8) × List UInt8 → α → Prop)
    {sizes : Nat → Nat × HelloReader → Except Fault α} {goesOn : Nat → HelloReader × HelloReader → Except Fault α}
    (spec : Spec taken fun out => ∃ field, BeginsInteger rest width field ∧
      out = (field.1, readerAt (front ++ bigEndian width field.1) field.2))
    (shape : ∀ v reader, next (v, reader) = (reader.takeU16 >>= sizes v))
    (shape' : ∀ v n reader, sizes v (n, reader) = (reader.take n >>= goesOn v))
    (behind : ∀ found, BeginsEntry rest width found → ∀ front,
      Spec (goesOn found.1.1 (readerAt [] found.1.2, readerAt front found.2)) (after found)) :
    Spec (taken >>= next) fun out => ∃ found, BeginsEntry rest width found ∧ after found out := by
  refine (Spec.field (fun type out => ∃ field, BeginsSized type.2 2 field ∧
    after ((type.1, field.1), field.2) out) spec fun type begins => ?_).congr fun out => ?_
  · rw [shape]
    refine Spec.sizedTake _ spec_takeU16 (shape' type.1) fun field here front => ?_
    refine behind ((type.1, field.1), field.2) ⟨⟨begins.1, here.1⟩, ?_⟩ front
    rw [begins.2, here.2]
    exact (append_assoc _ _ _).symm
  · constructor
    · rintro ⟨type, begins, field, here, holds⟩
      refine ⟨_, ⟨⟨begins.1, here.1⟩, ?_⟩, holds⟩
      rw [begins.2, here.2]
      exact (append_assoc _ _ _).symm
    · rintro ⟨⟨⟨type, data⟩, back⟩, ⟨⟨small, fits⟩, rfl⟩, holds⟩
      exact ⟨(type, sized 2 data ++ back), ⟨small, append_assoc _ _ _⟩, (data, back),
        ⟨fits, rfl⟩, holds⟩

theorem isEmpty_at : (readerAt front rest).isEmpty = rest.isEmpty := by
  cases rest <;> simp [HelloReader.isEmpty, readerAt]

theorem remaining_at (data : List UInt8) : (readerAt [] data).remaining = .ok data := by
  simp [HelloReader.remaining, readerAt]

end Fields

/-! ## The two lists -/

theorem spec_alpnNames (front rest : List UInt8) (out : List (List UInt8))
    (enough : rest.length < turns) : Spec (alpnNames turns (readerAt front rest) out) fun names =>
      ∃ more, (rest = more.flatMap (sized 1) ∧ ∀ name ∈ more, name.length < 256) ∧
        names = out ++ more := by
  induction turns generalizing front rest out with
  | zero => omega
  | succ turns ih =>
    rw [alpnNames, isEmpty_at]
    split
    · rename_i none
      obtain rfl := List.isEmpty_iff.mp none
      refine (Spec.ok out).congr fun names => ⟨?_, ?_⟩
      · rintro rfl
        exact ⟨[], ⟨rfl, nofun⟩, (append_nil _).symm⟩
      · rintro ⟨more, ⟨nothing, _⟩, rfl⟩
        cases more with
        | nil => rw [append_nil]
        | cons name more => simp [sized, bigEndian] at nothing
    · rename_i some_
      refine (Spec.sizedTake (fun name names => ∃ more, (name.2 = more.flatMap (sized 1) ∧
        ∀ name ∈ more, name.length < 256) ∧ names = out ++ name.1 :: more) spec_takeU8
        (fun _ _ => rfl) fun name begins front => ?_).congr fun names => ?_
      · dsimp only
        rw [remaining_at]
        have shorter := begins.length
        exact (ih front name.2 (out ++ [name.1]) (by omega)).congr fun names => by simp
      · constructor
        · rintro ⟨name, ⟨small, rfl⟩, more, ⟨same, each⟩, rfl⟩
          exact ⟨name.1 :: more, ⟨by rw [same]; rfl, forall_mem_cons.mpr ⟨small, each⟩⟩, rfl⟩
        · rintro ⟨more, ⟨rfl, each⟩, rfl⟩
          cases more with
          | nil => exact absurd rfl some_
          | cons name more =>
            obtain ⟨small, each⟩ := forall_mem_cons.mp each
            exact ⟨(name, _), ⟨small, rfl⟩, more, ⟨rfl, each⟩, rfl⟩

/-- A complete protocol list, and what is behind it. -/
def ProtocolList (data : List UInt8) (names : List (List UInt8)) : Prop :=
  ∃ list ignored, (list.length < 256 ^ 2 ∧ data = sized 2 list ++ ignored) ∧
    list = names.flatMap (sized 1) ∧ ∀ name ∈ names, name.length < 256

theorem spec_parseAlpnExtension (data : List UInt8) :
    Spec (parseAlpnExtension data) (ProtocolList data) := by
  refine (Spec.sizedTake (fun list names => list.1 = names.flatMap (sized 1) ∧
    ∀ name ∈ names, name.length < 256) (@spec_takeU16 [] data) (fun _ _ => rfl)
    fun list begins front => ?_).congr fun names => Prod.exists
  refine (spec_alpnNames [] list.1 [] (Nat.lt_succ_self _)).congr fun names => ?_
  simp

section ServerName
variable (toLowercase : String → String)

/-- The name of a list of entries: that of the first host name. -/
def HostName (list : List UInt8) (name : String) : Prop :=
  ∃ (others : List (Nat × List UInt8)) (text : String) (back : List UInt8),
    list = others.flatMap (entry 1) ++ (entry 1 (0, utf8 text) ++ back) ∧
    (∀ other ∈ others, other.1 ≠ 0 ∧ EntryFits 1 other) ∧ (utf8 text).length < 256 ^ 2 ∧
    toLowercase text = name

theorem spec_hostName (bytes : List UInt8) : Spec (hostName toLowercase bytes) fun name =>
    ∃ text, utf8 text = bytes ∧ toLowercase text = name := by
  simp only [← fromUTF8?_eq_some_iff]
  unfold hostName
  split
  · rename_i text decoded
    refine (Spec.ok _).congr fun name => ?_
    simp [decoded]
  · rename_i undecoded
    refine (Spec.fail _).congr fun name => ?_
    simp [undecoded]

theorem spec_sniNames (front rest : List UInt8) (enough : rest.length < turns) :
    Spec (sniNames toLowercase turns (readerAt front rest)) (HostName toLowercase rest) := by
  induction turns generalizing front rest with
  | zero => omega
  | succ turns ih =>
    rw [sniNames, isEmpty_at]
    split
    · rename_i none
      obtain rfl := List.isEmpty_iff.mp none
      refine (Spec.fail _).congr fun name => ⟨False.elim, ?_⟩
      rintro ⟨others, text, back, nothing, _⟩
      simp [entry, bigEndian] at nothing
    · refine (Spec.entry (fun found name => if found.1.1 = 0 then
        ∃ text, utf8 text = found.1.2 ∧ toLowercase text = name
        else HostName toLowercase found.2 name) spec_takeU8 (fun _ _ => rfl) (fun _ _ _ => rfl)
        fun found begins front => ?_).congr fun name => ?_
      · by_cases host : found.1.1 = 0
        · simp only [if_pos host, remaining_at]
          exact spec_hostName toLowercase found.1.2
        · have shorter := begins.length
          simp only [if_neg host]
          exact ih front found.2 (by omega)
      · constructor
        · rintro ⟨⟨⟨type, data⟩, back⟩, ⟨fits, rfl⟩, holds⟩
          split at holds
          · rename_i host
            obtain ⟨text, rfl, rfl⟩ := holds
            obtain rfl : type = 0 := host
            exact ⟨[], text, back, rfl, nofun, fits.2, rfl⟩
          · rename_i other
            obtain ⟨others, text, behind, rfl, each, small, rfl⟩ := holds
            refine ⟨(type, data) :: others, text, behind, ?_, forall_mem_cons.mpr
              ⟨⟨other, fits⟩, each⟩, small, rfl⟩
            rw [flatMap_cons, append_assoc]
        · rintro ⟨others, text, behind, rfl, each, small, rfl⟩
          cases others with
          | nil => exact ⟨((0, utf8 text), behind), ⟨⟨(by decide : 0 < 256 ^ 1), small⟩, rfl⟩,
            text, rfl, rfl⟩
          | cons other others =>
            obtain ⟨⟨differs, fits⟩, each⟩ := forall_mem_cons.mp each
            refine ⟨(other, others.flatMap (entry 1) ++ (entry 1 (0, utf8 text) ++ behind)),
              ⟨fits, by rw [flatMap_cons, append_assoc]⟩, ?_⟩
            rw [if_neg differs]
            exact ⟨others, text, behind, rfl, each, small, rfl⟩

/-- A complete name list with a host name in it, and what is behind it. -/
def NameList (data : List UInt8) (name : String) : Prop :=
  ∃ list ignored, (list.length < 256 ^ 2 ∧ data = sized 2 list ++ ignored) ∧
    HostName toLowercase list name

theorem spec_parseSniExtension (data : List UInt8) :
    Spec (parseSniExtension toLowercase data) (NameList toLowercase data) := by
  refine (Spec.sizedTake (fun list name => HostName toLowercase list.1 name)
    (@spec_takeU16 [] data) (fun _ _ => rfl) fun list begins front => ?_).congr
      fun name => Prod.exists
  exact spec_sniNames toLowercase [] list.1 (Nat.lt_succ_self _)

/-! ## The extensions -/

/-- What one extension changes in what was found before it. -/
def Extends (found : HelloNames) (typed : Nat × List UInt8) (out : HelloNames) : Prop :=
  (typed.1 = 0 ∧ ∃ name, NameList toLowercase typed.2 name ∧
      out = { found with serverName := some name }) ∨
    (typed.1 = 16 ∧ ∃ names, ProtocolList typed.2 names ∧ out = { found with alpn := names }) ∨
    (typed.1 ≠ 0 ∧ typed.1 ≠ 16 ∧ out = found)

theorem spec_extend (found : HelloNames) (typed : Nat × List UInt8) :
    Spec (found.extend toLowercase typed.1 typed.2) (Extends toLowercase found typed) := by
  unfold HelloNames.extend Extends
  split
  · rename_i sni
    refine (Spec.andThen (fun name out => { found with serverName := some name } = out)
      (spec_parseSniExtension toLowercase typed.2) fun name _ => Spec.ok _).congr fun out => ?_
    simp [sni, eq_comm]
  · split
    · rename_i alpn
      refine (Spec.andThen (fun names out => { found with alpn := names } = out)
        (spec_parseAlpnExtension typed.2) fun names _ => Spec.ok _).congr fun out => ?_
      simp [alpn, eq_comm]
    · rename_i other
      exact (Spec.ok _).congr fun out => by simp_all [eq_comm]

/-- The extensions of a block, in order. -/
inductive ExtendsAll : HelloNames → List (Nat × List UInt8) → HelloNames → Prop
  | nil (found) : ExtendsAll found [] found
  | cons {found next out : HelloNames} {typed : Nat × List UInt8} {more : List (Nat × List UInt8)}
      (first : Extends toLowercase found typed next) (others : ExtendsAll next more out) :
      ExtendsAll found (typed :: more) out

theorem spec_helloExtensions (front rest : List UInt8) (found : HelloNames)
    (enough : rest.length < turns) :
    Spec (helloExtensions toLowercase turns (readerAt front rest) found) fun out =>
      ∃ extensions, (rest = extensions.flatMap (entry 2) ∧ ∀ typed ∈ extensions, EntryFits 2 typed) ∧
        ExtendsAll toLowercase found extensions out := by
  induction turns generalizing front rest found with
  | zero => omega
  | succ turns ih =>
    rw [helloExtensions, isEmpty_at]
    split
    · rename_i none
      obtain rfl := List.isEmpty_iff.mp none
      refine (Spec.ok found).congr fun out => ⟨?_, ?_⟩
      · rintro rfl
        exact ⟨[], ⟨rfl, nofun⟩, .nil found⟩
      · rintro ⟨extensions, ⟨nothing, _⟩, all⟩
        cases all with
        | nil => rfl
        | cons => simp [entry, bigEndian] at nothing
    · rename_i some_
      refine (Spec.entry (fun typed out => ∃ next, Extends toLowercase found typed.1 next ∧
        ∃ more, (typed.2 = more.flatMap (entry 2) ∧ ∀ typed ∈ more, EntryFits 2 typed) ∧
          ExtendsAll toLowercase next more out) spec_takeU16 (fun _ _ => rfl) (fun _ _ _ => rfl)
        fun typed begins front => ?_).congr fun out => ?_
      · dsimp only
        rw [remaining_at]
        have shorter := begins.length
        change Spec (found.extend toLowercase typed.1.1 typed.1.2 >>= _) _
        exact Spec.andThen _ (spec_extend toLowercase found typed.1) fun next _ =>
          ih front typed.2 next (by omega)
      · constructor
        · rintro ⟨typed, ⟨fits, rfl⟩, next, first, more, ⟨same, each⟩, others⟩
          exact ⟨typed.1 :: more, ⟨by rw [same]; rfl, forall_mem_cons.mpr ⟨fits, each⟩⟩,
            .cons first others⟩
        · rintro ⟨extensions, ⟨rfl, each⟩, all⟩
          cases all with
          | nil => exact absurd rfl some_
          | cons first others =>
            obtain ⟨fits, each⟩ := forall_mem_cons.mp each
            exact ⟨(_, _), ⟨fits, rfl⟩, _, first, _, ⟨rfl, each⟩, others⟩

/-- The last extension of a type. -/
def lastOf (type : Nat) (extensions : List (Nat × List UInt8)) : Option (List UInt8) :=
  ((extensions.filter fun typed => typed.1 = type).getLast?).map Prod.snd

theorem lastOf_cons (type : Nat) (typed : Nat × List UInt8) (more : List (Nat × List UInt8)) :
    lastOf type (typed :: more) =
      (lastOf type more).or (if typed.1 = type then some typed.2 else none) := by
  unfold lastOf
  rw [filter_cons]
  by_cases own : typed.1 = type
  · simp only [own, decide_true, if_true, getLast?_cons]
    cases (more.filter fun typed => typed.1 = type).getLast? <;> rfl
  · simp only [own, decide_false, Bool.false_eq_true, if_false, Option.or_none]

/-- The two kinds of extension that are looked into are as they should be. -/
def Readable (extensions : List (Nat × List UInt8)) : Prop :=
  ∀ typed ∈ extensions, (typed.1 = 0 → ∃ name, NameList toLowercase typed.2 name) ∧
    (typed.1 = 16 → ∃ names, ProtocolList typed.2 names)

/-- What is found comes from the last extensions of the two types. -/
structure FromLast (found : HelloNames) (extensions : List (Nat × List UInt8)) (out : HelloNames) :
    Prop where
  readable : Readable toLowercase extensions
  serverName : (lastOf 0 extensions).elim (out.serverName = found.serverName) fun data =>
    ∃ name, NameList toLowercase data name ∧ out.serverName = some name
  alpn : (lastOf 16 extensions).elim (out.alpn = found.alpn) fun data =>
    ProtocolList data out.alpn

theorem fromLast {found out : HelloNames} {extensions : List (Nat × List UInt8)}
    (all : ExtendsAll toLowercase found extensions out) :
    FromLast toLowercase found extensions out := by
  induction all with
  | nil => exact ⟨nofun, rfl, rfl⟩
  | @cons found next out typed more first others ih =>
    obtain ⟨readable, serverName, alpn⟩ := ih
    refine ⟨forall_mem_cons.mpr ⟨?_, readable⟩, ?_, ?_⟩
    · rcases first with ⟨sni, name, named, rfl⟩ | ⟨own, names, listed, rfl⟩ | ⟨notSni, notAlpn, rfl⟩
      · exact ⟨fun _ => ⟨name, named⟩, by rw [sni]; nofun⟩
      · exact ⟨by rw [own]; nofun, fun _ => ⟨names, listed⟩⟩
      · exact ⟨fun sni => absurd sni notSni, fun own => absurd own notAlpn⟩
    · rw [lastOf_cons]
      cases last : lastOf 0 more with
      | some data => rwa [last] at serverName
      | none =>
        rw [last] at serverName
        rcases first with ⟨sni, name, named, rfl⟩ | ⟨own, names, listed, rfl⟩ | ⟨notSni, _, rfl⟩
        · simpa [sni] using ⟨name, named, serverName⟩
        · simpa [own] using serverName
        · simpa [notSni] using serverName
    · rw [lastOf_cons]
      cases last : lastOf 16 more with
      | some data => rwa [last] at alpn
      | none =>
        rw [last] at alpn
        rcases first with ⟨sni, name, named, rfl⟩ | ⟨own, names, listed, rfl⟩ | ⟨_, notAlpn, rfl⟩
        · simpa [sni] using alpn
        · replace alpn : out.alpn = names := alpn
          simpa [own, alpn] using listed
        · simpa [notAlpn] using alpn

theorem extendsAll_of_readable (found : HelloNames) (readable : Readable toLowercase extensions) :
    ∃ out, ExtendsAll toLowercase found extensions out := by
  induction extensions generalizing found with
  | nil => exact ⟨found, .nil found⟩
  | cons typed more ih =>
    obtain ⟨here, readable⟩ := forall_mem_cons.mp readable
    obtain ⟨next, first⟩ : ∃ next, Extends toLowercase found typed next := by
      by_cases sni : typed.1 = 0
      · obtain ⟨name, named⟩ := here.1 sni
        exact ⟨_, .inl ⟨sni, name, named, rfl⟩⟩
      · by_cases own : typed.1 = 16
        · obtain ⟨names, listed⟩ := here.2 own
          exact ⟨_, .inr (.inl ⟨own, names, listed, rfl⟩)⟩
        · exact ⟨found, .inr (.inr ⟨sni, own, rfl⟩)⟩
    obtain ⟨out, others⟩ := ih next readable
    exact ⟨out, .cons first others⟩

/-! ## The message -/

/-- The body of a ClientHello with this extension block. -/
def HelloLayout (body block : List UInt8) : Prop :=
  ∃ version random sessionId suites methods ignored,
    body = version ++ (random ++ (sized 1 sessionId ++ (sized 2 suites ++
      (sized 1 methods ++ (sized 2 block ++ ignored))))) ∧
    version.length = 2 ∧ random.length = 32 ∧ sessionId.length < 256 ∧
    suites.length < 256 ^ 2 ∧ methods.length < 256 ∧ block.length < 256 ^ 2

theorem spec_helloBody (front rest : List UInt8) : Spec (helloBody (readerAt front rest)) fun out =>
      ∃ block, HelloLayout rest block ∧ out = readerAt [] block := by
  refine (Spec.field _ (spec_skip 2) fun version _ => Spec.field _ (spec_skip 32) fun random _ =>
    Spec.sizedSkip _ spec_takeU8 (fun _ _ => rfl) fun sessionId _ _ =>
    Spec.sizedSkip _ spec_takeU16 (fun _ _ => rfl) fun suites _ _ =>
    Spec.sizedSkip _ spec_takeU8 (fun _ _ => rfl) fun methods _ _ =>
    Spec.sizedTake (fun block out => readerAt [] block.1 = out) spec_takeU16 (fun _ _ => rfl)
      fun block _ _ => Spec.ok _).congr fun out => ⟨?_, ?_⟩
  · rintro ⟨version, ⟨two, rfl⟩, random, ⟨thirtyTwo, whole⟩, sessionId, ⟨short, next⟩, suites,
      ⟨few, then_⟩, methods, ⟨small, behind⟩, block, ⟨fits, last⟩, rfl⟩
    exact ⟨block.1, ⟨version.1, random.1, sessionId.1, suites.1, methods.1, block.2,
      by rw [whole, next, then_, behind, last], two, thirtyTwo, short, few, small, fits⟩, rfl⟩
  · rintro ⟨block, ⟨version, random, sessionId, suites, methods, ignored, rfl, two, thirtyTwo, short,
      few, small, fits⟩, rfl⟩
    exact ⟨(version, _), ⟨two, rfl⟩, (random, _), ⟨thirtyTwo, rfl⟩, (sessionId, _), ⟨short, rfl⟩,
      (suites, _), ⟨few, rfl⟩, (methods, _), ⟨small, rfl⟩, (block, ignored), ⟨fits, rfl⟩, rfl⟩

theorem spec_helloNames (found : HelloNames) : Spec (match found.serverName with
      | none => throw (.protocol "no SNI extension in ClientHello")
      | some name => return (name, found.alpn)) fun names => found = ⟨some names.1, names.2⟩ := by
  obtain ⟨serverName, alpn⟩ := found
  cases serverName with
  | none => exact (Spec.fail _).congr fun names => by simp
  | some name => exact (Spec.ok (name, alpn)).congr fun names => by simp [Prod.ext_iff]

theorem spec_parseClientHello (bytes : List UInt8) :
    Spec (parseClientHello toLowercase bytes) fun names =>
      ∃ body trailing block extensions,
        (bytes = 1 :: (sized 3 body ++ trailing) ∧ body.length < 256 ^ 3) ∧
        HelloLayout body block ∧
        (block = extensions.flatMap (entry 2) ∧ ∀ typed ∈ extensions, EntryFits 2 typed) ∧
        ExtendsAll toLowercase ⟨none, []⟩ extensions ⟨some names.1, names.2⟩ := by
  refine (Spec.field (fun type names => type.1 = 1 ∧ ∃ body, BeginsSized type.2 3 body ∧
    ∃ block, HelloLayout body.1 block ∧ ∃ found, (∃ extensions,
      (block = extensions.flatMap (entry 2) ∧ ∀ typed ∈ extensions, EntryFits 2 typed) ∧
      ExtendsAll toLowercase ⟨none, []⟩ extensions found) ∧
      found = ⟨some names.1, names.2⟩) (@spec_takeU8 [] bytes) fun type begins => ?_).congr
    fun names => ?_
  · dsimp only
    by_cases hello : type.1 = 1
    · rw [if_neg (by simpa using hello)]
      refine (Spec.sizedTake _ spec_takeU24 (fun _ _ => rfl) fun body _ _ => ?_).congr fun names =>
        (and_iff_right hello).symm
      exact Spec.field _ (spec_helloBody [] body.1) fun block _ => Spec.andThen _
        (spec_helloExtensions toLowercase [] block ⟨none, []⟩ (Nat.lt_succ_self _))
        fun found _ => spec_helloNames found
    · rw [if_pos hello]
      exact (Spec.fail _).congr fun names => by simp [hello]
  · constructor
    · rintro ⟨⟨type, _⟩, ⟨_, rfl⟩, rfl, body, ⟨small, rfl⟩, block, layout, _,
        ⟨extensions, listed, all⟩, rfl⟩
      exact ⟨body.1, body.2, block, extensions, ⟨rfl, small⟩, layout, listed, all⟩
    · rintro ⟨body, trailing, block, extensions, ⟨rfl, small⟩, layout, listed, all⟩
      exact ⟨(1, _), ⟨(by decide : 1 < 256 ^ 1), rfl⟩, rfl, (body, trailing), ⟨small, rfl⟩, block, layout, _,
        ⟨extensions, listed, all⟩, rfl⟩

/-- Whatever the bytes, the parser ends with an error of its own or with the names of a
complete message: the host name of its last name list and the protocols of its last protocol
list. -/
theorem parse_client_hello_exact (bytes : List UInt8) :
    (∀ fault, parseClientHello toLowercase bytes = .error fault →
      ∃ detail, fault = .protocol detail) ∧
    ∀ name alpn, parseClientHello toLowercase bytes = .ok (name, alpn) ↔
      ∃ body trailing block extensions,
        (bytes = 1 :: (sized 3 body ++ trailing) ∧ body.length < 256 ^ 3) ∧
        HelloLayout body block ∧
        (block = extensions.flatMap (entry 2) ∧ ∀ typed ∈ extensions, EntryFits 2 typed) ∧
        Readable toLowercase extensions ∧
        (∃ data, lastOf 0 extensions = some data ∧ NameList toLowercase data name) ∧
        (lastOf 16 extensions).elim (alpn = []) fun data => ProtocolList data alpn := by
  have spec := spec_parseClientHello toLowercase bytes
  refine ⟨spec.orderly, fun name alpn => (spec.exact _).trans ?_⟩
  refine exists_congr fun body => exists_congr fun trailing => exists_congr fun block =>
    exists_congr fun extensions => and_congr_right fun _ => and_congr_right fun _ =>
      and_congr_right fun _ => ⟨fun all => ?_, ?_⟩
  · obtain ⟨readable, serverName, protocols⟩ := fromLast toLowercase all
    refine ⟨readable, ?_, protocols⟩
    cases last : lastOf 0 extensions with
    | none =>
      rw [last] at serverName
      cases serverName
    | some data =>
      rw [last] at serverName
      obtain ⟨_, named, ⟨⟩⟩ := serverName
      exact ⟨data, rfl, named⟩
  · rintro ⟨readable, ⟨data, last, named⟩, protocols⟩
    obtain ⟨⟨serverName, names⟩, all⟩ := extendsAll_of_readable toLowercase ⟨none, []⟩ readable
    obtain ⟨_, isNamed, areNamed⟩ := fromLast toLowercase all
    rw [last] at isNamed
    obtain ⟨other, alsoNamed, rfl⟩ := isNamed
    -- both lists are read by a function
    have oneName := (spec_parseSniExtension toLowercase data).exact
    have oneList := fun data => (spec_parseAlpnExtension data).exact
    obtain rfl := Except.ok.inj (((oneName name).mpr named).symm.trans ((oneName other).mpr alsoNamed))
    obtain rfl : alpn = names := by
      cases last : lastOf 16 extensions with
      | none =>
        rw [last] at protocols areNamed
        exact protocols.trans areNamed.symm
      | some data =>
        rw [last] at protocols areNamed
        exact Except.ok.inj (((oneList data alpn).mpr protocols).symm.trans
          ((oneList data names).mpr areNamed))
    exact all

end ServerName
end KrotRelay.Guarantees
