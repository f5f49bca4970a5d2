import KrotRelay.Lib.Bytes
import KrotRelay.Source.DataPath
import KrotRelay.Guarantees.Registration

/-!
# Labels and the hosts that reach them

`is_valid_label` checks the bytes of a label against its grammar; the two routers take a
label back out of a host name. A host is taken for a label's by either of them exactly when
it is the host of the label's public URL, in any case.
-/
namespace KrotRelay.Guarantees
open Source Lib List

/-! ## The grammar -/

/-- `[a-z0-9]`. -/
def lowerAlnum (c : Char) : Bool := ('a' ≤ c && c ≤ 'z') || ('0' ≤ c && c ≤ '9')

/-- `^[a-z0-9]([a-z0-9-]{0,61}[a-z0-9])?$`, over the given letters. -/
def Grammar {α : Type} (alnum : α → Bool) (hyphen : α) (text : List α) : Prop :=
  ∃ first, alnum first = true ∧ (text = [first] ∨ ∃ middle last, text = first :: (middle ++ [last]) ∧
    middle.length ≤ 61 ∧ (∀ c ∈ middle, alnum c = true ∨ c = hyphen) ∧ alnum last = true)

section Letters
variable {α β : Type} {alnum : α → Bool} {hyphen : α} {text : List α}

theorem Grammar.letters (matched : Grammar alnum hyphen text) : ∀ c ∈ text, alnum c = true ∨ c = hyphen := by
  obtain ⟨first, starts, rfl | ⟨middle, last, rfl, _, inside, ends⟩⟩ := matched
  · simpa using .inl starts
  · intro c mem
    simp only [mem_cons, mem_append, not_mem_nil, or_false] at mem
    rcases mem with rfl | within | rfl
    · exact .inl starts
    · exact inside c within
    · exact .inl ends

theorem Grammar.map {alnum' : β → Bool} (matched : Grammar alnum hyphen text) (f : α → β)
    (kept : ∀ c, alnum c = true → alnum' (f c) = true) : Grammar alnum' (f hyphen) (text.map f) := by
  obtain ⟨first, starts, rfl | ⟨middle, last, rfl, short, inside, ends⟩⟩ := matched
  · exact ⟨f first, kept _ starts, .inl rfl⟩
  · refine ⟨f first, kept _ starts, .inr ⟨middle.map f, f last, by simp, by simpa using short, ?_,
      kept _ ends⟩⟩
    intro c mem
    obtain ⟨letter, within, rfl⟩ := mem_map.mp mem
    exact (inside letter within).imp (kept letter) (congrArg f)

end Letters

/-- The checks on the bytes are the grammar. -/
theorem isValidLabel_bytes (label : String) : isValidLabel label = true ↔
      label ≠ "admin" ∧ Grammar isAlnum 45 (utf8 label) := by
  unfold isValidLabel Grammar
  rw [show label.toUTF8.data.toList = utf8 label from rfl]
  by_cases reserved : label = "admin"
  · simp [reserved]
  generalize utf8 label = bytes
  simp only [beq_iff_eq, reserved, if_false, ne_eq, not_false_eq_true, true_and]
  cases bytes with
  | nil => simp
  | cons first rest =>
    cases rest using List.reverseRecOn with
    | nil => simp
    | append_singleton middle last =>
      have whole : (first :: (middle ++ [last])).length = middle.length + 2 := by simp
      have ends : (first :: (middle ++ [last])).getD (middle.length + 1) 0 = last := by simp
      have inner : ((first :: (middle ++ [last])).drop 1).take middle.length = middle := by simp
      have checked : (if !(1 ≤ middle.length + 2 && middle.length + 2 ≤ 63) then false
          else if !isAlnum first || !isAlnum last then false
          else if middle.length + 2 < 3 then true
          else middle.all fun byte => isAlnum byte || byte == 45) = true ↔
          isAlnum first = true ∧ middle.length ≤ 61 ∧
            (∀ c ∈ middle, isAlnum c = true ∨ c = 45) ∧ isAlnum last = true := by
        have short_ : (if middle.length + 2 < 3 then true
            else middle.all fun byte => isAlnum byte || byte == 45) =
            middle.all fun byte => isAlnum byte || byte == 45 := by
          split
          · rename_i none
            rw [eq_nil_of_length_eq_zero (by omega : middle.length = 0)]
            rfl
          · rfl
        rw [short_]
        by_cases fits : middle.length ≤ 61
        · cases isAlnum first <;> cases isAlnum last <;> simp [fits]
        · simp [fits]
      rw [whole, show middle.length + 2 - 1 = middle.length + 1 from rfl, ends, Nat.add_sub_cancel, inner]
      refine checked.trans ⟨fun ⟨starts, rest⟩ => ⟨first, starts, .inr ⟨middle, last, rfl, rest⟩⟩, ?_⟩
      rintro ⟨_, starts, single | ⟨_, _, same, rest⟩⟩
      · simp at single
      · obtain ⟨rfl, tail⟩ := List.cons.inj same
        obtain ⟨rfl, end_⟩ := append_inj' tail rfl
        cases end_
        exact ⟨starts, rest⟩

/-- The letters of a label as bytes and as characters. -/
theorem letter_byte (letter : isAlnum byte = true ∨ byte = 45) :
    (Char.ofNat byte.toNat).toNat = byte.toNat ∧ byte.toNat < 128 ∧
      (isAlnum byte = true → lowerAlnum (Char.ofNat byte.toNat) = true) := by
  have every : ∀ n < 256, isAlnum (UInt8.ofNat n) = true ∨ UInt8.ofNat n = 45 →
      (Char.ofNat n).toNat = n ∧ n < 128 ∧
        (isAlnum (UInt8.ofNat n) = true → lowerAlnum (Char.ofNat n) = true) := by
    decide +kernel
  have here := every byte.toNat byte.toNat_lt
  rw [UInt8.ofNat_toNat] at here
  exact here letter

theorem letter_char (letter : lowerAlnum c = true) :
    c.toNat < 128 ∧ isAlnum (UInt8.ofNat c.toNat) = true ∧ c.toLower = c ∧ c ≠ ':' ∧
      isWhitespace c = false := by
  have every : ∀ n < 128, lowerAlnum (Char.ofNat n) = true →
      isAlnum (UInt8.ofNat n) = true ∧ (Char.ofNat n).toLower = Char.ofNat n ∧
        Char.ofNat n ≠ ':' ∧ isWhitespace (Char.ofNat n) = false := by
    decide +kernel
  have small : c.toNat < 128 := by
    simp only [lowerAlnum, Bool.or_eq_true, Bool.and_eq_true, decide_eq_true_eq, Char.le_def,
      UInt32.le_iff_toNat_le] at letter
    rw [Char.toNat]
    rcases letter with ⟨_, below⟩ | ⟨_, below⟩ <;> exact Nat.lt_of_le_of_lt below (by decide)
  have here := every c.toNat small
  rw [Char.ofNat_toNat] at here
  exact ⟨small, here letter⟩

theorem isValidLabel_iff (label : String) :
    isValidLabel label = true ↔ label ≠ "admin" ∧ Grammar lowerAlnum '-' label.toList := by
  rw [isValidLabel_bytes]
  refine and_congr_right fun _ => ⟨fun matched => ?_, fun matched => ?_⟩
  · have letters := matched.letters
    have back : ∀ byte ∈ utf8 label, UInt8.ofNat (Char.ofNat byte.toNat).toNat = byte := by
      intro byte mem
      rw [(letter_byte (letters byte mem)).1, UInt8.ofNat_toNat]
    have text : label = String.ofList ((utf8 label).map fun byte => Char.ofNat byte.toNat) := by
      rw [← utf8_inj, utf8_ascii, map_map]
      · exact (map_congr_left back).trans (map_id _) |>.symm
      · intro c mem
        obtain ⟨byte, listed, rfl⟩ := mem_map.mp mem
        have ⟨same, small, _⟩ := letter_byte (letters byte listed)
        rwa [same]
    rw [text, String.toList_ofList]
    exact matched.map _ fun byte letter => (letter_byte (.inl letter)).2.2 letter
  · have bytes : utf8 label = label.toList.map fun c => UInt8.ofNat c.toNat := by
      rw [← utf8_ascii, String.ofList_toList]
      intro c mem
      rcases matched.letters c mem with letter | rfl
      · exact (letter_char letter).1
      · decide
    rw [bytes]
    exact matched.map _ fun c letter => (letter_char letter).2.1

/-! ## The routers -/

theorem toLower_cases (c : Char) :
    c.toLower = c ∨ 65 ≤ c.toNat ∧ c.toNat ≤ 90 ∧ c.toLower.toNat = c.toNat + 32 := by
  unfold Char.toLower
  split
  · rename_i upper
    right
    simp only [ge_iff_le, UInt32.le_iff_toNat_le] at upper
    have low : 65 ≤ c.val.toNat := upper.1
    have high : c.val.toNat ≤ 90 := upper.2
    refine ⟨low, high, ?_⟩
    show (c.val + 32).toNat = c.val.toNat + 32
    rw [UInt32.toNat_add]
    exact Nat.mod_eq_of_lt (by show c.val.toNat + 32 < 2 ^ 32; omega)
  · exact .inl rfl

/-- Lower-casing neither makes nor removes white space. -/
theorem isWhitespace_toLower (c : Char) : isWhitespace c.toLower = isWhitespace c := by
  rcases toLower_cases c with same | ⟨low, high, lowered⟩
  · rw [same]
  · rw [Bool.eq_iff_iff]
    simp only [isWhitespace, lowered, Bool.or_eq_true, Bool.and_eq_true, decide_eq_true_eq,
      beq_iff_eq]
    omega

theorem toLower_eq_colon {c : Char} (colon : c.toLower = ':') : c = ':' := by
  rcases toLower_cases c with same | ⟨low, high, lowered⟩
  · rw [← same, colon]
  · rw [colon, show ':'.toNat = 58 from rfl] at lowered
    omega

theorem asciiLower_label {label : String} (valid : isValidLabel label = true) (apex : String) :
    asciiLower (label ++ "." ++ apex).toList = label.toList ++ '.' :: asciiLower apex.toList := by
  have own : label.toList.map Char.toLower = label.toList := by
    refine (map_congr_left fun c mem => ?_).trans (map_id _)
    rcases ((isValidLabel_iff label).mp valid).2.letters c mem with letter | rfl
    · exact (letter_char letter).2.2.1
    · rfl
  simp only [asciiLower, String.toList_append, map_append, own, append_assoc]
  rfl

/-- What is left of a host in front of the apex. -/
theorem labelOf_eq_some_iff (host apex : List Char) (label : String) :
    labelOf host apex = some label ↔ asciiLower host = label.toList ++ '.' :: asciiLower apex := by
  unfold labelOf
  dsimp only
  constructor
  · intro found
    split at found
    · cases found
    · split at found
      · rename_i ends
        obtain ⟨front, whole⟩ := isSuffixOf_iff_suffix.mp ends
        have label := Option.some.inj found
        rw [← whole, length_append, Nat.add_sub_cancel, take_left] at label
        rw [← whole, ← label, String.toList_ofList]
      · cases found
  · intro whole
    have longer : asciiLower host ≠ asciiLower apex := by
      intro same
      have lengths := congrArg List.length (whole.symm.trans same)
      simp only [length_append, length_cons] at lengths
      omega
    rw [if_neg longer, whole, if_pos (isSuffixOf_iff_suffix.mpr (suffix_append _ _)),
      length_append, Nat.add_sub_cancel, take_left, String.ofList_toList]

/-- The host of a header, up to the port and without the white space around it. -/
theorem host_isolated {host before after tail : List Char} (noColon : ':' ∉ host)
    (solid : ∀ c ∈ host, isWhitespace c = false) (front : ∀ c ∈ before, isWhitespace c = true)
    (back : ∀ c ∈ after, isWhitespace c = true) (port : tail = [] ∨ tail.head? = some ':') :
    trim ((before ++ host ++ after ++ tail).takeWhile (· != ':')) = host := by
  have plain : ∀ c ∈ before ++ host ++ after, (c != ':') = true := by
    intro c mem
    rw [bne_iff_ne]
    rintro rfl
    simp only [mem_append, noColon, or_false] at mem
    rcases mem with blank | blank
    · exact absurd (front _ blank) (by decide)
    · exact absurd (back _ blank) (by decide)
  have cut : tail.takeWhile (· != ':') = [] := by
    rcases port with rfl | colon
    · rfl
    · obtain ⟨rest, rfl⟩ := head?_eq_some_iff.mp colon
      rfl
  rw [takeWhile_append_of_pos plain, cut, append_nil, trim_append_spaces _ _ back,
    trim_spaces_append _ _ front, trim_solid solid]

/-- The label grammar is what is checked, a host in any case is taken back to its label by
both routers, and a label is found only in the host of its public URL. The ClientHello
parser has lower-cased an HTTPS name before. -/
theorem label_routing (apex : String) : (∀ label, isValidLabel label = true ↔
      label ≠ "admin" ∧ Grammar lowerAlnum '-' label.toList) ∧
    ∀ label, isValidLabel label = true →
      (∀ host, asciiLower host = asciiLower (label ++ "." ++ apex).toList →
        extractSniLabel (String.ofList host) apex = some label ∧
        (':' ∉ apex.toList → (∀ c ∈ apex.toList, isWhitespace c = false) →
          ∀ before after tail, (∀ c ∈ before, isWhitespace c = true) →
            (∀ c ∈ after, isWhitespace c = true) → (tail = [] ∨ tail.head? = some ':') →
            extractHostLabel (String.ofList (before ++ host ++ after ++ tail)) apex = some label)) ∧
      (∀ name, extractSniLabel name apex = some label →
        asciiLower name.toList = asciiLower (label ++ "." ++ apex).toList) ∧
      (∀ header, extractHostLabel header apex = some label →
        asciiLower (trim (header.toList.takeWhile (· != ':'))) =
          asciiLower (label ++ "." ++ apex).toList) ∧
      ∀ host publicPort, Announces (.domain apex) ("https://" ++ host) publicPort (.http label) →
        host = label ++ "." ++ apex := by
  refine ⟨isValidLabel_iff, fun label valid => ⟨fun host variation => ?_, fun name found => ?_,
    fun header found => ?_, ?_⟩⟩
  · have found : labelOf host apex.toList = some label := by
      rw [labelOf_eq_some_iff, variation, asciiLower_label valid]
    refine ⟨by rw [extractSniLabel, String.toList_ofList, found], ?_⟩
    intro noColon solid before after tail front back port
    have plain : ∀ c ∈ (label ++ "." ++ apex).toList, c ≠ ':' ∧ isWhitespace c = false := by
      intro c member
      rw [String.toList_append, String.toList_append, mem_append, mem_append] at member
      rcases member with (inLabel | dot) | inApex
      · rcases ((isValidLabel_iff label).mp valid).2.letters c inLabel with letter | rfl
        · exact (letter_char letter).2.2.2
        · decide
      · obtain rfl : c = '.' := by simpa using dot
        decide
      · exact ⟨fun colon => noColon (colon ▸ inApex), solid c inApex⟩
    have origin : ∀ c ∈ host, ∃ d, (d ≠ ':' ∧ isWhitespace d = false) ∧ d.toLower = c.toLower := by
      intro c member
      have lowered : c.toLower ∈ asciiLower host := mem_map_of_mem member
      rw [variation] at lowered
      obtain ⟨d, listed, same⟩ := mem_map.mp lowered
      exact ⟨d, plain d listed, same⟩
    rw [extractHostLabel, String.toList_ofList, host_isolated ?_ ?_ front back port, found]
    · intro member
      obtain ⟨d, ⟨noColon, _⟩, same⟩ := origin _ member
      exact noColon (toLower_eq_colon same)
    · intro c member
      obtain ⟨d, ⟨_, solid⟩, same⟩ := origin c member
      rw [← isWhitespace_toLower, ← same, isWhitespace_toLower, solid]
  · rw [asciiLower_label valid]
    exact (labelOf_eq_some_iff _ _ _).mp found
  · rw [asciiLower_label valid]
    exact (labelOf_eq_some_iff _ _ _).mp found
  · rintro host publicPort ⟨⟨_, ⟨⟩, url⟩, _⟩
    rw [← String.toList_inj] at url ⊢
    simpa using url

end KrotRelay.Guarantees
