import KrotRelay.Source.KeyFile

/-!
# The grammar of a rate

`parse_rate_per` accepts the texts of the grammar and nothing else, each with the rate it
writes; `format_rate` writes one of them for every rate.
-/
namespace KrotRelay.Guarantees
open Source Lib List Option

def Blank (text : List Char) : Prop := ∀ c ∈ text, isWhitespace c = true

def periodNames : Period → List String
  | .second => ["s", "sec", "second"]
  | .minute => ["m", "min", "minute"]
  | .hour => ["h", "hr", "hour"]
  | .day => ["d", "day"]
  | .week => ["w", "week"]
  | .month => ["mo", "month"]

/-- The units and their multipliers; an amount without a unit is in bytes. -/
def units : List (String × Nat) :=
  [("", 1), ("B", 1), ("KB", 10 ^ 3), ("kB", 10 ^ 3), ("KiB", 2 ^ 10), ("MB", 10 ^ 6),
    ("MiB", 2 ^ 20), ("GB", 10 ^ 9), ("GiB", 2 ^ 30), ("TB", 10 ^ 12), ("TiB", 2 ^ 40)]

/-- Digits, a unit or nothing, and white space around the two. -/
def AmountText (text : List Char) (bytes : Nat) : Prop :=
  ∃ lead digits gap unit tail mul, text = lead ++ digits ++ gap ++ String.toList unit ++ tail ∧
    Blank lead ∧ Blank gap ∧ Blank tail ∧ digits ≠ [] ∧ (∀ c ∈ digits, c.isDigit = true) ∧
    (unit, mul) ∈ units ∧ Nat.ofDigitChars 10 digits 0 < 2 ^ 64 ∧
    bytes = Nat.ofDigitChars 10 digits 0 * mul ∧ bytes < 2 ^ 64

/-- An amount, the last slash and the name of a period. -/
def RateText (text : List Char) (rate : RatePer) : Prop :=
  ∃ amount name, text = amount ++ '/' :: name ∧ '/' ∉ name ∧
    (∃ known ∈ periodNames rate.period, trim name = known.toList) ∧
    AmountText amount rate.bytes.toNat

theorem ofText_eq_some_iff (name : List Char) (period : Period) :
    Period.ofText name = some period ↔ ∃ known ∈ periodNames period, name = known.toList := by
  constructor
  · intro named
    unfold Period.ofText at named
    split_ifs at named with second minute hour day week month <;> cases named
    · simpa [periodNames] using second
    · simpa [periodNames] using minute
    · simpa [periodNames] using hour
    · simpa [periodNames] using day
    · simpa [periodNames] using week
    · simpa [periodNames] using month
  · rintro ⟨known, listed, rfl⟩
    have read : ([.second, .minute, .hour, .day, .week, .month].all fun period =>
        (periodNames period).all fun known => Period.ofText known.toList == some period) = true := by
      decide +kernel
    have own := List.all_eq_true.mp read period (by cases period <;> simp)
    exact eq_of_beq (List.all_eq_true.mp own known listed)

theorem unitBytes_eq_some_iff (text : List Char) (mul : Nat) :
    unitBytes text = some mul ↔ ∃ unit, (unit, mul) ∈ units ∧ text = unit.toList := by
  constructor
  · intro known
    unfold unitBytes at known
    split_ifs at known with bytes kilo kibi mega mebi giga gibi tera tebi <;> cases known
    · rcases (by simpa only [mem_cons, not_mem_nil, or_false] using bytes :
        text = "".toList ∨ text = "B".toList) with rfl | rfl
      · exact ⟨"", by simp [units], rfl⟩
      · exact ⟨"B", by simp [units], rfl⟩
    · rcases (by simpa only [mem_cons, not_mem_nil, or_false] using kilo :
        text = "KB".toList ∨ text = "kB".toList) with rfl | rfl
      · exact ⟨"KB", by simp [units], rfl⟩
      · exact ⟨"kB", by simp [units], rfl⟩
    · exact ⟨"KiB", by simp [units], kibi⟩
    · exact ⟨"MB", by simp [units], mega⟩
    · exact ⟨"MiB", by simp [units], mebi⟩
    · exact ⟨"GB", by simp [units], giga⟩
    · exact ⟨"GiB", by simp [units], gibi⟩
    · exact ⟨"TB", by simp [units], tera⟩
    · exact ⟨"TiB", by simp [units], tebi⟩
  · rintro ⟨unit, listed, rfl⟩
    have read : (units.all fun entry => unitBytes entry.1.toList == some entry.2) = true := by
      decide +kernel
    exact eq_of_beq (List.all_eq_true.mp read _ listed)

/-- The letters of the names: no white space, no digit, and no sign of the file's syntax. -/
theorem unit_letters {unit : String} {mul : Nat} (listed : (unit, mul) ∈ units) :
    ∀ c ∈ unit.toList, isWhitespace c = false ∧ c.isDigit = false ∧ c ∉ [',', '=', '#'] := by
  have letters : (units.all fun entry => entry.1.toList.all fun c =>
      !isWhitespace c && !c.isDigit && !([',', '=', '#'].contains c)) = true := by
    decide +kernel
  intro c mem
  simpa [and_assoc] using List.all_eq_true.mp (List.all_eq_true.mp letters _ listed) c mem

theorem not_digit_of_blank {text : List Char} (blank : Blank text) :
    ∀ c ∈ text, c.isDigit = false := by
  intro c mem
  have space := blank c mem
  rw [Bool.eq_false_iff]
  intro digit
  have range : 48 ≤ c.toNat ∧ c.toNat ≤ 57 := by
    simpa [Char.isDigit, UInt32.le_iff_toNat_le] using digit
  simp [isWhitespace] at space
  omega

/-- A run of digits is cut off where it ends. -/
theorem digits_cut {digits rest : List Char} (run : ∀ c ∈ digits, c.isDigit = true)
    (stops : ∀ c ∈ rest, c.isDigit = false) : (digits ++ rest).takeWhile isAsciiDigit = digits ∧
      (digits ++ rest).dropWhile isAsciiDigit = rest := by
  have taken : ∀ c ∈ digits, isAsciiDigit c = true := by
    intro c mem
    rw [isAsciiDigit, digitValue_of_isDigit (run c mem), isSome_some]
  have stopped : rest.takeWhile isAsciiDigit = [] ∧ rest.dropWhile isAsciiDigit = rest := by
    cases rest with
    | nil => exact ⟨rfl, rfl⟩
    | cons c rest =>
      have other : isAsciiDigit c = false := by
        rw [Bool.eq_false_iff]
        intro digit
        have digit := isDigit_of_digitValue digit
        rw [stops c mem_cons_self] at digit
        cases digit
      simp [other]
  rw [takeWhile_append_of_pos taken, dropWhile_append_of_pos taken, stopped.1, stopped.2,
    append_nil]
  exact ⟨rfl, rfl⟩

/-- Around the amount white space is taken away; behind the digits too, if there is no unit. -/
theorem trim_amount {lead digits gap tail : List Char} {unit : String} {mul : Nat}
    (blankLead : Blank lead) (blankGap : Blank gap) (blankTail : Blank tail) (some_ : digits ≠ [])
    (run : ∀ c ∈ digits, c.isDigit = true) (listed : (unit, mul) ∈ units) :
    ∃ between, Blank between ∧
      trim (lead ++ digits ++ gap ++ unit.toList ++ tail) = digits ++ (between ++ unit.toList) := by
  have solid : ∀ c ∈ digits, isWhitespace c = false := by
    intro c mem
    rw [Bool.eq_false_iff]
    intro space
    have blank : Blank [c] := by simpa [Blank] using space
    have other := not_digit_of_blank blank c (by simp)
    rw [run c mem] at other
    cases other
  obtain ⟨first, digits, rfl⟩ := exists_cons_of_ne_nil some_
  rw [trim_append_spaces _ _ blankTail, append_assoc, append_assoc,
    trim_spaces_append _ _ blankLead]
  cases letters : unit.toList using List.reverseRecOn with
  | nil =>
    refine ⟨[], by simp [Blank], ?_⟩
    rw [append_nil, trim_append_spaces _ _ blankGap, trim_solid solid, append_nil, append_nil]
  | append_singleton front last =>
    refine ⟨gap, blankGap, ?_⟩
    have ends := (unit_letters listed last (by rw [letters]; simp)).1
    have whole := trim_between first last (digits ++ (gap ++ front)) (solid first (by simp)) ends
    simpa using whole

theorem parseBytes_trim_iff (amount : List Char) (bytes : UInt64) :
    parseBytes (trim amount) = some bytes ↔ AmountText amount bytes.toNat := by
  constructor
  · intro parsed
    unfold parseBytes at parsed
    obtain ⟨n, number, parsed⟩ := bind_eq_some_iff.mp parsed
    obtain ⟨mul, known, parsed⟩ := bind_eq_some_iff.mp parsed
    obtain ⟨unit, listed, unitText⟩ := (unitBytes_eq_some_iff _ _).mp known
    have core := takeWhile_append_dropWhile (p := isAsciiDigit) (l := trim amount)
    have run : ∀ c ∈ (trim amount).takeWhile isAsciiDigit, c.isDigit = true := by
      intro c mem
      have digit : isAsciiDigit c = true := mem_takeWhile_imp mem
      exact isDigit_of_digitValue digit
    generalize (trim amount).takeWhile isAsciiDigit = digits at number core run
    generalize (trim amount).dropWhile isAsciiDigit = rest at unitText core
    have some_ : digits ≠ [] := by
      rintro rfl
      cases number
    rw [parseUnsigned_digits _ run some_] at number
    split at number
    · rename_i small
      cases number
      split at parsed
      · rename_i fits
        cases parsed
        obtain ⟨lead, tail, whole, blankLead, blankTail⟩ := exists_trim amount
        obtain ⟨gap, back, split_, blankGap, blankBack⟩ := exists_trim rest
        refine ⟨lead, digits, gap, unit, back ++ tail, mul, ?_, blankLead, blankGap, ?_, some_, run,
          listed, small, UInt64.toNat_ofNat_of_lt' fits, UInt64.toNat_lt _⟩
        · rw [whole, ← core, split_, unitText]
          simp
        · exact forall_mem_append.mpr ⟨blankBack, blankTail⟩
      · cases parsed
    · cases number
  · rintro ⟨lead, digits, gap, unit, tail, mul, rfl, blankLead, blankGap, blankTail, some_, run,
      listed, small, product, fits⟩
    obtain ⟨between, blankBetween, core⟩ :=
      trim_amount blankLead blankGap blankTail some_ run listed
    have stops : ∀ c ∈ between ++ unit.toList, c.isDigit = false :=
      forall_mem_append.mpr ⟨not_digit_of_blank blankBetween,
        fun c mem => (unit_letters listed c mem).2.1⟩
    obtain ⟨taken, rest⟩ := digits_cut run stops
    have known : unitBytes (trim (between ++ unit.toList)) = some mul := by
      rw [trim_spaces_append _ _ blankBetween,
        trim_solid fun c mem => (unit_letters listed c mem).1]
      exact (unitBytes_eq_some_iff _ _).mpr ⟨unit, listed, rfl⟩
    rw [core, parseBytes, taken, rest, known, parseUnsigned_digits _ run some_, if_pos small]
    simp only [bind_eq_bind, bind_some]
    rw [← product, if_pos fits, UInt64.ofNat_toNat]

theorem parseRatePer_iff (text : List Char) (rate : RatePer) :
    parseRatePer text = some rate ↔ RateText text rate := by
  constructor
  · intro parsed
    unfold parseRatePer at parsed
    obtain ⟨⟨amount, name⟩, split, parsed⟩ := bind_eq_some_iff.mp parsed
    obtain ⟨period, named, parsed⟩ := bind_eq_some_iff.mp parsed
    obtain ⟨bytes, read, parsed⟩ := bind_eq_some_iff.mp parsed
    cases parsed
    obtain ⟨whole, last⟩ := rsplitOnce_eq_some_iff.mp split
    exact ⟨amount, name, whole, last, (ofText_eq_some_iff _ _).mp named,
      (parseBytes_trim_iff _ _).mp read⟩
  · rintro ⟨amount, name, whole, last, named, read⟩
    rw [parseRatePer, rsplitOnce_eq_some_iff.mpr ⟨whole, last⟩]
    simp only [bind_eq_bind, bind_some, (ofText_eq_some_iff _ _).mpr named,
      (parseBytes_trim_iff _ _).mpr read]

/-- A rate has no sign of the file's syntax in it. -/
theorem parseRatePer_plain {text : List Char} {rate : RatePer}
    (parsed : parseRatePer text = some rate) : ∀ c ∈ text, c ∉ [',', '=', '#'] := by
  obtain ⟨amount, name, rfl, -, ⟨known, named, trimmed⟩, lead, digits, gap, unit, tail, mul, rfl,
    blankLead, blankGap, blankTail, -, run, listed, -⟩ := (parseRatePer_iff _ _).mp parsed
  obtain ⟨front, back, whole, blankFront, blankBack⟩ := exists_trim name
  rw [whole, trimmed]
  have ofBlank : ∀ {text : List Char}, Blank text → ∀ c ∈ text, c ∉ [',', '=', '#'] := by
    intro text blank c mem sign
    have space := blank c mem
    rcases (by simpa using sign : c = ',' ∨ c = '=' ∨ c = '#') with rfl | rfl | rfl <;> cases space
  have ofDigits : ∀ c ∈ digits, c ∉ [',', '=', '#'] := by
    intro c mem sign
    have digit := run c mem
    rcases (by simpa using sign : c = ',' ∨ c = '=' ∨ c = '#') with rfl | rfl | rfl <;> cases digit
  have ofName : ∀ c ∈ known.toList, c ∉ [',', '=', '#'] := by
    have letters : ([Period.second, .minute, .hour, .day, .week, .month].all fun period =>
        (periodNames period).all fun known => known.toList.all fun c =>
          !([',', '=', '#'].contains c)) = true := by
      decide +kernel
    have own := List.all_eq_true.mp letters rate.period (by cases rate.period <;> simp)
    intro c mem
    simpa using List.all_eq_true.mp (List.all_eq_true.mp own known named) c mem
  have ofUnit := fun c mem => (unit_letters listed c mem).2.2
  simp only [forall_mem_append, forall_mem_cons]
  exact ⟨⟨⟨⟨⟨ofBlank blankLead, ofDigits⟩, ofBlank blankGap⟩, ofUnit⟩, ofBlank blankTail⟩, by decide,
    ⟨ofBlank blankFront, ofName⟩, ofBlank blankBack⟩

/-- What `format_rate` writes is in the grammar. -/
theorem formatRate_rateText (rate : RatePer) : RateText (formatRate rate).toList rate := by
  have digits : ∀ c ∈ Nat.toDigits 10 rate.bytes.toNat, c.isDigit = true :=
    fun c mem => Nat.isDigit_of_mem_toDigits (by decide) (by decide) mem
  have amount : AmountText (Nat.toDigits 10 rate.bytes.toNat ++ "B".toList) rate.bytes.toNat := by
    refine ⟨[], _, [], "B", [], 1, by simp, by simp [Blank], by simp [Blank], by simp [Blank],
      Nat.toDigits_ne_nil, digits, by simp [units], ?_, ?_, rate.bytes.toNat_lt⟩
    · rw [Nat.ofDigitChars_ten_toDigits]
      exact rate.bytes.toNat_lt
    · rw [Nat.ofDigitChars_ten_toDigits, Nat.mul_one]
  have named : ∀ shown : String, shown ∈ periodNames rate.period →
      trim shown.toList = shown.toList → '/' ∉ shown.toList →
      (formatRate rate).toList = Nat.toDigits 10 rate.bytes.toNat ++ "B/".toList ++ shown.toList →
      RateText (formatRate rate).toList rate := by
    intro shown listed trimmed last written
    rw [written]
    exact ⟨_, shown.toList, by simp, last, ⟨shown, listed, trimmed⟩, amount⟩
  obtain ⟨bytes, period⟩ := rate
  cases period
  · exact named "s" (by simp [periodNames]) (by decide) (by decide) (by simp [formatRate])
  · exact named "m" (by simp [periodNames]) (by decide) (by decide) (by simp [formatRate])
  · exact named "h" (by simp [periodNames]) (by decide) (by decide) (by simp [formatRate])
  · exact named "day" (by simp [periodNames]) (by decide) (by decide) (by simp [formatRate])
  · exact named "week" (by simp [periodNames]) (by decide) (by decide) (by simp [formatRate])
  · exact named "month" (by simp [periodNames]) (by decide) (by decide) (by simp [formatRate])

/-- `parse_rate_per` accepts exactly the texts of the grammar, and reads back every rate the
admin API shows. -/
theorem rate_grammar : (∀ text rate, parseRatePer text = some rate ↔ RateText text rate) ∧
      ∀ rate, parseRatePer (formatRate rate).toList = some rate :=
  ⟨parseRatePer_iff, fun rate => (parseRatePer_iff _ _).mpr (formatRate_rateText rate)⟩

end KrotRelay.Guarantees
