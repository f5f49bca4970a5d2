import Mathlib.Algebra.Group.Nat.Defs
import Mathlib.Data.List.DropRight
import Mathlib.Tactic.Common

/-!
Text as a list of characters, with the string operations line-oriented formats are read
with: trimming, splitting at white space, lines, decimal numbers. White space is Unicode's
`White_Space`; only a line feed ends a line, and a carriage return before it goes with it.

A reader that trims every line and skips the blank ones sees a text through `contentLines`.
-/
namespace KrotRelay.Lib
open List

/-- Unicode `White_Space`. -/
def isWhitespace (c : Char) : Bool :=
  let n := c.toNat
  (9 ≤ n && n ≤ 13) || n == 32 || n == 0x85 || n == 0xA0 || n == 0x1680 ||
    (0x2000 ≤ n && n ≤ 0x200A) || n == 0x2028 || n == 0x2029 || n == 0x202F || n == 0x205F ||
    n == 0x3000

def trimStart (text : List Char) : List Char := text.dropWhile isWhitespace

def trimEnd (text : List Char) : List Char := text.rdropWhile isWhitespace

def trim (text : List Char) : List Char := trimEnd (trimStart text)

/-- The maximal runs without white space. -/
def splitWhitespace (text : List Char) : List (List Char) :=
  (text.splitOnP isWhitespace).filter fun word => !word.isEmpty

/-- The parts before and after the first separator. -/
def splitOnce (sep : Char) (text : List Char) : Option (List Char × List Char) :=
  if text.contains sep then
    some (text.takeWhile (· != sep), (text.dropWhile (· != sep)).tail)
  else none

/-- The parts before and after the last separator. -/
def rsplitOnce (sep : Char) (text : List Char) : Option (List Char × List Char) :=
  (splitOnce sep text.reverse).map fun (after, before) => (before.reverse, after.reverse)

def stripCr (line : List Char) : List Char :=
  if line.getLast? = some '\r' then line.dropLast else line

/-- The lines of a text; what follows the last line feed is a line if it is not empty. -/
def lines (text : List Char) : List (List Char) :=
  let segments := text.splitOn '\n'
  let rest := segments.getLast?.getD []
  segments.dropLast.map stripCr ++ if rest.isEmpty then [] else [rest]

def digitValue (c : Char) : Option Nat :=
  if 48 ≤ c.toNat ∧ c.toNat ≤ 57 then some (c.toNat - 48) else none

/-- A non-empty run of decimal digits. -/
def readDigits (text : List Char) : Option Nat :=
  if text.isEmpty then none
  else text.foldl (fun value c => do return 10 * (← value) + (← digitValue c)) (some 0)

/-- An unsigned number below `bound`, with at most one leading plus sign. -/
def parseUnsigned (bound : Nat) (text : List Char) : Option Nat := do
  let value ← readDigits (if text.head? = some '+' then text.tail else text)
  if value < bound then some value else none

section Spaces
variable {β : Type} (f : List Char → β)

/-- What does not see one space in front of a text sees no number of them. -/
theorem spaces_append (one : ∀ c, isWhitespace c = true → ∀ text, f (c :: text) = f text)
    (spaces text : List Char) (blank : ∀ c ∈ spaces, isWhitespace c = true) :
    f (spaces ++ text) = f text := by
  induction spaces with
  | nil => rfl
  | cons c _ ih =>
    rw [cons_append, one c (blank c (by simp))]
    exact ih fun x mem => blank x (by simp [mem])

theorem append_spaces (one : ∀ c, isWhitespace c = true → ∀ text, f (text ++ [c]) = f text)
    (text spaces : List Char) (blank : ∀ c ∈ spaces, isWhitespace c = true) :
    f (text ++ spaces) = f text := by
  induction spaces using List.reverseRecOn with
  | nil => rw [append_nil]
  | append_singleton _ c ih =>
    rw [← append_assoc, one c (blank c (by simp))]
    exact ih fun x mem => blank x (by simp [mem])

end Spaces

section Trim

theorem trim_cons (c : Char) (space : isWhitespace c = true) (text : List Char) :
    trim (c :: text) = trim text := by
  simp [trim, trimStart, space]

theorem trim_concat (c : Char) (space : isWhitespace c = true) (text : List Char) :
    trim (text ++ [c]) = trim text := by
  unfold trim trimStart
  rw [dropWhile_append]
  split
  · rename_i blank
    have none : [c].dropWhile isWhitespace = [] := by simp [space]
    rw [List.isEmpty_iff.mp blank, none]
  · exact rdropWhile_concat_pos _ _ _ space

theorem trim_append_spaces (text spaces : List Char) (blank : ∀ c ∈ spaces, isWhitespace c = true) :
    trim (text ++ spaces) = trim text := append_spaces trim trim_concat text spaces blank

theorem trim_spaces_append (spaces text : List Char) (blank : ∀ c ∈ spaces, isWhitespace c = true) :
    trim (spaces ++ text) = trim text := spaces_append trim trim_cons spaces text blank

/-- What trimming takes away is white space on both sides. -/
theorem exists_trim (text : List Char) :
    ∃ lead tail, text = lead ++ trim text ++ tail ∧ (∀ c ∈ lead, isWhitespace c = true) ∧
      ∀ c ∈ tail, isWhitespace c = true := by
  refine ⟨text.takeWhile isWhitespace, (trimStart text).rtakeWhile isWhitespace, ?_, ?_, ?_⟩
  · rw [append_assoc, trim, trimEnd, rdropWhile_append_rtakeWhile, trimStart,
      takeWhile_append_dropWhile]
  · exact fun c mem => mem_takeWhile_imp mem
  · exact fun c mem => mem_rtakeWhile_imp mem

theorem of_trim {β : Type} (f : List Char → β)
    (front : ∀ c, isWhitespace c = true → ∀ text, f (c :: text) = f text)
    (back : ∀ c, isWhitespace c = true → ∀ text, f (text ++ [c]) = f text) (text : List Char) :
    f (trim text) = f text := by
  obtain ⟨lead, tail, whole, before, after⟩ := exists_trim text
  conv_rhs => rw [whole]
  rw [append_spaces f back _ _ after, spaces_append f front _ _ before]

theorem trim_idem (text : List Char) : trim (trim text) = trim text :=
  of_trim trim trim_cons trim_concat text

theorem trim_eq_nil_iff (text : List Char) : trim text = [] ↔ ∀ c ∈ text, isWhitespace c = true := by
  constructor
  · intro empty
    obtain ⟨lead, tail, whole, before, after⟩ := exists_trim text
    rw [empty, append_nil] at whole
    rw [whole]
    intro c mem
    rcases mem_append.mp mem with mem | mem
    · exact before c mem
    · exact after c mem
  · intro blank
    have := trim_append_spaces [] text blank
    rwa [nil_append] at this

theorem trim_between (first last : Char) (middle : List Char)
    (starts : isWhitespace first = false) (ends : isWhitespace last = false) :
    trim (first :: (middle ++ [last])) = first :: (middle ++ [last]) := by
  unfold trim trimStart trimEnd
  rw [dropWhile_cons_of_neg (by simp [starts]), ← cons_append,
    rdropWhile_concat_neg _ _ _ (by simp [ends])]

theorem trim_solid {text : List Char} (solid : ∀ c ∈ text, isWhitespace c = false) :
    trim text = text := by
  obtain ⟨lead, tail, whole, before, after⟩ := exists_trim text
  have empty : ∀ part : List Char, (∀ c ∈ part, c ∈ text) → (∀ c ∈ part, isWhitespace c = true) →
      part = [] := by
    intro part inside blank
    refine eq_nil_iff_forall_not_mem.mpr fun c mem => ?_
    have := solid c (inside c mem)
    rw [blank c mem] at this
    cases this
  have noLead := empty lead (fun c mem => by rw [whole]; simp [mem]) before
  have noTail := empty tail (fun c mem => by rw [whole]; simp [mem]) after
  rw [noLead, noTail, nil_append, append_nil] at whole
  exact whole.symm

theorem trim_stripCr (line : List Char) : trim (stripCr line) = trim line := by
  unfold stripCr
  split
  · rename_i ends
    obtain ⟨front, rfl⟩ := getLast?_eq_some_iff.mp ends
    rw [dropLast_concat, trim_concat '\r' (by decide)]
  · rfl

end Trim

section ContentLines

/-- The lines of a text that are not blank, trimmed. -/
def contentLines (text : List Char) : List (List Char) :=
  ((lines text).map trim).filter fun line => !line.isEmpty

/-- Carriage returns and a missing last line feed make no difference to them. -/
theorem contentLines_eq (text : List Char) :
    contentLines text = ((text.splitOn '\n').map trim).filter fun line => !line.isEmpty := by
  have split : text.splitOn '\n' =
      (text.splitOn '\n').dropLast ++ [(text.splitOn '\n').getLast?.getD []] := by
    rw [getLast?_eq_some_getLast (splitOn_ne_nil _ _), Option.getD_some, dropLast_append_getLast]
  unfold contentLines lines
  dsimp only
  conv_rhs => rw [split]
  simp only [map_append, filter_append, map_map, map_cons, map_nil]
  congr 1
  · congr 1
    refine map_congr_left fun line _ => ?_
    exact trim_stripCr line
  · split
    · rename_i empty
      rw [List.isEmpty_iff.mp empty]
      rfl
    · rfl

@[simp] theorem contentLines_nil : contentLines [] = [] := rfl

theorem contentLines_append (first second : List Char) :
    contentLines (first ++ '\n' :: second) = contentLines first ++ contentLines second := by
  simp only [contentLines_eq, splitOn_append_cons_self, map_append, filter_append]

/-- White space in front of a text changes no content line. -/
theorem contentLines_cons (c : Char) (space : isWhitespace c = true) (text : List Char) :
    contentLines (c :: text) = contentLines text := by
  rw [contentLines_eq, contentLines_eq, splitOn_cons_eq_if_modifyHead]
  split
  · simp [trim, trimStart, trimEnd]
  · cases segments : text.splitOn '\n' with
    | nil => exact absurd segments (splitOn_ne_nil _ _)
    | cons =>
      simp only [modifyHead_cons, map_cons, trim_cons c space]

/-- Nor does white space behind it. -/
theorem contentLines_concat (c : Char) (space : isWhitespace c = true) (text : List Char) :
    contentLines (text ++ [c]) = contentLines text := by
  by_cases ends : c = '\n'
  · subst ends
    rw [contentLines_append, contentLines_nil, append_nil]
  · induction size : text.length using Nat.strong_induction_on generalizing text with
    | _ size ih =>
      by_cases broken : '\n' ∈ text
      · -- only the part behind a line feed gets the character
        obtain ⟨front, back, rfl⟩ := append_of_mem broken
        rw [append_assoc, cons_append, contentLines_append, contentLines_append,
          ih back.length (by simp at size; omega) back rfl]
      · have whole : '\n' ∉ text ++ [c] := by
          simp only [mem_append, mem_singleton, not_or]
          exact ⟨broken, fun same => ends same.symm⟩
        rw [contentLines_eq, contentLines_eq, splitOn_eq_singleton broken, splitOn_eq_singleton
          whole, map_singleton, map_singleton, trim_concat c space]

theorem contentLines_trim (text : List Char) : contentLines (trim text) = contentLines text :=
  of_trim contentLines contentLines_cons contentLines_concat text

/-- A text with a core free of line feeds is one content line. -/
theorem contentLines_single (text : List Char) (single : '\n' ∉ trim text)
    (nonempty : trim text ≠ []) : contentLines text = [trim text] := by
  rw [← contentLines_trim, contentLines_eq, splitOn_eq_singleton single, map_singleton, trim_idem]
  simp [nonempty]

theorem mem_splitOn_not_mem (sep : Char) (text piece : List Char) (mem : piece ∈ text.splitOn sep) :
    sep ∉ piece := by
  induction text generalizing piece with
  | nil =>
    rw [splitOn_nil, mem_singleton] at mem
    simp [mem]
  | cons c text ih =>
    rw [splitOn_cons_eq_if_modifyHead] at mem
    split at mem
    · rcases mem_cons.mp mem with rfl | mem
      · exact not_mem_nil
      · exact ih piece mem
    · rename_i other
      cases pieces : text.splitOn sep with
      | nil => exact absurd pieces (splitOn_ne_nil _ _)
      | cons first =>
        rw [pieces] at mem ih
        rcases mem_cons.mp mem with rfl | mem
        · simp only [mem_cons, not_or]
          exact ⟨fun same => other (by simp [same]), ih first mem_cons_self⟩
        · exact ih piece (mem_cons_of_mem _ mem)

theorem mem_lines_single (text line : List Char) (mem : line ∈ lines text) : '\n' ∉ line := by
  have pieces := mem_splitOn_not_mem '\n' text
  unfold lines at mem
  dsimp only at mem
  rcases mem_append.mp mem with mem | mem
  · obtain ⟨piece, kept, rfl⟩ := mem_map.mp mem
    have lacks := pieces piece (dropLast_subset _ kept)
    unfold stripCr
    split
    · exact fun found => lacks (dropLast_subset _ found)
    · exact lacks
  · split at mem
    · cases mem
    · cases mem_singleton.mp mem
      rw [getLast?_eq_some_getLast (splitOn_ne_nil _ _), Option.getD_some]
      exact pieces _ (getLast_mem _)

theorem splitOn_unlines (rows : List (List Char)) (single : ∀ row ∈ rows, '\n' ∉ row) :
    (rows.map (· ++ ['\n'])).flatten.splitOn '\n' = rows ++ [[]] := by
  induction rows with
  | nil => rfl
  | cons row _ ih =>
    rw [map_cons, flatten_cons, append_assoc, singleton_append,
      splitOn_append_cons_self, splitOn_eq_singleton (single row mem_cons_self),
      ih fun other mem => single other (mem_cons_of_mem _ mem)]
    rfl

/-- Lines written out one after the other, each ended by a line feed, are read back up to a
carriage return at their end. -/
theorem lines_unlines (rows : List (List Char)) (single : ∀ row ∈ rows, '\n' ∉ row) :
    lines (rows.map (· ++ ['\n'])).flatten = rows.map stripCr := by
  unfold lines
  simp only [splitOn_unlines rows single, getLast?_concat, Option.getD_some,
    dropLast_concat, isEmpty_nil, if_true, append_nil]

theorem contentLines_unlines (rows : List (List Char)) (single : ∀ row ∈ rows, '\n' ∉ row) :
    contentLines (rows.map (· ++ ['\n'])).flatten =
      (rows.map trim).filter fun row => !row.isEmpty := by
  induction rows with
  | nil => rfl
  | cons row _ ih =>
    have lacks := single row mem_cons_self
    rw [map_cons, flatten_cons, append_assoc, singleton_append,
      contentLines_append, ih fun other mem => single other (mem_cons_of_mem _ mem),
      contentLines_eq, splitOn_eq_singleton lacks, map_singleton, map_cons,
      filter_cons, filter_cons]
    split <;> rfl

end ContentLines

section Words

theorem splitWhitespace_append_cons (before after : List Char) {c : Char}
    (space : isWhitespace c = true) :
    splitWhitespace (before ++ c :: after) = splitWhitespace before ++ splitWhitespace after := by
  unfold splitWhitespace
  rw [splitOnP_append_cons _ _ space, filter_append]

theorem splitWhitespace_spaces_append (spaces text : List Char)
    (blank : ∀ c ∈ spaces, isWhitespace c = true) :
    splitWhitespace (spaces ++ text) = splitWhitespace text :=
  spaces_append _ (fun _ space text => splitWhitespace_append_cons [] text space) spaces text blank

/-- White space between two texts keeps their words apart. -/
theorem splitWhitespace_append_spaces_append (before spaces after : List Char)
    (blank : ∀ c ∈ spaces, isWhitespace c = true) (nonempty : spaces ≠ []) :
    splitWhitespace (before ++ (spaces ++ after)) =
      splitWhitespace before ++ splitWhitespace after := by
  obtain ⟨c, rest, rfl⟩ := exists_cons_of_ne_nil nonempty
  rw [cons_append, splitWhitespace_append_cons _ _ (blank c mem_cons_self),
    splitWhitespace_spaces_append rest after fun x mem => blank x (mem_cons_of_mem _ mem)]

theorem splitWhitespace_concat (c : Char) (space : isWhitespace c = true) (text : List Char) :
    splitWhitespace (text ++ [c]) = splitWhitespace text :=
  (splitWhitespace_append_cons text [] space).trans (append_nil _)

theorem splitWhitespace_append_spaces (text spaces : List Char)
    (blank : ∀ c ∈ spaces, isWhitespace c = true) :
    splitWhitespace (text ++ spaces) = splitWhitespace text :=
  append_spaces splitWhitespace splitWhitespace_concat text spaces blank

theorem splitWhitespace_trim (text : List Char) : splitWhitespace (trim text) = splitWhitespace text :=
  of_trim _ (fun _ space text => splitWhitespace_append_cons [] text space) splitWhitespace_concat text

theorem splitWhitespace_word {word : List Char} (solid : ∀ c ∈ word, isWhitespace c = false)
    (nonempty : word ≠ []) : splitWhitespace word = [word] := by
  have whole : word.splitOnP isWhitespace = [word] :=
    splitOnP_eq_singleton solid
  unfold splitWhitespace
  rw [whole]
  simp [nonempty]

/-- Nothing, or a text that begins with white space. -/
def Detached (text : List Char) : Prop := ∀ c, text.head? = some c → isWhitespace c = true

theorem splitWhitespace_word_append {word back : List Char}
    (solid : ∀ c ∈ word, isWhitespace c = false) (nonempty : word ≠ []) (detached : Detached back) :
    splitWhitespace (word ++ back) = word :: splitWhitespace back := by
  cases back with
  | nil => rw [append_nil, splitWhitespace_word solid nonempty]; rfl
  | cons c rest =>
    have space := detached c rfl
    rw [splitWhitespace_append_cons _ _ space, splitWhitespace_word solid nonempty]
    exact congrArg _ (splitWhitespace_append_cons [] rest space).symm

theorem exists_first_word {text : List Char} {c : Char} (begins : text.head? = some c)
    (solid : isWhitespace c = false) :
    ∃ word back, text = word ++ back ∧ word ≠ [] ∧ (∀ x ∈ word, isWhitespace x = false) ∧
      Detached back := by
  refine ⟨text.takeWhile (fun x => !isWhitespace x), text.dropWhile (fun x => !isWhitespace x),
    takeWhile_append_dropWhile.symm, ?_, ?_, ?_⟩
  · obtain ⟨rest, rfl⟩ : ∃ rest, text = c :: rest := head?_eq_some_iff.mp begins
    rw [takeWhile_cons_of_pos (by simp [solid])]
    exact cons_ne_nil _ _
  · intro x mem
    simpa using mem_takeWhile_imp mem
  · intro x first
    have stopped := head?_dropWhile_not (fun x => !isWhitespace x) text
    rw [first] at stopped
    simpa using stopped

theorem exists_last_word {text : List Char} {c : Char} (ends : text.getLast? = some c)
    (solid : isWhitespace c = false) :
    ∃ front word, text = front ++ word ∧ word ≠ [] ∧ (∀ x ∈ word, isWhitespace x = false) ∧
      ∀ rest, splitWhitespace (front ++ rest) = splitWhitespace front ++ splitWhitespace rest := by
  have reversed : text.reverse.head? = some c := by rw [head?_reverse, ends]
  obtain ⟨word, back, whole, nonempty, plain, detached⟩ := exists_first_word reversed solid
  refine ⟨back.reverse, word.reverse, ?_, by simpa using nonempty, by simpa using plain, ?_⟩
  · rw [← reverse_append, ← whole, reverse_reverse]
  · intro rest
    cases back with
    | nil => rfl
    | cons x others =>
      have space := detached x rfl
      have alone := splitWhitespace_append_spaces others.reverse [x] (by simpa using space)
      rw [reverse_cons, append_assoc, singleton_append,
        splitWhitespace_append_cons _ _ space, alone]

/-- A character that is not white space joins the words on its two sides. -/
theorem splitWhitespace_glue {before after : List Char} {last glue first : Char}
    (ends : before.getLast? = some last) (endsSolid : isWhitespace last = false)
    (begins : after.head? = some first) (beginsSolid : isWhitespace first = false)
    (glueSolid : isWhitespace glue = false) :
    ∃ front left right back, splitWhitespace before = front ++ [left] ∧
      splitWhitespace after = right :: back ∧
      splitWhitespace (before ++ glue :: after) = front ++ (left ++ glue :: right) :: back := by
  obtain ⟨front, left, rfl, leftSome, leftSolid, parted⟩ := exists_last_word ends endsSolid
  obtain ⟨right, back, rfl, rightSome, rightSolid, detached⟩ := exists_first_word begins beginsSolid
  refine ⟨splitWhitespace front, left, right, splitWhitespace back, ?_, ?_, ?_⟩
  · rw [parted, splitWhitespace_word leftSolid leftSome]
  · exact splitWhitespace_word_append rightSolid rightSome detached
  · have solid : ∀ x ∈ left ++ glue :: right, isWhitespace x = false := by
      intro x mem
      rcases mem_append.mp mem with inLeft | inRest
      · exact leftSolid x inLeft
      · rcases mem_cons.mp inRest with rfl | inRight
        · exact glueSolid
        · exact rightSolid x inRight
    rw [append_assoc, parted, ← cons_append, ← append_assoc,
      splitWhitespace_word_append solid (by simp) detached]

theorem mem_trim {text : List Char} {c : Char} (mem : c ∈ text) (solid : isWhitespace c = false) :
    c ∈ trim text := by
  obtain ⟨lead, tail, whole, before, after⟩ := exists_trim text
  rw [whole] at mem
  rcases mem_append.mp mem with front | back
  · rcases mem_append.mp front with inLead | inside
    · rw [before c inLead] at solid
      cases solid
    · exact inside
  · rw [after c back] at solid
    cases solid

theorem splitOnce_append {sep : Char} {before : List Char} (first : sep ∉ before)
    (after : List Char) : splitOnce sep (before ++ sep :: after) = some (before, after) := by
  have differs : ∀ c ∈ before, (c != sep) = true := by
    intro c mem
    simpa using fun same : c = sep => first (same ▸ mem)
  simp [splitOnce, takeWhile_append_of_pos differs, dropWhile_append_of_pos differs]

/-- Before the first separator there is none. -/
theorem splitOnce_eq_some_iff {sep : Char} {text before after : List Char} :
    splitOnce sep text = some (before, after) ↔ text = before ++ sep :: after ∧ sep ∉ before := by
  constructor
  · intro split
    unfold splitOnce at split
    split at split
    · rename_i present
      simp only [Option.some.injEq, Prod.mk.injEq] at split
      obtain ⟨rfl, rfl⟩ := split
      refine ⟨?_, fun mem => absurd (mem_takeWhile_imp mem) (by simp)⟩
      have stopped := head?_dropWhile_not (· != sep) text
      have parts := takeWhile_append_dropWhile (p := (· != sep)) (l := text)
      cases shape : text.dropWhile (· != sep) with
      | nil =>
        -- nothing stops `takeWhile`, so the separator is not there
        rw [shape, append_nil] at parts
        have inside := contains_iff_mem.mp present
        rw [← parts] at inside
        exact absurd (mem_takeWhile_imp inside) (by simp)
      | cons first rest =>
        rw [shape] at stopped parts
        have same : first = sep := by simpa using stopped
        rw [same] at parts
        exact parts.symm
    · cases split
  · rintro ⟨rfl, first⟩
    exact splitOnce_append first after

theorem rsplitOnce_eq_some_iff {sep : Char} {text before after : List Char} :
    rsplitOnce sep text = some (before, after) ↔ text = before ++ sep :: after ∧ sep ∉ after := by
  constructor
  · intro split
    obtain ⟨⟨back, front⟩, reversed, same⟩ := Option.map_eq_some_iff.mp split
    cases same
    obtain ⟨whole, first⟩ := splitOnce_eq_some_iff.mp reversed
    refine ⟨?_, fun mem => first (mem_reverse.mp mem)⟩
    rw [← reverse_reverse text, whole]
    simp
  · rintro ⟨rfl, last⟩
    have reversed : splitOnce sep (before ++ sep :: after).reverse =
        some (after.reverse, before.reverse) := by
      refine splitOnce_eq_some_iff.mpr ⟨by simp, fun mem => last (mem_reverse.mp mem)⟩
    rw [rsplitOnce, reversed]
    simp

end Words

section Numbers

theorem digitValue_of_isDigit {c : Char} (digit : c.isDigit = true) :
    digitValue c = some (c.toNat - 48) := by
  have range : 48 ≤ c.toNat ∧ c.toNat ≤ 57 := by
    simpa [Char.isDigit, UInt32.le_iff_toNat_le] using digit
  rw [digitValue, if_pos range]

theorem isDigit_of_digitValue {c : Char} (digit : (digitValue c).isSome = true) :
    c.isDigit = true := by
  unfold digitValue at digit
  split at digit
  · rename_i range
    simpa [Char.isDigit, UInt32.le_iff_toNat_le] using range
  · cases digit

/-- A run of digits is read as the number it writes. -/
theorem readDigits_digits {text : List Char} (digits : ∀ c ∈ text, c.isDigit = true)
    (some_ : text ≠ []) : readDigits text = some (Nat.ofDigitChars 10 text 0) := by
  have folded : ∀ (rest : List Char) (value : Nat), (∀ c ∈ rest, c.isDigit = true) →
      rest.foldl (fun value c => do return 10 * (← value) + (← digitValue c)) (some value) =
        some (Nat.ofDigitChars 10 rest value) := by
    intro rest
    induction rest with
    | nil => exact fun _ _ => rfl
    | cons c rest ih =>
      intro value digits
      have first : (do return 10 * (← some value) + (← digitValue c) : Option Nat) =
          some (10 * value + (c.toNat - '0'.toNat)) := by
        rw [digitValue_of_isDigit (digits c mem_cons_self)]
        rfl
      rw [foldl_cons, first, Nat.ofDigitChars_cons]
      exact ih _ fun d mem => digits d (mem_cons_of_mem c mem)
  rw [readDigits, if_neg (by simpa using some_)]
  exact folded text 0 digits

theorem parseUnsigned_digits (bound : Nat) {text : List Char}
    (digits : ∀ c ∈ text, c.isDigit = true) (some_ : text ≠ []) : parseUnsigned bound text =
      if Nat.ofDigitChars 10 text 0 < bound then some (Nat.ofDigitChars 10 text 0) else none := by
  have unsigned : text.head? ≠ some '+' := by
    intro plus
    exact absurd (digits '+' (mem_of_head? plus)) (by decide)
  rw [parseUnsigned, if_neg unsigned, readDigits_digits digits some_]
  rfl

/-- Every number below the bound is read back from its decimal digits. -/
theorem parseUnsigned_toDigits {bound n : Nat} (small : n < bound) :
    parseUnsigned bound (Nat.toDigits 10 n) = some n := by
  rw [parseUnsigned_digits bound
    (fun c mem => Nat.isDigit_of_mem_toDigits (by decide) (by decide) mem)
    Nat.toDigits_ne_nil, Nat.ofDigitChars_ten_toDigits, if_pos small]

theorem foldl_digits_none {digits : List Char} :
    digits.foldl (fun value c => do return 10 * (← value) + (← digitValue c)) (none : Option Nat) =
      none := by
  induction digits with
  | nil => rfl
  | cons _ _ ih => exact ih

/-- Only digits are read as a number. -/
theorem readDigits_eq_none {text : List Char} {c : Char} (mem : c ∈ text)
    (other : digitValue c = none) : readDigits text = none := by
  have stuck : ∀ (digits : List Char) (value : Option Nat), c ∈ digits →
      digits.foldl (fun value c => do return 10 * (← value) + (← digitValue c)) value = none := by
    intro digits
    induction digits with
    | nil => exact fun _ inside => absurd inside not_mem_nil
    | cons first rest ih =>
      intro value inside
      rw [foldl_cons]
      rcases mem_cons.mp inside with rfl | later
      · have failed : (do return 10 * (← value) + (← digitValue c) : Option Nat) = none := by
          cases value <;> simp [other]
        rw [failed]
        exact foldl_digits_none
      · exact ih _ later
  unfold readDigits
  split
  · rfl
  · exact stuck text (some 0) mem

theorem parseUnsigned_eq_none {text : List Char} {c : Char} (bound : Nat) (mem : c ∈ text)
    (other : digitValue c = none) (notPlus : c ≠ '+') : parseUnsigned bound text = none := by
  have inside : c ∈ if text.head? = some '+' then text.tail else text := by
    split
    · rename_i plus
      obtain ⟨rest, rfl⟩ := head?_eq_some_iff.mp plus
      exact (mem_cons.mp mem).resolve_left notPlus
    · exact mem
  unfold parseUnsigned
  rw [readDigits_eq_none inside other]
  rfl

end Numbers

end KrotRelay.Lib
