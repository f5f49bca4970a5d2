import KrotRelay.Source.KeyStore

/-!
# What the key file says, line by line

A reader of the file trims every line and skips blank lines and comments, so the file is
its content lines: `append_line` adds those of its argument, `remove_pubkey` drops those
that name the key, and `parse_file` inserts one entry after the other.
-/
namespace KrotRelay.Guarantees
open Source Lib List

variable {line : List Char} {parsed : PubKey × AuthorizedEntry}

section Trimming

theorem hash_free {spaces : List Char} (blank : ∀ c ∈ spaces, isWhitespace c = true) :
    ∀ c ∈ spaces, (c != '#') = true := by
  intro c mem
  have space := blank c mem
  rw [bne_iff_ne]
  rintro rfl
  exact absurd space (by decide)

theorem bareLine_spaces_append (spaces text : List Char)
    (blank : ∀ c ∈ spaces, isWhitespace c = true) : bareLine (spaces ++ text) = bareLine text := by
  unfold bareLine
  rw [takeWhile_append_of_pos (hash_free blank), trim_spaces_append _ _ blank]

theorem bareLine_append_spaces (text spaces : List Char)
    (blank : ∀ c ∈ spaces, isWhitespace c = true) : bareLine (text ++ spaces) = bareLine text := by
  unfold bareLine
  rw [takeWhile_append]
  split
  · rename_i whole
    have all : text.takeWhile (· != '#') = text :=
      ( takeWhile_prefix _).eq_of_length whole
    rw [takeWhile_eq_self_iff.mpr (hash_free blank), trim_append_spaces _ _ blank, all]
  · rfl

theorem lineComment_eq (line : List Char) : lineComment line =
      let text := trim (line.dropWhile (· != '#')).tail
      if text.isEmpty then none else some (String.ofList text) := by
  unfold lineComment splitOnce
  by_cases hash : line.contains '#' = true
  · rw [if_pos hash]
  · have none : line.dropWhile (· != '#') = [] := by
      rw [dropWhile_eq_nil_iff]
      intro c mem
      rw [bne_iff_ne]
      rintro rfl
      exact hash (contains_iff_mem.mpr mem)
    rw [if_neg hash, none]
    rfl

theorem lineComment_spaces_append (spaces text : List Char)
    (blank : ∀ c ∈ spaces, isWhitespace c = true) :
    lineComment (spaces ++ text) = lineComment text := by
  rw [lineComment_eq, lineComment_eq, dropWhile_append_of_pos (hash_free blank)]

theorem lineComment_append_spaces (text spaces : List Char)
    (blank : ∀ c ∈ spaces, isWhitespace c = true) :
    lineComment (text ++ spaces) = lineComment text := by
  rw [lineComment_eq, lineComment_eq, dropWhile_append]
  split
  · rename_i none
    rw [List.isEmpty_iff.mp none, dropWhile_eq_nil_iff.mpr (hash_free blank)]
  · rename_i found
    have nonempty : text.dropWhile (· != '#') ≠ [] := fun none =>
      found (List.isEmpty_iff.mpr none)
    rw [tail_append_of_ne_nil nonempty, trim_append_spaces _ _ blank]

variable (decode : List Char → Option (List UInt8))

/-- White space around a line makes no difference to its entry. -/
theorem parseLine_trim (line : List Char) : parseLine decode (trim line) = parseLine decode line := by
  obtain ⟨lead, tail, whole, before, after⟩ := exists_trim line
  have bare : bareLine line = bareLine (trim line) := by
    conv_lhs => rw [whole]
    rw [bareLine_append_spaces _ _ after, bareLine_spaces_append _ _ before]
  have comment : lineComment line = lineComment (trim line) := by
    conv_lhs => rw [whole]
    rw [lineComment_append_spaces _ _ after, lineComment_spaces_append _ _ before]
  unfold parseLine
  rw [bare, comment]

theorem parseLine_of_bare_nil (bare : bareLine line = []) : parseLine decode line = none := by
  unfold parseLine
  rw [bare]
  rfl

/-- A text that has an entry is neither blank nor a comment. -/
theorem not_skipped_of_parseLine (accepted : parseLine decode line = some parsed) :
    skipped (trim line) = false := by
  rw [← parseLine_trim] at accepted
  cases shape : trim line with
  | nil =>
    rw [shape, parseLine_of_bare_nil decode rfl] at accepted
    cases accepted
  | cons c rest =>
    rw [shape] at accepted
    by_cases hash : c = '#'
    · subst hash
      have bare : bareLine ('#' :: rest) = [] := by
        unfold bareLine
        rw [takeWhile_cons_of_neg (by decide)]
        rfl
      rw [parseLine_of_bare_nil decode bare] at accepted
      cases accepted
    · simp [skipped, hash]

end Trimming

section Rows
variable (decode : List Char → Option (List UInt8))

/-- The lines of a text that `parse_file` takes for entries. -/
def entryRows (text : List Char) : List (List Char) :=
  (contentLines text).filter fun row => row.head? != some '#'

theorem entryRows_eq (text : List Char) :
    entryRows text = ((lines text).map trim).filter fun row => !skipped row := by
  unfold entryRows contentLines
  rw [filter_filter]
  refine filter_congr fun row _ => ?_
  cases row <;> simp [skipped, bne, Bool.and_comm]

/-- One turn of its loop, over the lines that are not skipped. -/
def insertRow (out : HashMap PubKey AuthorizedEntry) (row : List Char) :
    Option (HashMap PubKey AuthorizedEntry) :=
  (parseLine decode row).map fun (pk, entry) => out.insert pk entry

theorem parseLines_ok_iff (rows : List (List Char)) (idx : Nat)
    (out entries : HashMap PubKey AuthorizedEntry) : parseLines decode idx out rows = .ok entries ↔
      ((rows.map trim).filter fun row => !skipped row).foldlM (insertRow decode) out =
        some entries := by
  induction rows generalizing idx out with
  | nil =>
    simp only [parseLines, map_nil, filter_nil, foldlM_nil, Except.ok.injEq]
    exact ⟨congrArg some, Option.some.inj⟩
  | cons line _ ih =>
    rw [parseLines, map_cons, filter_cons]
    cases skip : skipped (trim line) with
    | true =>
      simp only [if_true, Bool.not_true, Bool.false_eq_true, if_false]
      exact ih (idx + 1) out
    | false =>
      simp only [Bool.false_eq_true, if_false, Bool.not_false, if_true, foldlM_cons]
      cases parsed : parseLine decode (trim line) with
      | none => simp [insertRow, parsed]
      | some =>
        simp only [insertRow, parsed, Option.map_some, Option.bind_eq_bind, Option.bind_some]
        exact ih (idx + 1) _

theorem parseText_ok_iff (text : List Char) (entries : HashMap PubKey AuthorizedEntry) :
    parseText decode text = .ok entries ↔
      (entryRows text).foldlM (insertRow decode) ∅ = some entries := by
  rw [entryRows_eq]
  exact parseLines_ok_iff decode (lines text) 0 ∅ entries

/-- Appending adds the content lines of the argument. -/
theorem contentLines_appended (text line : List Char) :
    contentLines (appended text line) = contentLines text ++ contentLines line := by
  have ended : contentLines (appended text line) = contentLines
      ((if !text.isEmpty && text.getLast? != some '\n' then text ++ ['\n']
        else text) ++ line) := by
    unfold appended
    dsimp only
    split
    · exact contentLines_concat '\n' (by decide) _
    · rfl
  rw [ended]
  split
  · rw [append_assoc, singleton_append, contentLines_append]
  · rename_i complete
    cases text using List.reverseRecOn with
    | nil => rfl
    | append_singleton front last =>
      have feed : last = '\n' := by simpa using complete
      subst feed
      rw [append_assoc, singleton_append, contentLines_append, contentLines_concat '\n' (by decide)]

theorem names_trim (target : PubKey) (line : List Char) :
    names decode target (trim line) = names decode target line := by
  unfold names
  rw [trim_idem]

/-- A line names the key it has an entry for. -/
theorem names_iff (target : PubKey) (line : List Char) :
    names decode target line = true ↔ ∃ entry, parseLine decode line = some (target, entry) := by
  unfold names
  rw [parseLine_trim]
  constructor
  · intro named
    obtain ⟨_, named⟩ := Bool.and_eq_true_iff.mp named
    cases parsed : parseLine decode line with
    | none =>
      rw [parsed] at named
      cases named
    | some pair =>
      rw [parsed] at named
      obtain rfl : pair.1 = target := by simpa using named
      exact ⟨pair.2, rfl⟩
  · rintro ⟨entry, parsed⟩
    rw [not_skipped_of_parseLine decode parsed, parsed]
    simp

theorem names_nil (target : PubKey) : names decode target [] = false := rfl

/-- Removing keeps the content lines that do not name the key, in their order. -/
theorem contentLines_without (target : PubKey) (text : List Char) :
    contentLines (without decode target text) =
      (contentLines text).filter fun row => !names decode target row := by
  unfold without
  rw [contentLines_unlines _ fun row mem =>
    mem_lines_single text row (mem_of_mem_filter mem)]
  unfold contentLines
  rw [filter_filter, filter_map, filter_map, filter_filter]
  congr 1
  refine filter_congr fun row _ => ?_
  simp only [Function.comp, names_trim]
  exact Bool.and_comm _ _

theorem isNamed_iff (target : PubKey) (text : List Char) :
    isNamed decode target text = true ↔
      ∃ row ∈ contentLines text, names decode target row = true := by
  unfold isNamed contentLines
  rw [any_eq_true]
  constructor
  · rintro ⟨line, mem, named⟩
    refine ⟨trim line, mem_filter.mpr ⟨mem_map_of_mem mem, ?_⟩, ?_⟩
    · cases shape : trim line with
      | nil =>
        rw [← names_trim, shape, names_nil] at named
        cases named
      | cons => rfl
    · rwa [names_trim]
  · rintro ⟨row, mem, named⟩
    obtain ⟨line, listed, rfl⟩ := mem_map.mp (mem_filter.mp mem).1
    exact ⟨line, listed, by rwa [names_trim] at named⟩

/-- An accepted line with a core free of line feeds is one row, the entry it was read as. -/
theorem entryRows_single (accepted : parseLine decode line = some parsed)
    (single : '\n' ∉ trim line) : entryRows line = [trim line] := by
  have kept := not_skipped_of_parseLine decode accepted
  have nonempty : trim line ≠ [] := by
    intro none
    rw [none] at kept
    cases kept
  have hash : ((trim line).head? != some '#') = true := by
    simp only [skipped, Bool.or_eq_false_iff] at kept
    simp [bne, kept.2]
  unfold entryRows
  rw [contentLines_single line single nonempty, filter_cons, if_pos hash, filter_nil]

end Rows

end KrotRelay.Guarantees
