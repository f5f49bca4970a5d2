import KrotRelay.Guarantees.KeyIndex

/-!
# What the two writers do to the rest of the key file

`append_line` and `remove_pubkey` replace the whole file by what they made of the text they
read. The first part says, on the bytes of the file, when an append keeps them. The second
says, for a file with a line for the key, when a removal takes the key out of the file and
the index, and nothing else, or leaves both as they were.
-/
namespace KrotRelay.Guarantees
open Source Lib List Option

section Appends
variable (decode : List Char → Option (List UInt8))

/-- The bytes there were, with the last line ended, and the new line behind them. -/
def extended (content : List UInt8) (line : List Char) : List UInt8 :=
  (if content = [] ∨ content.getLast? = some 10 then content else content ++ [10]) ++
    (utf8 (String.ofList line) ++ if line.getLast? = some '\n' then [] else [10])

def KeepsContent (before : Option (List UInt8)) (line : List Char)
    (outcome : Except ServerError (List Char) × KeyDisk) : Prop :=
  outcome.1.isOk = false ∧ outcome.2.file = before ∨
    outcome.2.file = some (extended (before.getD []) line)

theorem utf8_eq_nil_iff (text : List Char) : utf8 (String.ofList text) = [] ↔ text = [] := by
  rw [show ([] : List UInt8) = utf8 (String.ofList []) from rfl, utf8_inj]
  exact String.ofList_inj

theorem utf8_appended (text line : List Char) : utf8 (String.ofList (appended text line)) =
      extended (utf8 (String.ofList text)) line := by
  have feed : utf8 (String.ofList ['\n']) = [10] := by decide +kernel
  have front : utf8 (String.ofList (if !text.isEmpty && text.getLast? != some '\n' then
        text ++ ['\n'] else text)) =
      if utf8 (String.ofList text) = [] ∨ (utf8 (String.ofList text)).getLast? = some 10
      then utf8 (String.ofList text) else utf8 (String.ofList text) ++ [10] := by
    simp only [utf8_eq_nil_iff, utf8_getLast?]
    by_cases complete : text = [] ∨ text.getLast? = some '\n'
    · rw [if_pos complete, if_neg (by rcases complete with none | ended <;> simp [*])]
    · rw [if_neg complete, if_pos (by simpa [not_or] using complete), String.ofList_append,
        utf8_append, feed]
  unfold appended extended
  dsimp only
  by_cases ended : line.getLast? = some '\n'
  · rw [if_neg (by simp [ended]), if_pos ended, String.ofList_append, utf8_append, front,
      append_nil]
  · rw [if_pos (by simpa using ended), if_neg ended, String.ofList_append, utf8_append, feed,
      String.ofList_append, utf8_append, front, append_assoc]

theorem extended_eq_extended_nil_iff (content : List UInt8) (line : List Char) :
    extended [] line = extended content line ↔ content = [] := by
  constructor
  · intro same
    have front := append_cancel_right same
    rw [if_pos (.inl rfl)] at front
    split at front
    · exact front.symm
    · exact absurd front.symm (append_ne_nil_of_right_ne_nil _ (cons_ne_nil _ _))
  · rintro rfl
    rfl

/-- Neither refused by the system nor by the decoder. -/
def readable (disk : KeyDisk) (io : Io) : Prop :=
  io.refusal = none ∧ ∃ text, utf8 (String.ofList text) = disk.file.getD []

/-- A file that could not be read is taken for an empty one. -/
theorem utf8_appended_read (disk : KeyDisk) (line : List Char) (io : Io) :
    utf8 (String.ofList (appended (disk.readOrDefault io.refusal) line)) =
        extended (disk.file.getD []) line ∧ readable disk io ∨
      utf8 (String.ofList (appended (disk.readOrDefault io.refusal) line)) = extended [] line ∧
        ¬ readable disk io := by
  rw [utf8_appended]
  obtain ⟨file, keys⟩ := disk
  unfold readable KeyDisk.readOrDefault
  cases refusal : io.refusal with
  | some => exact .inr ⟨rfl, by simp⟩
  | none =>
    cases file with
    | none => exact .inl ⟨rfl, rfl, [], rfl⟩
    | some bytes =>
      cases decoded : String.fromUTF8? ⟨bytes.toArray⟩ with
      | some text =>
        have encoded := (fromUTF8?_eq_some_iff bytes text).mp decoded
        refine .inl ⟨?_, rfl, text.toList, ?_⟩
        · simp [decoded, encoded]
        · simpa using encoded
      | none =>
        refine .inr ⟨by simp [decoded, utf8], ?_⟩
        rintro ⟨-, text, encoded⟩
        rw [(fromUTF8?_eq_some_iff bytes _).mpr encoded] at decoded
        cases decoded

/-- An append keeps what the file holds exactly if it does not come to write, or the file
is empty, or its bytes are read as they are. One more case shows nothing of the loss: a
file that already is the new line alone, rewritten without being synced. -/
theorem append_keeps_content_iff (disk : KeyDisk) (line : List Char) (io : Io) :
    KeepsContent disk.file line (disk.appendLine decode line io) ↔
      parseLine decode line = none ∨ (∃ detail, io.written = .failed detail) ∨
        disk.file.getD [] = [] ∨
        readable disk io ∨
        ((∃ detail, io.written = .unsynced detail) ∧ disk.file = some (extended [] line)) := by
  unfold KeyDisk.appendLine KeepsContent
  cases accepted : parseLine decode line with
  | none => simp [Except.isOk, Except.toBool]
  | some =>
    have outcome := utf8_appended_read disk line io
    cases written : io.written with
    | failed => simp [KeyDisk.atomicWrite, Except.isOk, Except.toBool]
    | unsynced detail =>
      simp only [KeyDisk.atomicWrite, Except.isOk, Except.toBool, reduceCtorEq, false_or,
        exists_false, true_and, Option.some.injEq]
      rcases outcome with ⟨bytes, read⟩ | ⟨bytes, unread⟩
      · rw [bytes]
        exact ⟨fun _ => .inr (.inl read), fun _ => .inr rfl⟩
      · rw [bytes, extended_eq_extended_nil_iff, eq_comm (a := some (extended [] line))]
        constructor
        · rintro (same | empty)
          · exact .inr (.inr ⟨⟨detail, rfl⟩, same⟩)
          · exact .inl empty
        · rintro (empty | read | ⟨-, same⟩)
          · exact .inr empty
          · exact absurd read unread
          · exact .inl same
    | done =>
      simp only [KeyDisk.atomicWrite, Except.isOk, Except.toBool, reduceCtorEq, false_or,
        exists_false, false_and, or_false, Bool.true_eq_false, Option.some.injEq]
      rcases outcome with ⟨bytes, read⟩ | ⟨bytes, unread⟩
      · rw [bytes]
        exact ⟨fun _ => .inr read, fun _ => rfl⟩
      · rw [bytes, extended_eq_extended_nil_iff]
        constructor
        · exact .inl
        · rintro (empty | read)
          · exact empty
          · exact absurd read unread

/-- One key on file, and a system that refuses to read it. -/
def frankOnDisk : KeyDisk := ⟨some (utf8 (String.ofList (enrollment frank "laptop"))), ⟨∅, []⟩⟩

def unreadable : Io := { calm with refusal := some "Input/output error (os error 5)" }

/-- The append succeeds and the file is the new line alone. -/
theorem append_after_refused_read_drops_keys :
    (frankOnDisk.appendLine Base64.decode (enrollment grace "desktop") unreadable).1.isOk = true ∧
      (frankOnDisk.appendLine Base64.decode (enrollment grace "desktop") unreadable).2.file =
        some (utf8 (String.ofList (enrollment grace "desktop" ++ ['\n']))) ∧
      ¬ KeepsContent frankOnDisk.file (enrollment grace "desktop")
        (frankOnDisk.appendLine Base64.decode (enrollment grace "desktop") unreadable) := by
  rw [KeepsContent, frankOnDisk, enrollment_eq, enrollment_eq]
  repeat rw [String.toList_ofList]
  decide +kernel

end Appends

section Removals
variable (decode : List Char → Option (List UInt8))

/-- The entry the file has for a key: that of its last line for it. -/
def fileEntry (rows : List (List Char)) (pubkey : PubKey) : Option AuthorizedEntry :=
  (rows.filterMap fun row =>
    (parseLine decode row).bind fun (key, entry) => if key = pubkey then some entry else none).getLast?

theorem lookup_foldlM_insertRow (out entries : HashMap PubKey AuthorizedEntry)
    (pubkey : PubKey) (folded : rows.foldlM (insertRow decode) out = some entries) :
    entries.lookup pubkey = (fileEntry decode rows pubkey).or (out.lookup pubkey) := by
  induction rows generalizing out with
  | nil =>
    cases folded
    rfl
  | cons row rest ih =>
    rw [foldlM_cons] at folded
    cases parsed : parseLine decode row with
    | none => simp [insertRow, parsed] at folded
    | some pair =>
      obtain ⟨key, entry⟩ := pair
      simp only [insertRow, parsed, map_some, bind_eq_bind, bind_some] at folded
      rw [ih _ folded]
      unfold fileEntry
      by_cases mine : key = pubkey
      · subst mine
        rw [AList.lookup_insert]
        simp only [filterMap_cons, parsed, bind_some, if_true, getLast?_cons]
        cases (rest.filterMap _).getLast? <;> rfl
      · rw [AList.lookup_insert_ne (Ne.symm mine)]
        simp only [filterMap_cons, parsed, bind_some, if_neg mine]

/-- What a removal leaves of the other keys in the file. -/
theorem fileEntry_without (target pubkey : PubKey) (text : List Char) :
    fileEntry decode (entryRows (without decode target text)) pubkey =
      if pubkey = target then none else fileEntry decode (entryRows text) pubkey := by
  unfold fileEntry
  rw [entryRows_without, filterMap_filter]
  by_cases mine : pubkey = target
  · subst mine
    rw [if_pos rfl, getLast?_eq_none_iff, filterMap_eq_nil_iff]
    intro row _
    cases named : names decode pubkey row with
    | true => rfl
    | false =>
      cases parsed : parseLine decode row with
      | none => rfl
      | some pair =>
        have other : pair.1 ≠ pubkey := by
          rintro rfl
          exact absurd ((names_iff decode _ row).mpr ⟨pair.2, parsed⟩) (by simp [named])
        simp [other]
  · rw [if_neg mine]
    congr 1
    refine filterMap_congr fun row _ => ?_
    cases named : names decode target row with
    | false => rfl
    | true =>
      obtain ⟨entry, parsed⟩ := (names_iff decode target row).mp named
      simp [parsed, Ne.symm mine]

/-- The file without a key has no line for it. -/
theorem isNamed_without (target : PubKey) (text : List Char) :
    isNamed decode target (without decode target text) = false := by
  rw [← Bool.not_eq_true, isNamed_iff, contentLines_without]
  rintro ⟨row, mem, named⟩
  simpa [named] using (mem_filter.mp mem).2

/-- The other lines are the same lines, unless one ends with a carriage return, which is
then read as part of its line feed. -/
theorem lines_without_iff (target : PubKey) (text : List Char) :
    lines (without decode target text) =
        (lines text).filter (fun line => !names decode target line) ↔
      ∀ line ∈ lines text, names decode target line = false → line.getLast? ≠ some '\r' := by
  have single : ∀ row ∈ (lines text).filter (fun line => !names decode target line), '\n' ∉ row :=
    fun row mem => mem_lines_single text row (mem_of_mem_filter mem)
  have strip : ∀ line : List Char, stripCr line = line ↔ line.getLast? ≠ some '\r' := by
    intro line
    unfold stripCr
    split
    · rename_i ends
      refine iff_of_false (fun same => ?_) (not_not_intro ends)
      obtain ⟨front, rfl⟩ := getLast?_eq_some_iff.mp ends
      simp at same
    · rename_i plain
      exact iff_of_true rfl plain
  unfold without
  rw [lines_unlines _ single]
  conv_lhs => rhs; rw [← List.map_id (List.filter _ _)]
  rw [map_inj_left]
  simp only [id_eq]
  simp only [mem_filter, Bool.not_eq_true', strip, and_imp]

/-- All of the removal or none of it: `Ok(true)` and the key is in neither the file nor the
index, with every other line and every other entry as before, or an error and nothing has
changed. -/
def AllOrNothing (store : KeyStore) (target : PubKey) (contents : List Char) :
    Except ServerError Bool × KeyStore → Prop
  | (.ok removed, after) =>
    removed = true ∧ ∃ rewritten, after.file = .text rewritten ∧
      isNamed decode target rewritten = false ∧
      lines rewritten = (lines contents).filter (fun line => !names decode target line) ∧
      after.keys.get target = none ∧
      ∀ other, other ≠ target → after.keys.get other = store.keys.get other
  | (.error _, after) => after.file = store.file ∧ after.keys.entries = store.keys.entries

/-- A removal that gets as far as its reload is whole exactly if every line of the file
parses, none that stays ends with a stray carriage return, and the index agrees with the
file about the other keys. -/
def reloadsWhole (store : KeyStore) (target : PubKey) (contents : List Char) : Prop :=
  (∀ row ∈ entryRows contents, (parseLine decode row).isSome = true) ∧
    (∀ line ∈ lines contents, names decode target line = false → line.getLast? ≠ some '\r') ∧
    ∀ other, other ≠ target → store.keys.get other = fileEntry decode (entryRows contents) other

theorem entryRows_without_parse (target : PubKey) (text : List Char) :
    (∀ row ∈ entryRows (without decode target text), (parseLine decode row).isSome = true) ↔
      ∀ row ∈ entryRows text, (parseLine decode row).isSome = true := by
  rw [entryRows_without]
  constructor
  · intro kept row mem
    cases named : names decode target row with
    | true =>
      obtain ⟨entry, parsed⟩ := (names_iff decode target row).mp named
      rw [parsed]
      rfl
    | false => exact kept row (mem_filter.mpr ⟨mem, by rw [named]; rfl⟩)
  · exact fun all row mem => all row (mem_of_mem_filter mem)

/-- The reload behind a removal that was written. -/
theorem reload_without (store : KeyStore) (text : List Char) (io : Io)
    (written : store.file = .text (without decode target text))
    (reread : io.rereadRefusal = none) :
    (∃ problem, store.reload decode io = (.error problem, store) ∧
        ¬ ∀ row ∈ entryRows text, (parseLine decode row).isSome = true) ∨
      ∃ updated, store.reload decode io = (.ok (), store.swap updated io.removedOrder io.modifiedOrder) ∧
        (∀ row ∈ entryRows text, (parseLine decode row).isSome = true) ∧
        ∀ pubkey, updated.lookup pubkey =
          if pubkey = target then none else fileEntry decode (entryRows text) pubkey := by
  unfold KeyStore.reload KeyStore.parseFile FileContents.readToString
  simp only [written, reread]
  cases parsed : parseText decode (without decode target text) with
  | error problem =>
    refine .inl ⟨problem, rfl, fun all => ?_⟩
    obtain ⟨entries, folded⟩ := (foldlM_insertRow decode _ ∅).mpr
      ((entryRows_without_parse decode target text).mpr all)
    rw [(parseText_ok_iff decode _ _).mpr folded] at parsed
    cases parsed
  | ok updated =>
    have folded := (parseText_ok_iff decode _ _).mp parsed
    refine .inr ⟨updated, rfl, ?_, fun pubkey => ?_⟩
    · exact (entryRows_without_parse decode target text).mp
        ((foldlM_insertRow decode _ ∅).mp ⟨updated, folded⟩)
    · rw [lookup_foldlM_insertRow decode ∅ updated pubkey folded, fileEntry_without,
        AList.lookup_empty, or_none]

/-- A removal is all or nothing exactly if the file could be read, and then either was not
replaced or was replaced, synced and read again, with nothing in it that the reload chokes
on and nothing in the index that it lacks. -/
theorem removal_all_or_nothing_iff (store : KeyStore) (target : PubKey) (contents : List Char)
    (io : Io) (holds : store.file = .text contents) (named : isNamed decode target contents = true) :
    AllOrNothing decode store target contents (store.removePubkey decode target io) ↔
      io.refusal = none ∧ ((∃ detail, io.written = .failed detail) ∨
        io.written = .done ∧ io.rereadRefusal = none ∧ reloadsWhole decode store target contents) := by
  have changed : without decode target contents ≠ contents := by
    intro same
    have unnamed := isNamed_without decode target contents
    rw [same, named] at unnamed
    cases unnamed
  unfold KeyStore.removePubkey
  cases refusal : io.refusal with
  | some detail =>
    -- a refused read finds no line, and the call returns `Ok(false)`
    have unread : store.file.readOrDefault (some detail) = [] := by rw [holds]; rfl
    simp [unread, isNamed, lines, AllOrNothing]
  | none =>
    have read : store.file.readOrDefault none = contents := by rw [holds]; rfl
    simp only [read, named, if_true, true_and]
    cases written : io.written with
    | failed => simp [KeyStore.atomicWrite, AllOrNothing]
    | unsynced => simp [KeyStore.atomicWrite, AllOrNothing, holds, changed]
    | done =>
      simp only [KeyStore.atomicWrite, reduceCtorEq, exists_false, false_or, true_and]
      cases reread : io.rereadRefusal with
      | some =>
        simp [KeyStore.reload, KeyStore.parseFile, FileContents.readToString, reread, AllOrNothing,
          holds, changed]
      | none =>
        rcases reload_without decode { store with file := .text (without decode target contents) }
          contents io rfl reread with ⟨problem, failed, broken⟩ | ⟨updated, reloaded, all, entries⟩
        · simp [failed, AllOrNothing, holds, changed, reloadsWhole, broken]
        · simp only [reloaded, AllOrNothing, true_and, KeyStore.swap_file, FileContents.text.injEq,
            exists_eq_left', isNamed_without, lines_without_iff, KeyRegistry.get,
            KeyStore.swap_entries, entries, if_true, reloadsWhole]
          rw [and_iff_right all]
          refine and_congr_right fun _ => ?_
          refine forall_congr' fun other => imp_congr_right fun different => ?_
          rw [if_neg different]
          exact eq_comm

/-- An index that is in step with its file agrees with it about every key. -/
theorem reloadsWhole_of_inSync (target : PubKey)
    (parses : parseText decode contents = .ok store.keys.entries)
    (feeds : ∀ line ∈ lines contents, line.getLast? ≠ some '\r') :
    reloadsWhole decode store target contents := by
  have folded := (parseText_ok_iff decode _ _).mp parses
  refine ⟨(foldlM_insertRow decode _ ∅).mp ⟨_, folded⟩, fun line mem _ => feeds line mem, ?_⟩
  intro other _
  rw [KeyRegistry.get, lookup_foldlM_insertRow decode ∅ _ other folded, AList.lookup_empty, or_none]

/-- Two keys on file and in the index. -/
def twoKeyLines : List Char := enrollment frank "laptop" ++ '\n' :: enrollment grace "desktop"

def twoKeyStore : KeyStore where
  file := .text twoKeyLines
  keys := ⟨((parseText Base64.decode twoKeyLines).toOption.getD ∅), []⟩

theorem twoKeyStore_parses : parseText Base64.decode twoKeyLines = .ok twoKeyStore.keys.entries := by
  have parsed : ((parseText Base64.decode twoKeyLines).toOption).isSome = true := by
    rw [twoKeyLines, enrollment_eq, enrollment_eq]
    repeat rw [String.toList_ofList]
    decide +kernel
  unfold twoKeyStore
  cases outcome : parseText Base64.decode twoKeyLines with
  | error =>
    rw [outcome] at parsed
    cases parsed
  | ok => rfl

theorem removal_all_or_nothing_iff_frank : isNamed Base64.decode frank twoKeyLines = true ∧
      AllOrNothing Base64.decode twoKeyStore frank twoKeyLines
        (twoKeyStore.removePubkey Base64.decode frank calm) := by
  have named : isNamed Base64.decode frank twoKeyLines = true ∧
      ((lines twoKeyLines).all fun line => line.getLast? != some '\r') = true := by
    rw [twoKeyLines, enrollment_eq, enrollment_eq]
    repeat rw [String.toList_ofList]
    decide +kernel
  obtain ⟨named, feeds⟩ := named
  have whole : reloadsWhole Base64.decode twoKeyStore frank twoKeyLines :=
    reloadsWhole_of_inSync Base64.decode frank twoKeyStore_parses
      fun line member => bne_iff_ne.mp (List.all_eq_true.mp feeds line member)
  have exact_ := removal_all_or_nothing_iff Base64.decode twoKeyStore frank twoKeyLines calm
    (by unfold twoKeyStore; rfl) named
  refine ⟨named, ?_⟩
  rw [exact_]
  refine ⟨?_, .inr ⟨?_, ?_, whole⟩⟩ <;> simp only [calm]

/-- A line an operator has not finished yet, behind the line of a key the index has. -/
def halfEdited : KeyStore :=
  { twoKeyStore with file := .text (twoKeyLines ++ "\ned25519 AAAA".toList) }

/-- The key is taken out of the file, the call fails, and the key is still accepted. -/
theorem half_edited_file_keeps_removed_key :
    isNamed Base64.decode frank (twoKeyLines ++ "\ned25519 AAAA".toList) = true ∧
      (halfEdited.keys.get frank).isSome = true ∧
      (halfEdited.removePubkey Base64.decode frank calm).1.isOk = false ∧
      (halfEdited.removePubkey Base64.decode frank calm).2.file =
        .text (without Base64.decode frank (twoKeyLines ++ "\ned25519 AAAA".toList)) ∧
      isNamed Base64.decode frank
        (without Base64.decode frank (twoKeyLines ++ "\ned25519 AAAA".toList)) = false ∧
      ((halfEdited.removePubkey Base64.decode frank calm).2.keys.get frank).isSome = true := by
  rw [halfEdited, twoKeyStore, twoKeyLines, enrollment_eq, enrollment_eq]
  repeat rw [String.toList_ofList]
  decide +kernel

end Removals

end KrotRelay.Guarantees
