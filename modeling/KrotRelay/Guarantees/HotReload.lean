import KrotRelay.Guarantees.Announcements

/-!
# What a reload changes and whom it revokes

A reload takes all of a file or nothing of it. The keys it announces are those of the old
index that lose their entry or keep one with another authorization; the order of the lines,
their comments and new keys do not matter.
-/
namespace KrotRelay.Guarantees
open Source Lib List Option

section Reloads
variable (decode : List Char → Option (List UInt8))

/-- What the last row for a key says. -/
def lastEntry (rows : List (List Char)) (pubkey : PubKey) : Option AuthorizedEntry :=
  ((rows.filter (names decode pubkey)).getLast?.bind (parseLine decode)).map Prod.snd

theorem lastEntry_concat (rows : List (List Char)) (row : List Char) (pubkey : PubKey) :
    lastEntry decode (rows ++ [row]) pubkey =
      if names decode pubkey row then (parseLine decode row).map Prod.snd
      else lastEntry decode rows pubkey := by
  unfold lastEntry
  rw [filter_append, filter_cons, filter_nil]
  split
  · rw [getLast?_concat, bind_some]
  · rw [append_nil]

theorem names_eq {row : List Char} {owner : PubKey} {entry : AuthorizedEntry}
    (parsed : parseLine decode row = some (owner, entry)) (pubkey : PubKey) :
    names decode pubkey row = decide (pubkey = owner) := by
  rw [Bool.eq_iff_iff, names_iff, parsed]
  simp [eq_comm]

theorem names_none {row : List Char} (unread : parseLine decode row = none) (pubkey : PubKey) :
    names decode pubkey row = false := by
  rw [Bool.eq_false_iff, Ne, names_iff, unread]
  rintro ⟨entry, read⟩
  cases read

/-- The map `parse_file` builds is that of the last rows. -/
theorem lookup_insertRows (entries : HashMap PubKey AuthorizedEntry)
    (read : rows.foldlM (insertRow decode) ∅ = some entries) (pubkey : PubKey) :
    entries.lookup pubkey = lastEntry decode rows pubkey := by
  induction rows using List.reverseRecOn generalizing entries with
  | nil =>
    cases read
    rfl
  | append_singleton front row ih =>
    rw [foldlM_append] at read
    obtain ⟨earlier, front, last⟩ := bind_eq_some_iff.mp read
    simp only [foldlM_cons, foldlM_nil, bind_pure] at last
    obtain ⟨⟨owner, entry⟩, parsed, rfl⟩ := map_eq_some_iff.mp last
    rw [lastEntry_concat, names_eq decode parsed, parsed]
    by_cases own : pubkey = owner
    · subst own
      rw [AList.lookup_insert]
      simp
    · rw [AList.lookup_insert_ne own, ih earlier front]
      simp [own]

/-- A change that takes nothing from anybody: rows of different keys change places, a
comment is edited, or a key is added. -/
inductive Touched : List (List Char) → List (List Char) → Prop
  | reorder (front back first second)
      (different : ∀ pubkey, names decode pubkey first = true → names decode pubkey second = false) :
      Touched (front ++ first :: second :: back) (front ++ second :: first :: back)
  | comment (front back row edited) (same : bareLine edited = bareLine row) :
      Touched (front ++ row :: back) (front ++ edited :: back)
  | add (front back row) (new : ∀ pubkey, names decode pubkey row = true →
        ∀ other ∈ front ++ back, names decode pubkey other = false) :
      Touched (front ++ back) (front ++ row :: back)

/-- Whoever has an entry keeps one with the same authorization. -/
def Keeps (rows updated : List (List Char)) : Prop :=
  ∀ pubkey old, lastEntry decode rows pubkey = some old →
    ∃ new, lastEntry decode updated pubkey = some new ∧ old.authorizationEqual new = true

theorem parseLine_comment {row edited : List Char} (same : bareLine edited = bareLine row) :
    parseLine decode edited = (parseLine decode row).map fun (owner, entry) =>
      (owner, { entry with comment := lineComment edited }) := by
  unfold parseLine
  rw [same]
  split
  · rename_i b64 options _
    split
    · rfl
    · cases decode b64 with
      | none => rfl
      | some raw =>
        simp only [bind_eq_bind, bind_some]
        cases PubKey.ofBytes raw <;> rfl
  · rfl

theorem touched_keeps {rows updated : List (List Char)} (touched : Touched decode rows updated) :
    Keeps decode rows updated := by
  intro pubkey old found
  unfold lastEntry at found ⊢
  cases touched with
  | reorder front back first second different =>
    refine ⟨old, ?_, authorizationEqual_refl old⟩
    rw [← found]
    cases named : names decode pubkey first with
    | true => simp [named, different pubkey named]
    | false => simp [named, filter_cons]
  | comment front back row edited same =>
    have parsed := parseLine_comment decode same
    have alike : names decode pubkey edited = names decode pubkey row := by
      cases read : parseLine decode row with
      | none => rw [names_none decode read, names_none decode (by rw [parsed, read]; rfl)]
      | some pair =>
        rw [read] at parsed
        rw [names_eq decode parsed, names_eq decode read]
    rw [filter_append, filter_cons] at found ⊢
    rw [alike]
    cases later : back.filter (names decode pubkey) using List.reverseRecOn with
    | append_singleton =>
      rw [later] at found
      refine ⟨old, ?_, authorizationEqual_refl old⟩
      rw [← found]
      split <;> simp [getLast?_append, getLast?_cons]
    | nil =>
      rw [later] at found
      split at found
      · rw [getLast?_concat, bind_some] at found
        rw [if_pos ‹_›, getLast?_concat, bind_some, parsed]
        obtain ⟨pair, read, rfl⟩ := map_eq_some_iff.mp found
        rw [read]
        exact ⟨_, rfl, by simp [AuthorizedEntry.authorizationEqual]⟩
      · rw [if_neg ‹_›]
        exact ⟨old, found, authorizationEqual_refl old⟩
  | add front back row new =>
    cases named : names decode pubkey row with
    | true =>
      rw [filter_eq_nil_iff.mpr fun other mem => by
        rw [new pubkey named other mem]; rintro ⟨⟩] at found
      cases found
    | false =>
      refine ⟨old, ?_, authorizationEqual_refl old⟩
      rw [← found]
      simp [named]

theorem keeps_run {rows updated : List (List Char)}
    (touched : Relation.ReflTransGen (Touched decode) rows updated) : Keeps decode rows updated := by
  induction touched with
  | refl => exact fun _ old found => ⟨old, found, authorizationEqual_refl old⟩
  | tail _ last ih =>
    intro pubkey old found
    obtain ⟨middle, kept, same⟩ := ih pubkey old found
    obtain ⟨new, now, still⟩ := touched_keeps decode last pubkey middle kept
    exact ⟨new, now, authorizationEqual_trans same still⟩

/-- The text of a file, if it is one. -/
def textOf (bytes : List UInt8) : Option (List Char) :=
  (String.fromUTF8? ⟨bytes.toArray⟩).map String.toList

/-- Something keeps the file from being taken in: the system, its encoding or a row. -/
def Unusable (bytes : List UInt8) (io : Io) : Prop :=
  io.rereadRefusal ≠ none ∨ textOf bytes = none ∨
    ∃ text, textOf bytes = some text ∧ ∃ row ∈ entryRows text, parseLine decode row = none

/-- The two ways a reload ends. -/
theorem reload_cases (bytes : List UInt8) (keys : KeyRegistry) (io : Io) :
    (Unusable decode bytes io ∧ ∃ problem, (KeyDisk.store ⟨some bytes, keys⟩).reload decode io =
        (.error problem, KeyDisk.store ⟨some bytes, keys⟩)) ∨
    ∃ text updated, io.rereadRefusal = none ∧ textOf bytes = some text ∧
      (entryRows text).foldlM (insertRow decode) ∅ = some updated ∧
      (KeyDisk.store ⟨some bytes, keys⟩).reload decode io =
        (.ok (), (KeyDisk.store ⟨some bytes, keys⟩).swap updated io.removedOrder
          io.modifiedOrder) := by
  unfold KeyStore.reload KeyStore.parseFile
  cases refusal : io.rereadRefusal with
  | some => exact .inl ⟨.inl (by rw [refusal]; nofun), _, rfl⟩
  | none =>
    simp only [KeyDisk.store, FileContents.ofBytes]
    cases decoded : String.fromUTF8? ⟨bytes.toArray⟩ with
    | none => exact .inl ⟨.inr (.inl (by rw [textOf, decoded]; rfl)), _, rfl⟩
    | some text =>
      have read : textOf bytes = some text.toList := by rw [textOf, decoded]; rfl
      simp only [FileContents.readToString]
      cases parsed : parseText decode text.toList with
      | ok updated => exact .inr ⟨_, updated, trivial, read, (parseText_ok_iff decode _ _).mp parsed, rfl⟩
      | error =>
        refine .inl ⟨.inr (.inr ⟨_, read, ?_⟩), _, rfl⟩
        by_contra every
        push Not at every
        obtain ⟨updated, folded⟩ := (foldlM_insertRow decode _ ∅).mpr fun row mem =>
          isSome_iff_ne_none.mpr (every row mem)
        rw [(parseText_ok_iff decode _ _).mpr folded] at parsed
        cases parsed

/-- A file that is taken in has nothing against it. -/
theorem not_unusable {bytes : List UInt8} {io : Io} {text : List Char}
    {updated : HashMap PubKey AuthorizedEntry} (granted : io.rereadRefusal = none)
    (read : textOf bytes = some text)
    (folded : (entryRows text).foldlM (insertRow decode) ∅ = some updated) :
    ¬ Unusable decode bytes io := by
  rintro (refused | notText | ⟨other, same, row, mem, unread⟩)
  · exact refused granted
  · rw [read] at notText
    cases notText
  · rw [read] at same
    cases same
    have parsed := (foldlM_insertRow decode _ _).mp ⟨_, folded⟩ row mem
    rw [unread] at parsed
    cases parsed

theorem authorizationEqual_iff_comment (first second : AuthorizedEntry) :
    first.authorizationEqual second = true ↔
      { first with comment := none } = { second with comment := none } := by
  simp [AuthorizedEntry.authorizationEqual, and_assoc]

section Announced
variable (current updated : HashMap PubKey AuthorizedEntry) (removedOrder modifiedOrder : List PubKey)

/-- The keys a reload sends have lost their entry or their authorization. -/
theorem mem_announced (pubkey : PubKey) :
    pubkey ∈ KeyRegistry.removedKeys current updated removedOrder ++
        KeyRegistry.modifiedKeys current updated modifiedOrder ↔
      ∃ old, current.lookup pubkey = some old ∧
        ∀ new, updated.lookup pubkey = some new → old.authorizationEqual new = false := by
  simp only [KeyRegistry.removedKeys, KeyRegistry.modifiedKeys, mem_append, mem_filter,
    HashMap.mem_visitOrder]
  cases current.lookup pubkey <;> cases updated.lookup pubkey <;> simp

theorem nodup_visitOrder (map : HashMap PubKey AuthorizedEntry) (order : List PubKey) :
    (HashMap.visitOrder map order).Nodup := by
  unfold HashMap.visitOrder
  split
  · rename_i permutation
    exact (isPerm_iff.mp permutation).nodup_iff.mpr map.keys_nodup
  · exact map.keys_nodup

theorem nodup_announced : (KeyRegistry.removedKeys current updated removedOrder ++
      KeyRegistry.modifiedKeys current updated modifiedOrder).Nodup := by
  refine List.Nodup.append ((nodup_visitOrder _ _).filter _) ((nodup_visitOrder _ _).filter _) ?_
  intro pubkey removed modified
  have gone := (mem_filter.mp removed).2
  have changed := (mem_filter.mp modified).2
  rw [isNone_iff_eq_none.mp gone] at changed
  cases changed

end Announced

/-- What a reload may do to the index and the channel, whatever the file. -/
structure ReloadExact (bytes : List UInt8) (keys : KeyRegistry) (io : Io) : Prop where
  failed : Unusable decode bytes io → ∃ problem,
    (KeyDisk.store ⟨some bytes, keys⟩).reload decode io =
      (.error problem, KeyDisk.store ⟨some bytes, keys⟩)
  replaced : ¬ Unusable decode bytes io → ∃ text next announced, textOf bytes = some text ∧
    (KeyDisk.store ⟨some bytes, keys⟩).reload decode io = (.ok (), next) ∧
    (∀ pubkey, next.keys.get pubkey = lastEntry decode (entryRows text) pubkey) ∧
    next.keys.revocation = keys.revocation ++ announced ∧ announced.Nodup ∧
    ∀ pubkey, pubkey ∈ announced ↔ ∃ old, keys.get pubkey = some old ∧
      ∀ new, next.keys.get pubkey = some new →
        { old with comment := none } ≠ { new with comment := none }
  harmless : ∀ previous text, parseText decode previous = .ok keys.entries →
    textOf bytes = some text →
    Relation.ReflTransGen (Touched decode) (entryRows previous) (entryRows text) →
    ((KeyDisk.store ⟨some bytes, keys⟩).reload decode io).2.keys.revocation = keys.revocation
  again : io.rereadRefusal = none → ∀ later : Io,
    let reloaded := ((KeyDisk.store ⟨some bytes, keys⟩).reload decode io).2
    (reloaded.reload decode later).2.keys.revocation = reloaded.keys.revocation

/-- A reload leaves index and channel alone when the file is unusable, and otherwise installs
exactly what the file says and revokes exactly those it took something from. -/
theorem reload_exact (bytes : List UInt8) (keys : KeyRegistry) (io : Io) :
    ReloadExact decode bytes keys io := by
  rcases reload_cases decode bytes keys io with
    ⟨unusable, problem, failed⟩ | ⟨text, updated, granted, read, folded, replaced⟩
  · refine ⟨fun _ => ⟨problem, failed⟩, fun usable => absurd unusable usable, ?_, ?_⟩
    · intro previous text parsed read touched
      rw [failed]
      rfl
    · intro granted later
      dsimp only
      rw [failed]
      rcases reload_cases decode bytes keys later with ⟨_, problem, failed⟩ | ⟨_, _, _, read, folded, _⟩
      · rw [failed]
      · exact absurd unusable (not_unusable decode granted read folded)
  · have usable := not_unusable decode granted read folded
    have entries := lookup_insertRows decode _ folded
    have index : ∀ pubkey, ((KeyDisk.store ⟨some bytes, keys⟩).swap updated io.removedOrder
        io.modifiedOrder).keys.get pubkey = updated.lookup pubkey := by
      intro pubkey
      rw [KeyRegistry.get, KeyStore.swap_entries]
    refine ⟨fun unusable => absurd unusable usable, fun _ => ?_, ?_, ?_⟩
    · refine ⟨text, _, _, read, replaced, fun pubkey => (index pubkey).trans (entries pubkey),
        KeyStore.swap_revocation _ _ _ _, nodup_announced _ _ _ _, fun pubkey => ?_⟩
      rw [mem_announced, index]
      simp only [← Bool.not_eq_true, authorizationEqual_iff_comment]
      rfl
    · intro previous other parsed same touched
      rw [read] at same
      cases same
      have before := lookup_insertRows decode _ ((parseText_ok_iff decode _ _).mp parsed)
      rw [replaced, KeyStore.swap_revocation]
      refine (congrArg _ (eq_nil_iff_forall_not_mem.mpr ?_)).trans (append_nil _)
      intro pubkey announced
      obtain ⟨old, held, differs⟩ := (mem_announced _ _ _ _ _).mp announced
      obtain ⟨new, kept, equal⟩ := keeps_run decode touched pubkey old ((before pubkey).symm.trans held)
      rw [differs new ((entries pubkey).trans kept)] at equal
      cases equal
    · intro _ later
      dsimp only
      rw [replaced]
      refine reload_revocation decode _ later ⟨text, ?_, ?_⟩
      · obtain ⟨decoded, valid, rfl⟩ := map_eq_some_iff.mp read
        simp only [KeyStore.swap_file, KeyDisk.store, FileContents.ofBytes, valid]
      · rw [KeyStore.swap_entries, parseText_ok_iff, folded]

end Reloads
end KrotRelay.Guarantees
