import KrotRelay.Guarantees.KeyLines
import KrotRelay.Lib.Base64
import KrotRelay.Lib.Run

/-!
# The index and the file

The index is what `parse_file` would make of the file, after every call, as long as every
line appended is one line. The last part is about the line of an enrollment, whose end the
client writes.
-/
namespace KrotRelay.Guarantees
open Source Lib List Option

section Mirror
variable (decode : List Char → Option (List UInt8))

/-- The file parses, and the index is what it parses to. -/
def InSync (store : KeyStore) : Prop :=
  ∃ text, store.file = .text text ∧ parseText decode text = .ok store.keys.entries

def Written.settled : Written → Bool
  | .unsynced _ => false
  | _ => true

/-- One call of the kind the file and the index come through together: what is appended
is one line and the file could be read, and nothing fails once the file is replaced. -/
def undivided : KeyEvent → Bool
  | .append line io => '\n' ∉ trim line && io.refusal.isNone && Written.settled io.written
  | .remove _ io => Written.settled io.written && io.rereadRefusal.isNone
  | .reload _ | .restart _ => true
  | .edit _ => false

theorem foldlM_insertRow (rows : List (List Char)) (out : HashMap PubKey AuthorizedEntry) :
    (∃ entries, rows.foldlM (insertRow decode) out = some entries) ↔
      ∀ row ∈ rows, (parseLine decode row).isSome = true := by
  induction rows generalizing out with
  | nil => simp
  | cons row _ ih =>
    rw [foldlM_cons, forall_mem_cons]
    cases parsed : parseLine decode row with
    | none => simp [insertRow, parsed]
    | some => simpa [insertRow, parsed] using ih _

theorem entryRows_without (target : PubKey) (text : List Char) :
    entryRows (without decode target text) =
      (entryRows text).filter fun row => !names decode target row := by
  unfold entryRows
  rw [contentLines_without, List.filter_filter, List.filter_filter]
  refine filter_congr fun row _ => ?_
  exact Bool.and_comm _ _

/-- A file that parses still parses with lines taken out. -/
theorem parseText_without (target : PubKey) (parses : parseText decode text = .ok entries) :
    ∃ updated, parseText decode (without decode target text) = .ok updated := by
  have all := (foldlM_insertRow decode _ _).mp ⟨_, (parseText_ok_iff decode _ _).mp parses⟩
  have fewer : ∀ row ∈ entryRows (without decode target text),
      (parseLine decode row).isSome = true := by
    rw [entryRows_without]
    exact fun row mem => all row (mem_of_mem_filter mem)
  obtain ⟨updated, folded⟩ := (foldlM_insertRow decode _ _).mpr fewer
  exact ⟨updated, (parseText_ok_iff decode _ _).mpr folded⟩

/-- One accepted line more is one insertion more. -/
theorem parseText_appended {text line : List Char} {entries : HashMap PubKey AuthorizedEntry}
    {pubkey : PubKey} {entry : AuthorizedEntry}
    (accepted : parseLine decode line = some (pubkey, entry)) (single : '\n' ∉ trim line)
    (parses : parseText decode text = .ok entries) :
    parseText decode (appended text line) = .ok (entries.insert pubkey entry) := by
  have rows : entryRows (appended text line) = entryRows text ++ [trim line] := by
    rw [← entryRows_single decode accepted single]
    unfold entryRows
    rw [contentLines_appended, filter_append]
  rw [parseText_ok_iff, rows, foldlM_append, (parseText_ok_iff decode _ _).mp parses]
  simp [insertRow, parseLine_trim, accepted]

theorem reload_inSync (store : KeyStore) (io : Io) (sync : InSync decode store) :
    InSync decode (store.reload decode io).2 ∧
      (store.reload decode io).2.keys.entries = store.keys.entries := by
  obtain ⟨text, holds, parses⟩ := sync
  unfold KeyStore.reload KeyStore.parseFile FileContents.readToString
  rw [holds]
  cases io.rereadRefusal with
  | some => exact ⟨⟨text, holds, parses⟩, rfl⟩
  | none =>
    simp only [parses]
    exact ⟨⟨text, by rw [KeyStore.swap_file, holds], by rw [KeyStore.swap_entries, parses]⟩,
      KeyStore.swap_entries _ _ _ _⟩

theorem restart_inSync {next : KeyStore} (sync : InSync decode store)
    (step : store.step decode (.restart io) = some next) :
    InSync decode next ∧ next.keys.entries = store.keys.entries := by
  obtain ⟨text, holds, parses⟩ := sync
  simp only [KeyStore.step, KeyStore.open, holds, KeyStore.parseFile,
    FileContents.readToString, Except.bind] at step
  cases refusal : io.rereadRefusal with
  | some =>
    simp only [refusal] at step
    cases step
  | none =>
    simp only [refusal, parses] at step
    cases step
    exact ⟨⟨text, rfl, parses⟩, rfl⟩

/-- An append that succeeds inserts the entry its line was read as. -/
theorem appendLine_ok (store after : KeyStore) (line stored : List Char) (io : Io)
    (succeeded : store.appendLine decode line io = (.ok stored, after)) :
    ∃ pubkey entry, parseLine decode line = some (pubkey, entry) ∧
      after.keys = store.keys.appendEntry pubkey entry := by
  unfold KeyStore.appendLine at succeeded
  cases accepted : parseLine decode line with
  | none =>
    rw [accepted] at succeeded
    cases succeeded
  | some pair =>
    obtain ⟨pubkey, entry⟩ := pair
    rw [accepted] at succeeded
    cases written : io.written with
    | failed | unsynced =>
      simp only [written, KeyStore.atomicWrite] at succeeded
      cases succeeded
    | done =>
      simp only [written, KeyStore.atomicWrite] at succeeded
      cases succeeded
      exact ⟨pubkey, entry, rfl, rfl⟩

theorem append_inSync (store : KeyStore) (line : List Char) (io : Io) (sync : InSync decode store)
    (cond : undivided (.append line io) = true) :
    InSync decode (store.appendLine decode line io).2 := by
  obtain ⟨text, holds, parses⟩ := sync
  simp only [undivided, Bool.and_eq_true, decide_eq_true_eq, isNone_iff_eq_none] at cond
  obtain ⟨⟨single, readable⟩, settled⟩ := cond
  unfold KeyStore.appendLine
  cases accepted : parseLine decode line with
  | none => exact ⟨text, holds, parses⟩
  | some pair =>
    obtain ⟨pubkey, entry⟩ := pair
    cases written : io.written with
    | failed => exact ⟨text, holds, parses⟩
    | unsynced =>
      rw [written] at settled
      cases settled
    | done =>
      refine ⟨_, rfl, ?_⟩
      simp only [holds, readable, FileContents.readOrDefault, FileContents.readToString,
        Except.toOption, getD_some]
      exact parseText_appended decode accepted single parses

theorem remove_inSync (sync : InSync decode store) (cond : undivided (.remove target io) = true) :
    InSync decode (store.removePubkey decode target io).2 := by
  obtain ⟨text, holds, parses⟩ := sync
  simp only [undivided, Bool.and_eq_true, isNone_iff_eq_none] at cond
  obtain ⟨settled, readable⟩ := cond
  unfold KeyStore.removePubkey
  dsimp only
  split
  · rename_i named
    have read : store.file.readOrDefault io.refusal = text := by
      cases refusal : io.refusal with
      | none => rw [holds]; rfl
      | some =>
        -- a refused read finds no line
        rw [refusal] at named
        cases named
    rw [read]
    cases written : io.written with
    | failed => exact ⟨text, holds, parses⟩
    | unsynced =>
      rw [written] at settled
      cases settled
    | done =>
      obtain ⟨updated, reparsed⟩ := parseText_without decode target parses
      simp only [KeyStore.atomicWrite, KeyStore.reload, KeyStore.parseFile, readable,
        FileContents.readToString, reparsed]
      exact ⟨_, rfl, by rw [KeyStore.swap_entries]; exact reparsed⟩
  · exact ⟨text, holds, parses⟩

/-- One call keeps the index and the file together. -/
theorem step_inSync {next : KeyStore} (sync : InSync decode store)
    (cond : undivided event = true)
    (step : store.step decode event = some next) : InSync decode next := by
  cases event with
  | append line io => exact Option.some.inj step ▸ append_inSync decode store line io sync cond
  | remove target io =>
    exact Option.some.inj step ▸ remove_inSync decode sync cond
  | reload io => exact Option.some.inj step ▸ (reload_inSync decode store io sync).1
  | restart io => exact (restart_inSync decode sync step).1
  | edit => cases cond

/-- Reading the file again, by a reload or by a restart. -/
def rereads : KeyEvent → Bool
  | .reload _ | .restart _ => true
  | _ => false

theorem rereads_entries (sync : InSync decode store) (only : ∀ event ∈ events, rereads event = true)
    (ran : run (KeyStore.step decode) store events = some reached) :
    InSync decode reached ∧ reached.keys.entries = store.keys.entries := by
  refine run_meets
    (fun state => InSync decode state ∧ state.keys.entries = store.keys.entries) ?_
    ⟨sync, rfl⟩ (meets_of_mem _ _ events (fun event mem _ => only event mem) store)
    ran
  rintro state event next ⟨sync, same⟩ cond step
  cases event with
  | reload io =>
    cases step
    have kept := reload_inSync decode state io sync
    exact ⟨kept.1, kept.2.trans same⟩
  | restart io =>
    have kept := restart_inSync decode sync step
    exact ⟨kept.1, kept.2.trans same⟩
  | append | remove | edit => cases cond

end Mirror

section Enrollment
variable (ext : External) (decode : List Char → Option (List UInt8))

/-- What the code relies on from base64: it decodes what it encoded, and its characters
are neither white space nor `#`. -/
structure Base64Laws : Prop where
  decodes : ∀ pubkey : PubKey, decode (ext.base64 pubkey).toList = some pubkey.bytes.toList
  nonempty : ∀ pubkey, (ext.base64 pubkey).toList ≠ []
  plain : ∀ pubkey, ∀ c ∈ (ext.base64 pubkey).toList, isWhitespace c = false ∧ c ≠ '#'

theorem ofBytes_toList (pubkey : PubKey) : PubKey.ofBytes pubkey.bytes.toList = some pubkey := by
  have size : pubkey.bytes.toList.length = 32 := by simp
  unfold PubKey.ofBytes
  rw [dif_pos size]
  rfl

variable {ext decode}

theorem enrollLine_bare (laws : Base64Laws ext decode) (pubkey : PubKey) (now : String)
    (hint : Option String) : bareLine (enrollLine ext pubkey now hint).toList =
      "ed25519".toList ++ ' ' :: ((ext.base64 pubkey).toList ++ ' ' :: "subdomain=*".toList) := by
  let front := "ed25519".toList ++ ' ' :: ((ext.base64 pubkey).toList ++ ' ' :: "subdomain=*".toList)
  have shape : (enrollLine ext pubkey now hint).toList =
      front ++ [' '] ++ '#' :: (" enrolled ".toList ++ now.toList ++ " ".toList ++
        (hint.getD "").toList) := by
    simp [enrollLine, front, String.toList_append]
  have clean : ∀ c ∈ front ++ [' '], (c != '#') = true := by
    have pieces : front ++ [' '] =
        "ed25519 ".toList ++ ((ext.base64 pubkey).toList ++ " subdomain=* ".toList) := by
      simp [front]
    rw [pieces]
    simp only [forall_mem_append]
    exact ⟨List.all_eq_true.mp rfl, fun c mem => bne_iff_ne.mpr (laws.plain pubkey c mem).2,
      List.all_eq_true.mp rfl⟩
  have ends : trim front = front := by
    have between := trim_between 'e' '*'
      ("d25519 ".toList ++ (ext.base64 pubkey).toList ++ " subdomain=".toList) rfl rfl
    simpa [front] using between
  unfold bareLine
  rw [shape, takeWhile_append_of_pos clean, takeWhile_cons_of_neg (by decide),
    append_nil, trim_concat ' ' rfl, ends]

theorem enrollLine_parse (laws : Base64Laws ext decode) (pubkey : PubKey) (now : String)
    (hint : Option String) : parseLine decode (enrollLine ext pubkey now hint).toList =
      some (pubkey, { AuthorizedEntry.default with
        allowAnySubdomain := true
        comment := lineComment (enrollLine ext pubkey now hint).toList }) := by
  have words : splitWhitespace (bareLine (enrollLine ext pubkey now hint).toList) =
      ["ed25519".toList, (ext.base64 pubkey).toList, "subdomain=*".toList] := by
    rw [enrollLine_bare laws]
    unfold splitWhitespace
    rw [splitOnP_append_cons_of_forall_mem (by simp [isWhitespace]) ' ' (by decide),
      splitOnP_append_cons_of_forall_mem (fun c mem => (laws.plain pubkey c mem).1) ' '
        (by decide), splitOnP_eq_singleton (by simp [isWhitespace])]
    have some : ((ext.base64 pubkey).toList).isEmpty = false :=
      isEmpty_eq_false_iff.mpr (laws.nonempty pubkey)
    simp [some]
  unfold parseLine
  rw [words]
  simp only [laws.decodes, ofBytes_toList, bind_eq_bind, bind_some]
  rfl

/-- After every call the file parses and the index is what it parses to. An enrollment
authorizes the enrolled key for every subdomain and changes no other key's entry, and
neither a reload nor a restart makes anything else of the file. -/
theorem index_mirrors_file (laws : Base64Laws ext decode) (store final : KeyStore)
    (events : List KeyEvent) (start : InSync decode store)
    (whole : ∀ event ∈ events, undivided event = true)
    (finished : run (KeyStore.step decode) store events = some final) : InSync decode final ∧
      ∀ pubkey now hint io stored after,
        undivided (.append (enrollLine ext pubkey now hint).toList io) = true →
        final.appendLine decode (enrollLine ext pubkey now hint).toList io = (.ok stored, after) →
          (∃ comment, after.keys.get pubkey =
            some { AuthorizedEntry.default with allowAnySubdomain := true, comment }) ∧
          (∀ other, other ≠ pubkey → after.keys.get other = final.keys.get other) ∧
          ∀ later reached, (∀ event ∈ later, rereads event = true) →
            run (KeyStore.step decode) after later = some reached →
              reached.keys.entries = after.keys.entries := by
  have sync : InSync decode final :=
    run_meets (InSync decode) (fun state event next => step_inSync decode)
      start (meets_of_mem _ _ events (fun event member _ => whole event member) store)
      finished
  refine ⟨sync, fun pubkey now hint io stored after cond appended => ?_⟩
  have synced := append_inSync decode final (enrollLine ext pubkey now hint).toList io sync cond
  rw [appended] at synced
  obtain ⟨key, entry, accepted, inserted⟩ := appendLine_ok decode final after _ stored io appended
  rw [enrollLine_parse laws] at accepted
  cases accepted
  refine ⟨⟨lineComment (enrollLine ext pubkey now hint).toList, ?_⟩, fun other ne => ?_, fun later reached only finished => ?_⟩
  · rw [inserted]
    exact AList.lookup_insert _
  · rw [inserted]
    exact AList.lookup_insert_ne ne
  · exact (rereads_entries decode synced only finished).2

end Enrollment

section Standard

theorem plain_of_value? {c : Char} (valued : (Base64.value? c).isSome = true) :
    isWhitespace c = false ∧ c ≠ '#' := by
  have range : (47 ≤ c.toNat ∧ c.toNat ≤ 122) ∨ c.toNat = 43 := by
    unfold Base64.value? at valued
    dsimp only at valued
    split_ifs at valued <;> first | omega | cases valued
  constructor
  · simp [isWhitespace]
    omega
  · rintro rfl
    revert range
    decide

/-- A client's view of base64 that agrees with the standard alphabet. -/
theorem base64Laws_standard (ext : External)
    (standard : ∀ pubkey, ext.base64 pubkey = String.ofList (Base64.encode pubkey.bytes.toList)) :
    Base64Laws ext Base64.decode where
  decodes pubkey := by
    rw [standard, String.toList_ofList, Base64.decode_encode]
  nonempty pubkey := by
    rw [standard, String.toList_ofList]
    intro empty
    have decoded := Base64.decode_encode pubkey.bytes.toList
    rw [empty] at decoded
    have size : pubkey.bytes.toList.length = 32 := by simp
    rw [← Option.some.inj decoded] at size
    cases size
  plain pubkey c member := by
    rw [standard, String.toList_ofList] at member
    rcases Base64.mem_encode member with valued | rfl
    · exact plain_of_value? valued
    · decide

def standardBase64 : External where
  verifyChallenge := fun _ _ _ => false
  base64 := fun pubkey => String.ofList (Base64.encode pubkey.bytes.toList)

def frank : PubKey := ⟨.replicate 32 6⟩

def grace : PubKey := ⟨.replicate 32 7⟩

/-- Every call to the system succeeds. -/
def calm : Io := ⟨none, .done, none, [], []⟩

def emptyStore : KeyStore := ⟨.text [], ⟨∅, []⟩⟩

theorem emptyStore_inSync (decode : List Char → Option (List UInt8)) : InSync decode emptyStore :=
  ⟨[], rfl, rfl⟩

def enrollment (pubkey : PubKey) (hint : String) : List Char :=
  (enrollLine standardBase64 pubkey "2026-01-01T00:00:00.000000000Z" (some hint)).toList

/-- The line in the kernel's terms: a literal is the list of its characters, and no string is
taken apart again. -/
theorem enrollment_eq (pubkey : PubKey) (hint : String) :
    enrollment pubkey hint = "ed25519 ".toList ++ (Base64.encode pubkey.bytes.toList ++
      (" subdomain=* # enrolled ".toList ++ ("2026-01-01T00:00:00.000000000Z".toList ++
        (" ".toList ++ hint.toList)))) := by
  simp only [enrollment, enrollLine, standardBase64, String.toList_append, String.toList_ofList,
    getD_some, append_assoc]

theorem index_mirrors_file_enrolled : undivided (.append (enrollment frank "laptop") calm) = true ∧
      InSync Base64.decode (emptyStore.appendLine Base64.decode (enrollment frank "laptop") calm).2 := by
  have whole : undivided (.append (enrollment frank "laptop") calm) = true := by
    rw [enrollment_eq]
    repeat rw [String.toList_ofList]
    decide +kernel
  refine ⟨whole, ?_⟩
  exact (index_mirrors_file (base64Laws_standard standardBase64 fun _ => rfl) emptyStore _
    [.append (enrollment frank "laptop") calm] (emptyStore_inSync _)
    (forall_mem_singleton.mpr whole) rfl).1

/-- What a client may send as its label hint: the end of one line and the whole of the next. -/
def smuggling : String := "\ned25519 " ++ standardBase64.base64 grace ++ " subdomain=*"

/-- The registry after one enrollment with that hint. -/
def smuggled : KeyStore :=
  (emptyStore.appendLine Base64.decode (enrollment frank smuggling) calm).2

/-- The enrollment of one key writes a second key into the file. The index does not have
it, the next reload does. -/
theorem enrollment_hint_authorizes_another_key :
    (emptyStore.appendLine Base64.decode (enrollment frank smuggling) calm).1.isOk = true ∧
      smuggled.keys.get grace = none ∧
      ((smuggled.reload Base64.decode calm).2.keys.get grace).map
        AuthorizedEntry.allowAnySubdomain = some true ∧
      ¬ InSync Base64.decode smuggled := by
  have smuggles : (emptyStore.appendLine Base64.decode (enrollment frank smuggling) calm).1.isOk =
        true ∧
      smuggled.keys.get grace = none ∧
      ((smuggled.reload Base64.decode calm).2.keys.get grace).map
        AuthorizedEntry.allowAnySubdomain = some true := by
    rw [smuggled, enrollment_eq, smuggling, standardBase64, String.toList_append,
      String.toList_append]
    repeat rw [String.toList_ofList]
    decide +kernel
  obtain ⟨accepted, absent, reloaded⟩ := smuggles
  refine ⟨accepted, absent, reloaded, fun sync => ?_⟩
  have same := (reload_inSync Base64.decode smuggled calm sync).2
  unfold KeyRegistry.get at reloaded absent
  rw [same, absent] at reloaded
  cases reloaded

end Standard

end KrotRelay.Guarantees
