import KrotRelay.Lib.CommitLog
import KrotRelay.Guarantees.KeyIndex

/-!
# Concurrent writers of the key file

Each writer reads the whole file and later replaces it. Where every replacement still
finds what its call read, the calls take effect one after the other: an append when it
replaces the file, a removal that finds nothing when it reads. Two appends that read the
same file lose the first.
-/
namespace KrotRelay.Guarantees
open Source Lib List
open KeyCalls (setStage invoked afterRead rewrite)

variable {id : Nat} {contents : List Char} {stage : CallStage}

section Sequential
variable (decode : List Char → Option (List UInt8))

/-- What a call alone makes of the file. -/
def KeyCall.onFile (contents : List Char) : KeyCall → List Char
  | .append line => appended contents line
  | .remove target =>
    if isNamed decode target contents then without decode target contents else contents

/-- What it makes of the file's content lines. -/
def KeyCall.onRows (rows : List (List Char)) : KeyCall → List (List Char)
  | .append line => rows ++ [trim line]
  | .remove target => rows.filter fun row => !names decode target row

/-- An accepted line that is one line; every removal. -/
def KeyCall.plain : KeyCall → Bool
  | .append line => '\n' ∉ trim line && (parseLine decode line).isSome
  | .remove _ => true

theorem onFile_remove_eq (target : PubKey) (text : List Char) :
    contentLines (KeyCall.onFile decode text (.remove target)) =
      (contentLines text).filter fun row => !names decode target row := by
  rw [KeyCall.onFile]
  split
  · exact contentLines_without decode target text
  · rename_i unnamed
    refine (filter_eq_self.mpr fun row mem => ?_).symm
    cases named : names decode target row with
    | false => rfl
    | true => exact absurd ((isNamed_iff decode target text).mpr ⟨row, mem, named⟩) unnamed

theorem contentLines_onFile (text : List Char) (plain : KeyCall.plain decode call = true) :
    contentLines (KeyCall.onFile decode text call) =
      KeyCall.onRows decode (contentLines text) call := by
  cases call with
  | remove target => exact onFile_remove_eq decode target text
  | append line =>
    simp only [KeyCall.plain, Bool.and_eq_true, decide_eq_true_eq] at plain
    obtain ⟨single, accepted⟩ := plain
    obtain ⟨parsed, accepted⟩ := Option.isSome_iff_exists.mp accepted
    have nonempty : trim line ≠ [] := by
      intro none
      have kept := not_skipped_of_parseLine decode accepted
      rw [none] at kept
      cases kept
    simp only [KeyCall.onFile, KeyCall.onRows, contentLines_appended,
      contentLines_single line single nonempty]

theorem contentLines_foldl (order : List KeyCall) (text : List Char)
    (plain : ∀ call ∈ order, KeyCall.plain decode call = true) :
    contentLines (order.foldl (KeyCall.onFile decode) text) =
      order.foldl (KeyCall.onRows decode) (contentLines text) := by
  induction order generalizing text with
  | nil => rfl
  | cons call _ ih =>
    rw [foldl_cons, foldl_cons, ih _ fun later mem => plain later (mem_cons_of_mem _ mem),
      contentLines_onFile decode text (plain call mem_cons_self)]

/-- A line no removal names stays. -/
theorem mem_foldl_onRows (order : List KeyCall) (rows : List (List Char)) (mem : row ∈ rows)
    (unnamed : ∀ target, .remove target ∈ order → names decode target row = false) :
    row ∈ order.foldl (KeyCall.onRows decode) rows := by
  induction order generalizing rows with
  | nil => exact mem
  | cons call _ ih =>
    refine ih _ ?_ fun target later => unnamed target (mem_cons_of_mem _ later)
    cases call with
    | append => exact mem_append_left _ mem
    | remove target =>
      exact mem_filter.mpr ⟨mem, by rw [unnamed target mem_cons_self]; rfl⟩

/-- A line is an old one or one that was appended. -/
theorem foldl_onRows_mem (order : List KeyCall) (rows : List (List Char))
    (mem : row ∈ order.foldl (KeyCall.onRows decode) rows) :
    row ∈ rows ∨ ∃ line, .append line ∈ order ∧ row = trim line := by
  induction order generalizing rows with
  | nil => exact .inl mem
  | cons call _ ih =>
    rcases ih _ mem with present | ⟨line, later, rfl⟩
    · cases call with
      | append line =>
        rcases mem_append.mp present with old | new
        · exact .inl old
        · exact .inr ⟨line, mem_cons_self, mem_singleton.mp new⟩
      | remove => exact .inl (mem_of_mem_filter present)
    · exact .inr ⟨line, mem_cons_of_mem _ later, rfl⟩

theorem names_trim_iff {line : List Char} {target : PubKey} :
    names decode target (trim line) = true ↔
      ∃ entry, parseLine decode line = some (target, entry) := by
  rw [names_trim, names_iff]

/-- What a sequential order of calls leaves in the file: a line for every key appended and
not removed later, none for a key removed and not appended later, and every line that no
removal names. -/
theorem foldl_onFile_lines (order : List KeyCall) (init : List Char)
    (plain : ∀ call ∈ order, KeyCall.plain decode call = true) :
    (∀ earlier line later pubkey entry, order = earlier ++ .append line :: later →
      parseLine decode line = some (pubkey, entry) → .remove pubkey ∉ later →
        ∃ row ∈ contentLines (order.foldl (KeyCall.onFile decode) init),
          parseLine decode row = some (pubkey, entry)) ∧
    (∀ earlier target later, order = earlier ++ .remove target :: later →
      (∀ line entry, .append line ∈ later → parseLine decode line ≠ some (target, entry)) →
        ∀ row ∈ contentLines (order.foldl (KeyCall.onFile decode) init),
          names decode target row = false) ∧
    ∀ row ∈ contentLines init,
      (∀ target, .remove target ∈ order → names decode target row = false) →
        row ∈ contentLines (order.foldl (KeyCall.onFile decode) init) := by
  rw [contentLines_foldl decode order init plain]
  refine ⟨?_, ?_, fun row mem unnamed => mem_foldl_onRows decode order _ mem unnamed⟩
  · rintro earlier line later pubkey entry rfl accepted kept
    rw [foldl_append, foldl_cons]
    refine ⟨trim line, mem_foldl_onRows decode later _ (mem_append_right _ (by simp)) ?_,
      (parseLine_trim decode line).trans accepted⟩
    intro target removed
    cases named : names decode target (trim line) with
    | false => rfl
    | true =>
      obtain ⟨other, parsed⟩ := (names_trim_iff decode).mp named
      rw [accepted] at parsed
      cases parsed
      exact absurd removed kept
  · rintro earlier target later rfl unappended row mem
    rw [foldl_append, foldl_cons] at mem
    rcases foldl_onRows_mem decode later _ mem with old | ⟨line, listed, rfl⟩
    · simpa [KeyCall.onRows] using (mem_filter.mp old).2
    · cases named : names decode target (trim line) with
      | false => rfl
      | true =>
        obtain ⟨entry, parsed⟩ := (names_trim_iff decode).mp named
        exact absurd parsed (unappended line entry listed)

end Sequential

section Concurrent
variable (decode : List Char → Option (List UInt8))

def hasSucceeded : CallStage → Bool
  | .returned (.appended _) | .returned (.removed _) => true
  | _ => false

/-- The call has not taken effect yet. -/
def isPending : CallStage → Bool
  | .started | .holding _ => true
  | _ => false

/-- It has, and has not failed since. -/
def isEffective : CallStage → Bool
  | .wrote | .reparsed _ | .returned (.appended _) | .returned (.removed _) => true
  | _ => false

/-- Reads succeed, each line appended is one line, and a call that replaces the file finds
what it read. -/
def undisturbed (calls : KeyCalls) : CallEvent → Bool
  | .invoke (.append line) => '\n' ∉ trim line
  | .read _ refusal => refusal.isNone
  | .write id _ =>
    match calls.calls[id]? with
    | some (_, .holding contents) => calls.store.file = .text contents
    | _ => true
  | _ => true

/-- What is known of one call, given the calls that have taken effect. -/
structure CallFact (log : List (Nat × KeyCall)) (id : Nat) (call : KeyCall) (stage : CallStage) :
    Prop where
  fresh : isPending stage = true → id ∉ log.map Prod.fst
  logged : isEffective stage = true → id ∈ log.map Prod.fst
  plain : (isPending stage || isEffective stage) = true → KeyCall.plain decode call = true
  named : ∀ held target, stage = .holding held → call = .remove target →
    isNamed decode target held = true

/-- The file is what the logged calls make of it one after the other. -/
structure Serialized (init : List Char) (calls : KeyCalls) (log : List (Nat × KeyCall)) : Prop where
  commits : CommitLog (calls.calls.map Prod.fst) log
  contents : calls.store.file = .text ((log.map Prod.snd).foldl (KeyCall.onFile decode) init)
  facts : ∀ id call stage, calls.calls[id]? = some (call, stage) → CallFact decode log id call stage

variable {decode} {init : List Char} {calls : KeyCalls} {log : List (Nat × KeyCall)}

theorem map_fst_set {call : KeyCall} (found : calls.calls[id]? = some (call, stage))
    (next : CallStage) :
    (calls.calls.set id (call, next)).map Prod.fst = calls.calls.map Prod.fst := by
  apply ext_getElem?
  intro position
  rw [getElem?_map, getElem?_map, getElem?_set]
  split
  · rename_i same
    subst same
    rw [if_pos (List.getElem?_eq_some_iff.mp found).1, found]
    rfl
  · rfl

/-- A call moves on without taking effect. -/
theorem Serialized.move (serial : Serialized decode init calls log) {call : KeyCall}
    {next : CallStage} (found : calls.calls[id]? = some (call, stage))
    (same : store.file = calls.store.file) (fact : CallFact decode log id call next) :
    Serialized decode init (setStage { calls with store } id call next) log where
  commits := by
    rw [KeyCalls.setStage_calls, map_fst_set found]
    exact serial.commits
  contents := same.trans serial.contents
  facts position other stage' held := by
    rw [KeyCalls.setStage_calls, getElem?_set] at held
    split at held
    · rename_i here
      subst here
      rw [if_pos (List.getElem?_eq_some_iff.mp found).1] at held
      cases held
      exact fact
    · exact serial.facts position other stage' held

/-- A call takes effect. -/
theorem Serialized.commit (serial : Serialized decode init calls log) {call : KeyCall}
    {next : CallStage} (found : calls.calls[id]? = some (call, stage))
    (waiting : isPending stage = true) (moved : isPending next = false)
    (held : calls.store.file = .text text)
    (written : store.file = .text (KeyCall.onFile decode text call)) :
    Serialized decode init (setStage { calls with store } id call next) (log ++ [(id, call)]) := by
  have fact := serial.facts id call stage found
  have added : (log ++ [(id, call)]).map Prod.fst = log.map Prod.fst ++ [id] := by simp
  have listed : (calls.calls.map Prod.fst)[id]? = some call := by
    rw [getElem?_map, found]
    rfl
  refine ⟨?_, ?_, fun position other stage' at_ => ?_⟩
  · rw [KeyCalls.setStage_calls, map_fst_set found]
    exact serial.commits.commit listed (fact.fresh waiting)
  · rw [serial.contents] at held
    cases held
    rw [map_append, foldl_append]
    exact written
  · rw [KeyCalls.setStage_calls, getElem?_set] at at_
    split at at_
    · rename_i here
      subst here
      rw [if_pos (List.getElem?_eq_some_iff.mp found).1] at at_
      cases at_
      refine ⟨fun still => ?_, fun _ => ?_, fun _ => ?_, fun held target holding _ => ?_⟩
      · rw [moved] at still
        cases still
      · rw [added]
        exact mem_append_right _ (mem_singleton.mpr rfl)
      · exact fact.plain (by rw [waiting, Bool.true_or])
      · rw [holding] at moved
        cases moved
    · rename_i elsewhere
      have known := serial.facts position other stage' at_
      refine ⟨fun still => ?_, fun done => ?_, known.plain, known.named⟩
      · rw [added, mem_append, mem_singleton, not_or]
        exact ⟨known.fresh still, fun here => elsewhere here.symm⟩
      · rw [added]
        exact mem_append_left _ (known.logged done)

theorem Serialized.id_lt (serial : Serialized decode init calls log)
    (logged : id ∈ log.map Prod.fst) : id < calls.calls.length := by
  obtain ⟨record, mem, rfl⟩ := mem_map.mp logged
  have found := (List.getElem?_eq_some_iff.mp (serial.commits.recorded record mem)).1
  rwa [length_map] at found

theorem invoked_plain (cond : undisturbed calls (.invoke call) = true)
    (waiting : (isPending (invoked decode call) ||
      isEffective (invoked decode call)) = true) : KeyCall.plain decode call = true := by
  cases call with
  | remove => rfl
  | append line =>
    rw [invoked] at waiting
    split at waiting
    · cases waiting
    · rename_i accepted
      simp only [undisturbed, decide_eq_true_eq] at cond
      simp only [KeyCall.plain, Bool.and_eq_true, decide_eq_true_eq]
      exact ⟨cond, by simpa [Option.isSome_iff_ne_none] using accepted⟩

theorem invoked_neither (decode : List Char → Option (List UInt8)) (call : KeyCall) :
    isEffective (invoked decode call) = false ∧ ∀ held, invoked decode call ≠ .holding held := by
  cases call with
  | remove => exact ⟨rfl, fun held => nofun⟩
  | append =>
    rw [invoked]
    split
    · exact ⟨rfl, fun held => nofun⟩
    · exact ⟨rfl, fun held => nofun⟩

theorem Serialized.invoke (serial : Serialized decode init calls log) (call : KeyCall)
    (cond : undisturbed calls (.invoke call) = true) : Serialized decode init
      { calls with calls := calls.calls ++ [(call, invoked decode call)] } log where
  commits := by
    rw [map_append]
    exact serial.commits.issue call
  contents := serial.contents
  facts id other stage found := by
    rcases Nat.lt_trichotomy id calls.calls.length with old | rfl | beyond
    · rw [getElem?_append_left old] at found
      exact serial.facts id other stage found
    · rw [getElem?_concat_length] at found
      cases found
      have neither := invoked_neither decode call
      refine ⟨fun _ logged => ?_, fun done => ?_, invoked_plain cond, fun held _ holding _ => ?_⟩
      · exact absurd (serial.id_lt logged) (Nat.lt_irrefl _)
      · rw [neither.1] at done
        cases done
      · exact absurd holding (neither.2 held)
    · rw [getElem?_eq_none (by simp; omega)] at found
      cases found

theorem Serialized.read (serial : Serialized decode init calls log) {call : KeyCall}
    (found : calls.calls[id]? = some (call, .started)) (held : calls.store.file = .text text) :
    ∃ log', Serialized decode init
      (calls.setStage id call (afterRead decode text call)) log' := by
  have fact := serial.facts id call .started found
  have plain := fact.plain rfl
  cases call with
  | append =>
    exact ⟨log, serial.move found rfl ⟨fun _ => fact.fresh rfl, nofun, fun _ => plain, nofun⟩⟩
  | remove target =>
    rw [afterRead]
    split
    · rename_i named
      refine ⟨log, serial.move found rfl ⟨fun _ => fact.fresh rfl, nofun, fun _ => plain, ?_⟩⟩
      rintro _ _ ⟨⟩ ⟨⟩
      exact named
    · -- nothing to remove: the call takes effect here
      rename_i unnamed
      refine ⟨_, serial.commit found rfl rfl held ?_⟩
      rw [KeyCall.onFile, if_neg unnamed]
      exact held

theorem rewrite_eq_onFile {call : KeyCall}
    (fact : CallFact decode log id call (.holding text)) :
    rewrite decode text call = KeyCall.onFile decode text call := by
  cases call with
  | append => rfl
  | remove => rw [rewrite, KeyCall.onFile, if_pos (fact.named _ _ rfl rfl)]

theorem Serialized.write (serial : Serialized decode init calls log) {call : KeyCall}
    (found : calls.calls[id]? = some (call, .holding text))
    (held : calls.store.file = .text text) {next : KeyCalls}
    (step : calls.step decode (.write id written) = some next) :
    ∃ log', Serialized decode init next log' := by
  have fact := serial.facts id call _ found
  have rewritten := rewrite_eq_onFile fact
  simp only [KeyCalls.step, found] at step
  cases written with
  | failed =>
    cases step
    exact ⟨log, serial.move found rfl ⟨nofun, nofun, nofun, nofun⟩⟩
  | unsynced | done =>
    cases step
    exact ⟨_, serial.commit found rfl rfl held (by rw [rewritten])⟩

/-- A call that has taken effect goes on without touching the file. -/
theorem Serialized.settle (serial : Serialized decode init calls log) {call : KeyCall}
    (found : calls.calls[id]? = some (call, stage)) (done : isEffective stage = true)
    (next : CallStage) (moved : isPending next = false) (store : KeyStore)
    (same : store.file = calls.store.file) :
    Serialized decode init (setStage { calls with store } id call next) log := by
  have fact := serial.facts id call stage found
  refine serial.move found same ⟨fun still => ?_, fun _ => fact.logged done, fun _ => ?_,
    fun held _ holding _ => ?_⟩
  · rw [moved] at still
    cases still
  · exact fact.plain (by rw [done, Bool.or_true])
  · rw [holding] at moved
    cases moved

/-- One step of any call keeps the file a sequential outcome. -/
theorem step_serialized {next : KeyCalls}
    (serial : ∃ log, Serialized decode init calls log) (cond : undisturbed calls event = true)
    (step : calls.step decode event = some next) : ∃ log, Serialized decode init next log := by
  obtain ⟨log, serial⟩ := serial
  cases event with
  | invoke call =>
    cases step
    exact ⟨log, serial.invoke call cond⟩
  | read id refusal =>
    obtain rfl := Option.isNone_iff_eq_none.mp cond
    simp only [KeyCalls.step] at step
    split at step
    · rename_i call found
      cases step
      rw [serial.contents]
      exact serial.read found serial.contents
    · cases step
  | write id written =>
    rcases found : calls.calls[id]? with _ | ⟨call, stage⟩
    · simp only [KeyCalls.step, found] at step
      cases step
    · cases stage with
      | holding text =>
        simp only [undisturbed, found, decide_eq_true_eq] at cond
        exact serial.write found cond step
      | started | wrote | reparsed | returned =>
        simp only [KeyCalls.step, found] at step
        cases step
  | reparse id refusal =>
    simp only [KeyCalls.step] at step
    split at step
    · rename_i target found
      split at step
      all_goals
        cases step
        exact ⟨log, serial.settle found rfl _ rfl calls.store rfl⟩
    · cases step
  | update id removedOrder modifiedOrder =>
    simp only [KeyCalls.step] at step
    split at step
    · rename_i line found
      obtain ⟨pair, _, rfl⟩ := Option.map_eq_some_iff.mp step
      exact ⟨log, serial.settle found rfl _ rfl _ rfl⟩
    · rename_i target updated found
      cases step
      exact ⟨log, serial.settle found rfl _ rfl _ (KeyStore.swap_file _ _ _ _)⟩
    · cases step

/-- Where every replacement finds what its call read, calls that have all returned well
leave the file some sequential order of them would leave: with a line for every key
appended and not removed later, none for a key removed and not appended later, and every
line that no removal names. -/
theorem no_key_update_lost (decode : List Char → Option (List UInt8)) (store : KeyStore)
    (init : List Char) (holds : store.file = .text init)
    (events : List CallEvent) (final : KeyCalls)
    (met : Meets (KeyCalls.step decode) (fun calls event => undisturbed calls event = true)
      ⟨store, []⟩ events)
    (finished : run (KeyCalls.step decode) ⟨store, []⟩ events = some final)
    (returned : ∀ call ∈ final.calls, hasSucceeded call.2 = true) :
    ∃ (order : List KeyCall) (text : List Char), order.Perm (final.calls.map Prod.fst) ∧
      final.store.file = .text text ∧ text = order.foldl (KeyCall.onFile decode) init ∧
      (∀ earlier line later pubkey entry, order = earlier ++ .append line :: later →
        parseLine decode line = some (pubkey, entry) → .remove pubkey ∉ later →
          ∃ row ∈ contentLines text, parseLine decode row = some (pubkey, entry)) ∧
      (∀ earlier target later, order = earlier ++ .remove target :: later →
        (∀ line entry, .append line ∈ later → parseLine decode line ≠ some (target, entry)) →
          ∀ row ∈ contentLines text, names decode target row = false) ∧
      ∀ row ∈ contentLines init,
        (∀ target, .remove target ∈ order → names decode target row = false) →
          row ∈ contentLines text := by
  have start : ∃ log, Serialized decode init ⟨store, []⟩ log :=
    ⟨[], CommitLog.nil, holds, fun id call stage found => by cases found⟩
  obtain ⟨log, serial⟩ := run_meets
    (fun calls => ∃ log, Serialized decode init calls log)
    (fun calls event next serial cond stepped => step_serialized serial cond stepped)
    start met finished
  have effective : ∀ stage, hasSucceeded stage = true → isEffective stage = true := by
    intro stage well
    unfold hasSucceeded at well
    split at well
    · rfl
    · rfl
    · cases well
  have order : (log.map Prod.snd).Perm (final.calls.map Prod.fst) := by
    refine serial.commits.perm fun id bound => ?_
    rw [length_map] at bound
    exact (serial.facts id _ _ (getElem?_eq_getElem bound)).logged
      (effective _ (returned _ (getElem_mem bound)))
  have plain : ∀ call ∈ log.map Prod.snd, KeyCall.plain decode call = true := by
    intro call member
    obtain ⟨pair, listed, rfl⟩ := mem_map.mp (order.mem_iff.mp member)
    obtain ⟨id, found⟩ := mem_iff_getElem?.mp listed
    refine (serial.facts id pair.1 pair.2 found).plain ?_
    rw [effective _ (returned pair listed), Bool.or_true]
  exact ⟨log.map Prod.snd, _, order, serial.contents, rfl, foldl_onFile_lines decode _ init plain⟩

end Concurrent

section Scenario

def twoEnrollments : List CallEvent :=
  [.invoke (.append (enrollment frank "laptop")), .invoke (.append (enrollment grace "phone"))]

/-- Both calls run to their ends, the second after the first. -/
def enrolledInTurn : List CallEvent :=
  twoEnrollments ++
    [.read 0 none, .write 0 .done, .update 0 [] [], .read 1 none, .write 1 .done, .update 1 [] []]

/-- Both read the file before either has replaced it. -/
def bothReadFirst : List CallEvent :=
  twoEnrollments ++
    [.read 0 none, .read 1 none, .write 0 .done, .write 1 .done, .update 0 [] [], .update 1 [] []]

/-- The registry after a schedule of the two calls. -/
def settledCalls (schedule : List CallEvent) : KeyCalls :=
  final (KeyCalls.step Base64.decode) ⟨emptyStore, []⟩ schedule

theorem no_key_update_lost_two : ∃ (order : List KeyCall) (text : List Char),
      order.Perm ((settledCalls enrolledInTurn).calls.map Prod.fst) ∧
      (settledCalls enrolledInTurn).store.file = .text text ∧
      text = order.foldl (KeyCall.onFile Base64.decode) [] := by
  have evaluated : Meets (KeyCalls.step Base64.decode)
        (fun calls event => undisturbed calls event = true) ⟨emptyStore, []⟩ enrolledInTurn ∧
      (run (KeyCalls.step Base64.decode) ⟨emptyStore, []⟩ enrolledInTurn).isSome = true ∧
      ∀ call ∈ (settledCalls enrolledInTurn).calls, hasSucceeded call.2 = true := by
    rw [enrolledInTurn, twoEnrollments, enrollment_eq, enrollment_eq]
    repeat rw [String.toList_ofList]
    decide +kernel
  obtain ⟨met, enabled, returned⟩ := evaluated
  obtain ⟨order, text, perm, holds, sequential, _⟩ :=
    no_key_update_lost Base64.decode emptyStore [] rfl enrolledInTurn
      (settledCalls enrolledInTurn) met (run_final enabled) returned
  exact ⟨order, text, perm, holds, sequential⟩

/-- Two enrollments that read the same file: both succeed, and the first key is in the
index but not in the file. -/
theorem concurrent_enrollment_lost :
    (run (KeyCalls.step Base64.decode) ⟨emptyStore, []⟩ bothReadFirst).isSome = true ∧
      (settledCalls bothReadFirst).calls.all (fun call => hasSucceeded call.2) = true ∧
      ((settledCalls bothReadFirst).store.keys.get frank).isSome = true ∧
      isNamed Base64.decode frank
        ((settledCalls bothReadFirst).store.file.readOrDefault none) = false := by
  rw [bothReadFirst, twoEnrollments, enrollment_eq, enrollment_eq]
  repeat rw [String.toList_ofList]
  decide +kernel

end Scenario

end KrotRelay.Guarantees
