import KrotRelay.Guarantees.KeyIndex

/-!
# Announced changes of authorization

A session learns of a change of its key's entry from the revocation channel only. `reload`
sends what it changes; `append_line` writes the index itself and sends nothing, and the
reload its file event triggers then finds nothing changed.
-/
namespace KrotRelay.Guarantees
open Source Lib List Option

/-- From one state to a later one every key of the index either keeps its authorization
or was sent in between. -/
def ChangesSent (before after : KeyRegistry) : Prop :=
  ∃ sent, after.revocation = before.revocation ++ sent ∧
    ∀ pubkey old, before.get pubkey = some old → Current after pubkey old ∨ pubkey ∈ sent

theorem changesSent_refl (keys : KeyRegistry) : ChangesSent keys keys :=
  ⟨[], (append_nil _).symm, fun _ old found =>
    .inl ⟨old, found, authorizationEqual_refl old⟩⟩

theorem changesSent_trans {first second third : KeyRegistry} (left : ChangesSent first second)
    (right : ChangesSent second third) : ChangesSent first third := by
  obtain ⟨earlier, grown, before⟩ := left
  obtain ⟨later, grew, after⟩ := right
  refine ⟨earlier ++ later, by rw [grew, grown, append_assoc], fun pubkey old found => ?_⟩
  rcases before pubkey old found with ⟨middle, held, same⟩ | sent
  · rcases after pubkey middle held with ⟨current, now, kept⟩ | sent
    · exact .inl ⟨current, now, authorizationEqual_trans same kept⟩
    · exact .inr (mem_append_right _ sent)
  · exact .inr (mem_append_left _ sent)

theorem changesSent_swap (store : KeyStore) (updated : HashMap PubKey AuthorizedEntry)
    (removedOrder modifiedOrder : List PubKey) :
    ChangesSent store.keys (store.swap updated removedOrder modifiedOrder).keys := by
  refine ⟨_, KeyStore.swap_revocation _ _ _ _, fun pubkey old found => ?_⟩
  have held : Current store.keys pubkey old := ⟨old, found, authorizationEqual_refl old⟩
  rcases reload_current updated removedOrder modifiedOrder held with ⟨current, now, same⟩ | sent
  · refine .inl ⟨current, ?_, same⟩
    unfold KeyRegistry.get at now ⊢
    rw [KeyStore.swap_entries]
    exact now
  · exact .inr sent

theorem changesSent_append (keys : KeyRegistry) (pubkey : PubKey) (entry : AuthorizedEntry)
    (harmless : ∀ old, keys.get pubkey = some old → old.authorizationEqual entry = true) :
    ChangesSent keys (keys.appendEntry pubkey entry) :=
  ⟨[], (append_nil _).symm, fun _ old found =>
    .inl (current_append pubkey entry harmless ⟨old, found, authorizationEqual_refl old⟩)⟩

section Operations
variable (decode : List Char → Option (List UInt8))

/-- What is appended for a key of the index says what the index says. A restart has a new
channel and no sessions; it is not one of the operations. -/
def keepsAuthorization (store : KeyStore) : KeyEvent → Bool
  | .append line _ =>
    (parseLine decode line).all fun (pubkey, entry) =>
      (store.keys.get pubkey).all fun old => old.authorizationEqual entry
  | .restart _ => false
  | _ => true

theorem reload_changesSent (store : KeyStore) (io : Io) :
    ChangesSent store.keys (store.reload decode io).2.keys := by
  unfold KeyStore.reload
  split
  · exact changesSent_refl _
  · exact changesSent_swap _ _ _ _

theorem append_changesSent (cond : keepsAuthorization decode store (.append line io) = true) :
    ChangesSent store.keys (store.appendLine decode line io).2.keys := by
  unfold KeyStore.appendLine
  cases accepted : parseLine decode line with
  | none => exact changesSent_refl _
  | some pair =>
    obtain ⟨pubkey, entry⟩ := pair
    simp only [keepsAuthorization, accepted, all_some] at cond
    cases io.written with
    | failed | unsynced => exact changesSent_refl _
    | done =>
      refine changesSent_append _ pubkey entry fun old found => ?_
      rw [found] at cond
      exact cond

theorem remove_changesSent (store : KeyStore) (target : PubKey) (io : Io) :
    ChangesSent store.keys (store.removePubkey decode target io).2.keys := by
  unfold KeyStore.removePubkey
  dsimp only
  split
  · cases io.written with
    | failed | unsynced => exact changesSent_refl _
    | done =>
      have reloaded := reload_changesSent decode
        { store with file := .text (without decode target (store.file.readOrDefault io.refusal)) } io
      simp only [KeyStore.atomicWrite]
      split
      all_goals
        rename_i result
        rw [result] at reloaded
        exact reloaded
  · exact changesSent_refl _

theorem step_changesSent {store : KeyStore} {event : KeyEvent} {next : KeyStore}
    (cond : keepsAuthorization decode store event = true)
    (step : store.step decode event = some next) : ChangesSent store.keys next.keys := by
  cases event with
  | append line io => exact Option.some.inj step ▸ append_changesSent decode cond
  | remove target io => exact Option.some.inj step ▸ remove_changesSent decode store target io
  | reload io => exact Option.some.inj step ▸ reload_changesSent decode store io
  | restart => cases cond
  | edit => exact Option.some.inj step ▸ changesSent_refl _

/-- A reload of a file the index already mirrors sends nothing. -/
theorem reload_revocation (store : KeyStore) (io : Io) (sync : InSync decode store) :
    (store.reload decode io).2.keys.revocation = store.keys.revocation := by
  obtain ⟨text, holds, parses⟩ := sync
  unfold KeyStore.reload KeyStore.parseFile FileContents.readToString
  rw [holds]
  cases io.rereadRefusal with
  | some => rfl
  | none =>
    simp only [parses, KeyStore.swap_revocation]
    have kept : KeyRegistry.removedKeys store.keys.entries store.keys.entries io.removedOrder = [] := by
      rw [KeyRegistry.removedKeys, filter_eq_nil_iff]
      intro pubkey visited
      have listed := (HashMap.mem_visitOrder _ _ _).mp visited
      rw [isNone_iff_eq_none]
      exact isSome_iff_ne_none.mp listed
    have same : KeyRegistry.modifiedKeys store.keys.entries store.keys.entries io.modifiedOrder =
        [] := by
      rw [KeyRegistry.modifiedKeys, filter_eq_nil_iff]
      intro pubkey _
      cases store.keys.entries.lookup pubkey with
      | none => simp
      | some => simp [authorizationEqual_refl]
    rw [kept, same, append_nil, append_nil]

theorem append_reload_sent {store after : KeyStore} {line stored : List Char} {io watch : Io}
    (sync : InSync decode store) (whole : undivided (.append line io) = true)
    (succeeded : store.appendLine decode line io = (.ok stored, after))
    (sent : ChangesSent store.keys (after.reload decode watch).2.keys) :
    keepsAuthorization decode store (.append line io) = true := by
  have synced := append_inSync decode store line io sync whole
  rw [succeeded] at synced
  obtain ⟨pubkey, entry, accepted, inserted⟩ := appendLine_ok decode store after line stored io succeeded
  obtain ⟨announced, grown, changes⟩ := sent
  have silent : announced = [] := by
    rw [reload_revocation decode after watch synced, inserted] at grown
    exact self_eq_append_right.mp grown
  simp only [keepsAuthorization, accepted, all_some]
  cases found : store.keys.get pubkey with
  | none => rfl
  | some old =>
    rcases changes pubkey old found with ⟨current, now, same⟩ | mine
    · unfold KeyRegistry.get at now
      rw [(reload_inSync decode after watch synced).2, inserted] at now
      obtain rfl : entry = current := Option.some.inj ((AList.lookup_insert _).symm.trans now)
      exact same
    · rw [silent] at mine
      cases mine

/-- In every sequence of operations and edits in which no append changes what the index
says of a key, each key whose authorization is gone or changed was sent. For a line
appended to a file the index mirrors, the condition is needed as well: otherwise the key
is not sent by the append and not by the reload its file event triggers. -/
theorem authorization_changes_announced (store final : KeyStore) (events : List KeyEvent)
    (met : Meets (KeyStore.step decode) (fun state event =>
      keepsAuthorization decode state event = true) store events)
    (finished : run (KeyStore.step decode) store events = some final) :
    ChangesSent store.keys final.keys ∧ ∀ line io watch stored after, InSync decode final →
        undivided (.append line io) = true →
        final.appendLine decode line io = (.ok stored, after) →
          (ChangesSent final.keys (after.reload decode watch).2.keys ↔
            keepsAuthorization decode final (.append line io) = true) := by
  constructor
  · refine run_meets (fun state => ChangesSent store.keys state.keys) ?_
      (changesSent_refl _) met finished
    intro state event next sent cond stepped
    exact changesSent_trans sent (step_changesSent decode cond stepped)
  · intro line io watch stored after sync whole succeeded
    refine ⟨append_reload_sent decode sync whole succeeded, ?_⟩
    intro cond
    have appended := append_changesSent decode cond
    rw [succeeded] at appended
    exact changesSent_trans appended (reload_changesSent decode after watch)

end Operations

section Scenario

def narrowed : List Char :=
  ("ed25519 " ++ standardBase64.base64 frank ++ " subdomain=laptop").toList

def enrolledStore : KeyStore :=
  (emptyStore.appendLine Base64.decode (enrollment frank "laptop") calm).2

/-- The registry after the narrower line is appended and the watcher has reloaded. -/
def narrowedStore : KeyStore :=
  ((enrolledStore.appendLine Base64.decode narrowed calm).2.reload Base64.decode calm).2

theorem authorization_changes_announced_removed : ChangesSent enrolledStore.keys
      (enrolledStore.removePubkey Base64.decode frank calm).2.keys :=
  (authorization_changes_announced Base64.decode enrolledStore _ [.remove frank calm]
    ⟨rfl, fun _ _ => trivial⟩ rfl).1

/-- A key narrowed by an append is not announced, so its sessions go on as before. -/
theorem appended_narrowing_goes_unannounced :
    (enrolledStore.appendLine Base64.decode narrowed calm).1.isOk = true ∧
      narrowedStore.keys.revocation = enrolledStore.keys.revocation ∧
      ¬ ChangesSent enrolledStore.keys narrowedStore.keys := by
  have evaluated : (enrolledStore.appendLine Base64.decode narrowed calm).1.isOk = true ∧
      narrowedStore.keys.revocation = enrolledStore.keys.revocation ∧
      (enrolledStore.keys.get frank).map AuthorizedEntry.allowAnySubdomain = some true ∧
      (narrowedStore.keys.get frank).map AuthorizedEntry.allowAnySubdomain = some false := by
    decide +kernel
  obtain ⟨accepted, silent, before, after⟩ := evaluated
  refine ⟨accepted, silent, ?_⟩
  rintro ⟨sent, grown, changes⟩
  have none : sent = [] := by
    rw [silent] at grown
    exact self_eq_append_right.mp grown
  obtain ⟨old, found, any⟩ := map_eq_some_iff.mp before
  rcases changes frank old found with ⟨current, now, same⟩ | mine
  · rw [now, map_some] at after
    simp only [AuthorizedEntry.authorizationEqual, Bool.and_eq_true, beq_iff_eq] at same
    rw [any, Option.some.inj after] at same
    cases same.1.1.1.1.1.1
  · rw [none] at mine
    cases mine

end Scenario

end KrotRelay.Guarantees
