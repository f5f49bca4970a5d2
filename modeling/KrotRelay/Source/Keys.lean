import Mathlib.Data.List.AList
import KrotRelay.Source.Registry

/-!
# Authorized keys and revocation (krot-server/src/keys.rs, session.rs)

The in-memory index, `reload` and the broadcast channel it announces revocations on.
`reload` replaces the index under its write lock and sends afterwards, one message
at a time, so the two are separate steps: `reload` here returns what is still to be
announced. `parse_file` is not modelled; its result is the argument. The order in
which a hash map is iterated is an argument as well.

The broadcast channel is the list of everything ever sent; a receiver is a position
in it. The channel retains the last `revocationCapacity` messages only.
-/
namespace KrotRelay.Source

inductive Period where
  | second | minute | hour | day | week | month
  deriving DecidableEq

structure RatePer where
  bytes : UInt64
  period : Period
  deriving DecidableEq

structure AuthorizedEntry where
  allowAnySubdomain : Bool
  allowedSubdomains : List String
  maxConns : Option UInt32
  allowedPorts : Option (List UInt16)
  bw : Option RatePer
  quota : Option RatePer
  federation : List String
  comment : Option String
  deriving DecidableEq

/-- Same authorization; the comment does not count. -/
def AuthorizedEntry.authorizationEqual (self other : AuthorizedEntry) : Bool :=
  self.allowAnySubdomain == other.allowAnySubdomain &&
    self.allowedSubdomains == other.allowedSubdomains &&
    self.maxConns == other.maxConns &&
    self.allowedPorts == other.allowedPorts &&
    self.bw == other.bw &&
    self.quota == other.quota &&
    self.federation == other.federation

def revocationCapacity : Nat := 256

structure KeyRegistry where
  entries : HashMap PubKey AuthorizedEntry
  /-- every message ever sent on the revocation channel -/
  revocation : List PubKey

namespace KeyRegistry

def get (keys : KeyRegistry) (pubkey : PubKey) : Option AuthorizedEntry :=
  keys.entries.lookup pubkey

/-- Pubkeys of the old index that the new one lacks, in iteration order. -/
def removedKeys (current updated : HashMap PubKey AuthorizedEntry) (order : List PubKey) :
    List PubKey :=
  (HashMap.visitOrder current order).filter fun pubkey => (updated.lookup pubkey).isNone

/-- Pubkeys of both whose authorization differs. -/
def modifiedKeys (current updated : HashMap PubKey AuthorizedEntry) (order : List PubKey) :
    List PubKey :=
  (HashMap.visitOrder updated order).filter fun pubkey =>
    match updated.lookup pubkey, current.lookup pubkey with
    | some new, some old => !old.authorizationEqual new
    | _, _ => false

/-- `reload` up to the release of the lock; the list is what it goes on to send. -/
def reload (keys : KeyRegistry) (updated : HashMap PubKey AuthorizedEntry)
    (removedOrder modifiedOrder : List PubKey) : List PubKey × KeyRegistry :=
  (removedKeys keys.entries updated removedOrder ++ modifiedKeys keys.entries updated modifiedOrder,
    { keys with entries := updated })

def send (keys : KeyRegistry) (pubkey : PubKey) : KeyRegistry :=
  { keys with revocation := keys.revocation ++ [pubkey] }

/-- `append_line` once its line has parsed and the file is written: no announcement. -/
def appendEntry (keys : KeyRegistry) (pubkey : PubKey) (entry : AuthorizedEntry) : KeyRegistry :=
  { keys with entries := keys.entries.insert pubkey entry }

end KeyRegistry

/-- The task of `spawn_revocation_watcher`: a receiver, the key it looks for and the
watch it sets. It ends when it has set the watch. -/
structure RevocationWatcher where
  next : Nat
  target : PubKey
  revoked : Bool
  deriving DecidableEq

namespace RevocationWatcher

def spawn (keys : KeyRegistry) (target : PubKey) : RevocationWatcher where
  next := keys.revocation.length
  target := target
  revoked := false

/-- The oldest position the channel still holds for this receiver. -/
def oldest (watcher : RevocationWatcher) (keys : KeyRegistry) : Nat :=
  max watcher.next (keys.revocation.length - revocationCapacity)

/-- The messages the receiver will still be given. -/
def pending (watcher : RevocationWatcher) (keys : KeyRegistry) : List PubKey :=
  keys.revocation.drop (watcher.oldest keys)

/-- One completed `recv` of the loop; `none` while it has nothing to do. A receiver
that fell behind gets `Lagged`, which only moves it to the oldest message kept. -/
def poll (watcher : RevocationWatcher) (keys : KeyRegistry) : Option RevocationWatcher :=
  if watcher.revoked then none
  else if watcher.next < keys.revocation.length - revocationCapacity then
    some { watcher with next := keys.revocation.length - revocationCapacity }
  else
    match keys.revocation[watcher.next]? with
    | none => none
    | some pubkey =>
      if pubkey = watcher.target then
        some { watcher with next := watcher.next + 1, revoked := true }
      else some { watcher with next := watcher.next + 1 }

end RevocationWatcher

section Changes
variable {keys : KeyRegistry} {pubkey : PubKey} {entry : AuthorizedEntry}

theorem authorizationEqual_refl (entry : AuthorizedEntry) : entry.authorizationEqual entry = true := by
  simp [AuthorizedEntry.authorizationEqual]

theorem authorizationEqual_trans {first second third : AuthorizedEntry}
    (left : first.authorizationEqual second = true)
    (right : second.authorizationEqual third = true) : first.authorizationEqual third = true := by
  simp only [AuthorizedEntry.authorizationEqual, Bool.and_eq_true, beq_iff_eq] at *
  simp_all

/-- The entry is authorization-equal to the one now in the index. -/
def Current (keys : KeyRegistry) (pubkey : PubKey) (entry : AuthorizedEntry) : Prop :=
  ∃ current, keys.get pubkey = some current ∧ entry.authorizationEqual current = true

/-- Whatever a reload takes away from a key it goes on to announce. -/
theorem reload_current (updated : HashMap PubKey AuthorizedEntry)
    (removedOrder modifiedOrder : List PubKey) (held : Current keys pubkey entry) :
    Current (keys.reload updated removedOrder modifiedOrder).2 pubkey entry ∨
      pubkey ∈ (keys.reload updated removedOrder modifiedOrder).1 := by
  obtain ⟨current, found, same⟩ := held
  have listed : (keys.entries.lookup pubkey).isSome = true := by
    rw [show keys.entries.lookup pubkey = some current from found]
    rfl
  cases replaced : updated.lookup pubkey with
  | none =>
    refine .inr (List.mem_append_left _ ?_)
    rw [KeyRegistry.removedKeys, List.mem_filter, HashMap.mem_visitOrder]
    exact ⟨listed, by rw [replaced]; rfl⟩
  | some new =>
    by_cases equal : current.authorizationEqual new = true
    · exact .inl ⟨new, replaced, authorizationEqual_trans same equal⟩
    · refine .inr (List.mem_append_right _ ?_)
      rw [KeyRegistry.modifiedKeys, List.mem_filter, HashMap.mem_visitOrder]
      refine ⟨by rw [replaced]; rfl, ?_⟩
      rw [replaced, show keys.entries.lookup pubkey = some current from found]
      simpa using equal

theorem current_append (enrolled : PubKey) (new : AuthorizedEntry)
    (harmless : ∀ old, keys.get enrolled = some old → old.authorizationEqual new = true)
    (current : Current keys pubkey entry) : Current (keys.appendEntry enrolled new) pubkey entry := by
  obtain ⟨held, found, same⟩ := current
  by_cases mine : pubkey = enrolled
  · subst mine
    exact ⟨new, AList.lookup_insert _, authorizationEqual_trans same (harmless held found)⟩
  · exact ⟨held, (AList.lookup_insert_ne mine).trans found, same⟩

end Changes
end KrotRelay.Source
