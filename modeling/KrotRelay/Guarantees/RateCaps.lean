import KrotRelay.Guarantees.Attachment
import KrotRelay.Source.Metering

/-!
Declared caps. The state of a key is created once, from the entry of its first session,
and every later session of the key gets that state whatever its own entry declares. So a
session is metered by the limits of its entry as long as they are those of the entry the
key's state was created from.
-/
namespace KrotRelay.Guarantees
open Source Lib

variable {metered : MeteredServer}

/-- The limits an entry declares on this relay. -/
def entryLimits (bwPartitions : Nat) (entry : AuthorizedEntry) :
    Option (List UInt32) × Option UInt64 × Period :=
  RateLimitState.limitsOf bwPartitions entry.bw entry.quota

/-- Every session is metered by a state with the limits its entry declares. -/
def Governed (metered : MeteredServer) : Prop :=
  ∀ connection session, (metered.server.tasks connection).session? = some session →
    ∃ cell, metered.cells[session.rate.cell]? = some cell ∧
      cell.limits = entryLimits metered.bwPartitions session.entry

/-- A session starts with the limits its key's state was created with. -/
def startsAsDeclared (metered : MeteredServer) : MeteredServer.Event → Bool
  | .relay (.subscribe connection) =>
    match metered.server.tasks connection with
    | .authenticated ok =>
      (metered.declared ok.pubkey).all fun first =>
        entryLimits metered.bwPartitions first == entryLimits metered.bwPartitions ok.entry
    | _ => true
  | _ => true

/-- The session gets the handle of its key, which was there or is the next one. -/
theorem begun_cases (metered : MeteredServer) (conn : Connection) (ok : HandshakeOk) :
    let handle := (metered.server.ensureRateState ok.pubkey).1
    (metered.begun conn ok).server.tasks = Function.update metered.server.tasks conn
      (.running ⟨ok.pubkey, ok.sessionId, conn, metered.server.config.mode, ok.entry, handle⟩) ∧
    (metered.server.rates.lookup ok.pubkey = some handle ∧
      (metered.begun conn ok).server.rates = metered.server.rates ∧
      (metered.begun conn ok).cells = metered.cells ∧
      (metered.begun conn ok).declared = metered.declared ∨
    metered.server.rates.lookup ok.pubkey = none ∧ handle = ⟨metered.server.rates.keys.length⟩ ∧
      (metered.begun conn ok).server.rates = metered.server.rates.insert ok.pubkey handle ∧
      (metered.begun conn ok).cells = metered.cells ++
        [.fromEntry ok.entry.bw ok.entry.quota metered.bwPartitions metered.server.now] ∧
      (metered.begun conn ok).declared =
        Function.update metered.declared ok.pubkey (some ok.entry)) := by
  simp only [MeteredServer.begun, MeteredServer.ensureRateState, Server.startSession,
    Server.ensureRateState]
  cases metered.server.rates.lookup ok.pubkey with
  | some => exact ⟨rfl, .inl ⟨rfl, rfl, rfl, rfl⟩⟩
  | none => exact ⟨rfl, .inr ⟨rfl, rfl, rfl, rfl, rfl⟩⟩

/-- The key has the handle its session was given, and every other key the one it had. -/
theorem begun_lookup (metered : MeteredServer) (conn : Connection) (ok : HandshakeOk) :
    (metered.begun conn ok).server.rates.lookup ok.pubkey =
      some (metered.server.ensureRateState ok.pubkey).1 ∧
    ∀ pubkey handle, metered.server.rates.lookup pubkey = some handle →
      (metered.begun conn ok).server.rates.lookup pubkey = some handle := by
  obtain ⟨_, ⟨found, rates, _⟩ | ⟨absent, _, rates, _⟩⟩ := begun_cases metered conn ok
  · rw [rates]
    exact ⟨found, fun _ _ stored => stored⟩
  · rw [rates]
    refine ⟨AList.lookup_insert _, fun pubkey handle stored => ?_⟩
    rwa [AList.lookup_insert_ne]
    rintro rfl
    cases absent.symm.trans stored

/-- Each key has its own state, and a session uses the state of its key. -/
structure Handles (metered : MeteredServer) : Prop where
  /-- handles are given out in order -/
  sized : metered.cells.length = metered.server.rates.keys.length
  bounded : ∀ pubkey handle, metered.server.rates.lookup pubkey = some handle →
    handle.cell < metered.cells.length
  apart : ∀ first second left right, metered.server.rates.lookup first = some left →
    metered.server.rates.lookup second = some right → left.cell = right.cell → first = second
  sessions : ∀ connection session, (metered.server.tasks connection).session? = some session →
    metered.server.rates.lookup session.pubkey = some session.rate

namespace Handles
variable (holds : Handles metered)
include holds

theorem updateCell (handle : RateHandle) (change : RateLimitState → RateLimitState) :
    Handles (metered.updateCell handle change) where
  sized := by
    rw [MeteredServer.updateCell, List.length_modify]
    exact holds.sized
  bounded := by
    intro pubkey stored found
    rw [MeteredServer.updateCell, List.length_modify]
    exact holds.bounded pubkey stored found
  apart := holds.apart
  sessions := holds.sessions

/-- Any event of the relay but the start of a session. -/
theorem moved {next : Server} {event : Event} (other : ∀ conn, event ≠ .subscribe conn)
    (step : metered.server.step event = some next) : Handles { metered with server := next } := by
  have rates := Server.step_rates other step
  refine ⟨by rw [rates]; exact holds.sized, by rw [rates]; exact holds.bounded,
    by rw [rates]; exact holds.apart, ?_⟩
  intro conn session present
  rw [rates]
  exact holds.sessions conn session (Server.step_session other step conn session present)

/-- A handle after the start of a session is an old one, or the new one of the key. -/
theorem lookup_begun {conn : Connection} {ok : HandshakeOk}
    (present : (metered.begun conn ok).server.rates.lookup pubkey = some stored) :
    metered.server.rates.lookup pubkey = some stored ∧ stored.cell < metered.cells.length ∨
      pubkey = ok.pubkey ∧ stored.cell = metered.cells.length ∧
        metered.server.rates.lookup ok.pubkey = none := by
  obtain ⟨_, ⟨_, rates, _⟩ | ⟨absent, fresh, rates, _⟩⟩ := begun_cases metered conn ok
  · rw [rates] at present
    exact .inl ⟨present, holds.bounded pubkey stored present⟩
  · rw [rates] at present
    by_cases own : pubkey = ok.pubkey
    · subst own
      rw [AList.lookup_insert, fresh] at present
      cases present
      exact .inr ⟨rfl, holds.sized.symm, absent⟩
    · rw [AList.lookup_insert_ne own] at present
      exact .inl ⟨present, holds.bounded pubkey stored present⟩

theorem begun (conn : Connection) (ok : HandshakeOk) : Handles (metered.begun conn ok) := by
  obtain ⟨given, kept⟩ := begun_lookup metered conn ok
  obtain ⟨tasks, change⟩ := begun_cases metered conn ok
  have sized : (metered.begun conn ok).cells.length =
        (metered.begun conn ok).server.rates.keys.length ∧
      metered.cells.length ≤ (metered.begun conn ok).cells.length ∧
      (metered.server.rates.lookup ok.pubkey = none →
        metered.cells.length < (metered.begun conn ok).cells.length) := by
    rcases change with ⟨found, rates, cells, _⟩ | ⟨absent, _, rates, cells, _⟩
    · rw [rates, cells, found]
      exact ⟨holds.sized, le_rfl, nofun⟩
    · rw [rates, cells, List.length_append, holds.sized, AList.keys, AList.keys,
        AList.entries_insert_of_notMem (AList.lookup_eq_none.mp absent)]
      simp [List.keys]
  refine ⟨sized.1, ?_, ?_, ?_⟩
  · intro pubkey handle present
    rcases holds.lookup_begun present with ⟨_, below⟩ | ⟨_, last, absent⟩
    · exact below.trans_le sized.2.1
    · exact last ▸ sized.2.2 absent
  · intro first second left right one two same
    rcases holds.lookup_begun one with ⟨one, below⟩ | ⟨rfl, last, _⟩
    · rcases holds.lookup_begun two with ⟨two, _⟩ | ⟨rfl, last, _⟩
      · exact holds.apart first second left right one two same
      · omega
    · rcases holds.lookup_begun two with ⟨_, under⟩ | ⟨rfl, _⟩
      · omega
      · rfl
  · intro asked session present
    rw [tasks] at present
    by_cases here : asked = conn
    · subst here
      rw [Function.update_self] at present
      cases present
      exact given
    · rw [Function.update_of_ne here] at present
      exact kept _ _ (holds.sessions asked session present)

end Handles

structure Metered (metered : MeteredServer) : Prop extends Handles metered where
  stored : ∀ pubkey handle, metered.server.rates.lookup pubkey = some handle →
    ∃ first cell, metered.declared pubkey = some first ∧ metered.cells[handle.cell]? = some cell ∧
      cell.limits = entryLimits metered.bwPartitions first
  entries : ∀ connection session, (metered.server.tasks connection).session? = some session →
    ∀ first, metered.declared session.pubkey = some first →
      entryLimits metered.bwPartitions first = entryLimits metered.bwPartitions session.entry

namespace Metered
variable (holds : Metered metered)
include holds

theorem governed : Governed metered := by
  intro conn session running
  obtain ⟨first, cell, declared, found, limits⟩ := holds.stored session.pubkey session.rate
    (holds.sessions conn session running)
  exact ⟨cell, found, limits.trans (holds.entries conn session running first declared)⟩

/-- Charging, attaching and detaching leave what a state enforces. -/
theorem updateCell (handle : RateHandle) (change : RateLimitState → RateLimitState)
    (keeps : ∀ cell, (change cell).limits = cell.limits) :
    Metered (metered.updateCell handle change) where
  toHandles := holds.toHandles.updateCell handle change
  stored := by
    intro pubkey stored found
    obtain ⟨first, cell, declared, present, limits⟩ := holds.stored pubkey stored found
    dsimp only [MeteredServer.updateCell]
    rw [List.getElem?_modify, present]
    by_cases same : handle.cell = stored.cell
    · exact ⟨first, change cell, declared, by simp [same], (keeps cell).trans limits⟩
    · exact ⟨first, cell, declared, by simp [same], limits⟩
  entries := holds.entries

theorem moved {next : Server} {event : Event} (other : ∀ conn, event ≠ .subscribe conn)
    (step : metered.server.step event = some next) : Metered { metered with server := next } where
  toHandles := holds.toHandles.moved other step
  stored := by
    rw [Server.step_rates other step]
    exact holds.stored
  entries := fun conn session running =>
    holds.entries conn session (Server.step_session other step conn session running)

theorem begun (conn : Connection) (ok : HandshakeOk)
    (declared : ∀ first, metered.declared ok.pubkey = some first →
      entryLimits metered.bwPartitions first = entryLimits metered.bwPartitions ok.entry) :
    Metered (metered.begun conn ok) := by
  have partitions : (metered.begun conn ok).bwPartitions = metered.bwPartitions := by
    simp only [MeteredServer.begun, MeteredServer.ensureRateState]
    split <;> rfl
  obtain ⟨tasks, change⟩ := begun_cases metered conn ok
  refine ⟨holds.toHandles.begun conn ok, ?_, ?_⟩
  · intro pubkey handle present
    rw [partitions]
    rcases change with ⟨_, rates, cells, same⟩ | ⟨_, fresh, rates, cells, added⟩
    · rw [rates] at present
      rw [same, cells]
      exact holds.stored pubkey handle present
    · rw [rates] at present
      rw [added, cells]
      by_cases own : pubkey = ok.pubkey
      · subst own
        rw [AList.lookup_insert, fresh] at present
        cases present
        refine ⟨ok.entry, _, Function.update_self .., ?_,
          RateLimitState.fromEntry_limits _ _ _ metered.server.now⟩
        rw [List.getElem?_append_right (by rw [holds.sized]), holds.sized, Nat.sub_self]
        rfl
      · rw [AList.lookup_insert_ne own] at present
        obtain ⟨first, cell, before, there, limits⟩ := holds.stored pubkey handle present
        refine ⟨first, cell, by rwa [Function.update_of_ne own], ?_, limits⟩
        rwa [List.getElem?_append_left (List.getElem?_eq_some_iff.mp there).1]
  · intro asked session running first created
    rw [tasks] at running
    rw [partitions]
    by_cases here : asked = conn
    · subst here
      rw [Function.update_self] at running
      cases running
      rcases change with ⟨_, _, _, same⟩ | ⟨_, _, _, _, added⟩
      · exact declared first (same ▸ created)
      · rw [added, Function.update_self] at created
        cases created
        rfl
    · rw [Function.update_of_ne here] at running
      refine holds.entries asked session running first ?_
      rcases change with ⟨_, _, _, same⟩ | ⟨absent, _, _, _, added⟩
      · exact same ▸ created
      · rwa [added, Function.update_of_ne] at created
        intro own
        cases absent.symm.trans (own ▸ holds.sessions asked session running)

end Metered

theorem Metered.step {next : MeteredServer} {event : MeteredServer.Event} (holds : Metered metered)
    (declared : startsAsDeclared metered event = true) (step : metered.step event = some next) :
    Metered next := by
  cases event with
  | charge handle =>
    cases step
    exact holds.updateCell handle _ fun cell => cell.charge_limits _ _ _ _
  | relay event =>
    obtain ⟨server, moved, rfl⟩ := Option.map_eq_some_iff.mp step
    cases event with
    | subscribe conn =>
      simp only [Server.step] at moved
      split at moved <;> cases moved
      rename_i ok task
      simp only [startsAsDeclared, task] at declared
      simp only [MeteredServer.around, task]
      refine Metered.updateCell (holds.begun conn ok ?_) _ _ fun cell => rfl
      intro first created
      rw [created, Option.all_some] at declared
      exact beq_iff_eq.mp declared
    | cleanup =>
      have kept := holds.moved (by rintro _ ⟨⟩) moved
      simp only [MeteredServer.around]
      split
      · exact kept.updateCell _ _ fun cell => rfl
      · exact kept
    | _ => exact holds.moved (by rintro _ ⟨⟩) moved

variable (config : Config) (pool : PortPool) (entries : HashMap PubKey AuthorizedEntry)
  (peers : List String) (now : Instant)

theorem metered_init (bwPartitions : Nat) :
    Metered (.init (Server.init config pool entries peers now) bwPartitions) where
  sized := rfl
  bounded _ _ found := by cases found
  apart _ _ _ _ found := by cases found
  sessions _ _ running := by cases running
  stored _ _ found := by cases found
  entries _ _ running := by cases running

theorem declared_caps_govern
    (bwPartitions : Nat) (events : List MeteredServer.Event) (metered : MeteredServer)
    (finished : run MeteredServer.step
      (.init (Server.init config pool entries peers now) bwPartitions) events = some metered)
    (declared : Meets MeteredServer.step (fun state event => startsAsDeclared state event = true)
      (.init (Server.init config pool entries peers now) bwPartitions) events) : Governed metered :=
  (run_meets Metered (fun _ _ _ holds declared stepped => holds.step declared stepped)
    (metered_init config pool entries peers now bwPartitions) declared finished).governed

section Example

/-- dave's session ends, the entries are reloaded, and dave comes back. -/
private def backAfterReload (updated : HashMap PubKey AuthorizedEntry) : List MeteredServer.Event :=
  let events : List Event := signIn ⟨0⟩ dave ⟨.replicate 16 1⟩ ++
    [.readError ⟨0⟩, .cleanup ⟨0⟩, .reload updated [] [], .announce 0] ++
    signIn ⟨1⟩ dave ⟨.replicate 16 2⟩
  events.map .relay

private def meteredRelay : MeteredServer := .init smallRelay 1

private def withQuota : HashMap PubKey AuthorizedEntry :=
  AList.insert dave { anyHttp with quota := some ⟨1000, .day⟩ } ∅

private def quotaRelay : MeteredServer := .init (.init domainConfig ⟨7000, 7001⟩ withQuota [] 0) 1

/-- dave with another label list and the same quota. -/
private def otherLabels : HashMap PubKey AuthorizedEntry :=
  AList.insert dave { anyHttp with
    quota := some ⟨1000, .day⟩, allowAnySubdomain := false, allowedSubdomains := ["blog"] } ∅

theorem declared_caps_govern_dave :
    (∃ session, (final MeteredServer.step quotaRelay (backAfterReload otherLabels)).server.tasks
      ⟨1⟩ = .running session ∧ session.entry.allowedSubdomains = ["blog"] ∧
      session.entry.quota = some ⟨1000, .day⟩) ∧
    Governed (final MeteredServer.step quotaRelay (backAfterReload otherLabels)) :=
  ⟨⟨_, rfl, rfl, rfl⟩, declared_caps_govern domainConfig ⟨7000, 7001⟩ withQuota [] 0 1
    (backAfterReload otherLabels) _ (run_final rfl) (by decide)⟩

/-- dave had no quota before the reload. -/
theorem new_quota_never_takes_effect :
    run MeteredServer.step meteredRelay (backAfterReload withQuota) =
      some (final MeteredServer.step meteredRelay (backAfterReload withQuota)) ∧
    (∃ session,
      (final MeteredServer.step meteredRelay (backAfterReload withQuota)).server.tasks ⟨1⟩ =
        .running session ∧
      session.entry.quota = some ⟨1000, .day⟩ ∧
      ((final MeteredServer.step meteredRelay
        (backAfterReload withQuota)).cells[session.rate.cell]?).map RateLimitState.quotaCap =
        some none) ∧
    ¬ Governed (final MeteredServer.step meteredRelay (backAfterReload withQuota)) := by
  refine ⟨run_final rfl, ⟨_, rfl, rfl, rfl⟩, ?_⟩
  intro governed
  obtain ⟨cell, found, limits⟩ := governed ⟨1⟩ _ rfl
  cases found
  cases limits

end Example

end KrotRelay.Guarantees
