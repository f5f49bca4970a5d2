import KrotRelay.Source.Reservations

/-!
# The registry's representation invariant

The five guarded fields agree in every interleaving of allocations, insertions,
removals, sweeps, reaps, resumes and abort-handle updates, although an allocation and
its insertion are two critical sections. `Representation` is the inductive invariant;
it also accounts for allocations in flight and for abandoned ones, because the
reservation sets do not distinguish them from registered tunnels. It is conditional on
the id counter not having wrapped, which takes `2^64 - 1` allocations.
-/
namespace KrotRelay.Guarantees
open KrotRelay.Source List TunnelRegistry

/-- The id keeps the label or port reserved: by a table entry, by an allocation in
flight, or by one that was abandoned. -/
inductive Holds (ledger : Ledger) (id : TunnelId) (kind : RegisteredKind) : Prop where
  | table (info) (found : ledger.registry.tunnels.lookup id = some info) (same : info.kind = kind)
  | flight (member : ⟨id, kind⟩ ∈ ledger.inFlight)
  | lost (member : ⟨id, kind⟩ ∈ ledger.abandoned)

structure Representation (ledger : Ledger) : Prop where
  keyed : ∀ id info, ledger.registry.tunnels.lookup id = some info → info.id = id
  indexed : ∀ label id, ledger.registry.labels.lookup label = some id ↔
    ∃ info, ledger.registry.tunnels.lookup id = some info ∧ info.kind = .http label
  reserved : ∀ kind, ledger.registry.Reserved kind ↔ ∃ id, Holds ledger id kind
  kindUnique : ∀ first second kind, Holds ledger first kind → Holds ledger second kind →
    first = second
  idUnique : ∀ id first second, Holds ledger id first → Holds ledger id second → first = second
  outside : ∀ alloc, alloc ∈ ledger.inFlight ∨ alloc ∈ ledger.abandoned →
    ledger.registry.tunnels.lookup alloc.id = none
  apart : ∀ alloc ∈ ledger.inFlight, alloc ∉ ledger.abandoned
  distinct : ledger.inFlight.Nodup
  issued : ∀ id kind, Holds ledger id kind → id.val < ledger.registry.nextId
  counter : ledger.registry.nextId = ledger.allocated + 1
  listening : ∀ id info port, ledger.registry.tunnels.lookup id = some info →
    info.kind = .tcp port → ∃ listener, info.tcpListener = some listener ∧ listener.localPort = port
  bindable : ∀ id port, ⟨id, .tcp port⟩ ∈ ledger.inFlight → port ≠ 0
  pool : 0 ∉ ledger.registry.portPool.ports

/-- The clauses of the invariant that speak of holders only. -/
structure Holders (ledger : Ledger) : Prop where
  reserved : ∀ kind, ledger.registry.Reserved kind ↔ ∃ id, Holds ledger id kind
  kindUnique : ∀ first second kind, Holds ledger first kind → Holds ledger second kind →
    first = second
  idUnique : ∀ id first second, Holds ledger id first → Holds ledger id second → first = second
  issued : ∀ id kind, Holds ledger id kind → id.val < ledger.registry.nextId

namespace Representation

theorem init (pool : PortPool) (now : Instant) (nonzero : 0 ∉ pool.ports) :
    Representation (.init pool now) := by
  have none_held : ∀ id kind, ¬ Holds (.init pool now) id kind := by
    rintro id kind (⟨info, found, _⟩ | member | member)
    · cases found
    · cases member
    · cases member
  refine ⟨?_, ?_, ?_, ?_, ?_, ?_, ?_, nodup_nil, ?_, rfl, ?_, ?_, nonzero⟩
  · intro id info found
    cases found
  · intro label id
    refine ⟨fun found => ?_, ?_⟩
    · cases found
    · rintro ⟨info, found, _⟩
      cases found
  · intro kind
    refine ⟨fun taken => ?_, fun ⟨id, held⟩ => absurd held (none_held id kind)⟩
    cases kind <;> simp [TunnelRegistry.Reserved, Ledger.init, TunnelRegistry.new] at taken
  · exact fun first second kind held _ => absurd held (none_held first kind)
  · exact fun id first second held _ => absurd held (none_held id first)
  · rintro alloc (member | member) <;> cases member
  · exact fun alloc member => by cases member
  · exact fun id kind held => absurd held (none_held id kind)
  · intro id info port found
    cases found
  · exact fun id port member => by cases member

section TableUpdates
variable {ledger : Ledger}

/-- A reservation may change hands between the table, the handlers and the abandoned ones
as long as the holders stay the same. -/
theorem sameHolders {after : Ledger} (before : Representation ledger)
    (held : ∀ id kind, Holds after id kind ↔ Holds ledger id kind)
    (reserved : ∀ kind, after.registry.Reserved kind ↔ ledger.registry.Reserved kind)
    (nextId : after.registry.nextId = ledger.registry.nextId) : Holders after := by
  refine ⟨?_, ?_, ?_, ?_⟩
  · intro kind
    simp only [held]
    exact (reserved kind).trans (before.reserved kind)
  · intro first second kind left right
    exact before.kindUnique first second kind ((held _ _).mp left) ((held _ _).mp right)
  · intro id first second left right
    exact before.idUnique id first second ((held _ _).mp left) ((held _ _).mp right)
  · intro id kind holding
    rw [nextId]
    exact before.issued id kind ((held _ _).mp holding)

/-- A step that only rewrites fields of table entries other than id, kind and listener
keeps the invariant. -/
theorem restate (before : Representation ledger) (now : Instant)
    (index : ledger.registry.SameIndex registry) (update : TunnelId → TunnelInfo → TunnelInfo)
    (entries : ∀ id, registry.tunnels.lookup id =
      (ledger.registry.tunnels.lookup id).map (update id))
    (sameId : ∀ id info, (update id info).id = info.id)
    (sameKind : ∀ id info, (update id info).kind = info.kind)
    (sameListener : ∀ id info, (update id info).tcpListener = info.tcpListener) :
    Representation { ledger with registry := registry, now := now } := by
  have entry : ∀ id info, registry.tunnels.lookup id = some info ↔
      ∃ old, ledger.registry.tunnels.lookup id = some old ∧ update id old = info := by
    intro id info
    rw [entries id, Option.map_eq_some_iff]
  have held : ∀ id kind, Holds { ledger with registry := registry, now := now } id kind ↔
      Holds ledger id kind := by
    intro id kind
    constructor
    · rintro (⟨info, found, same⟩ | member | member)
      · obtain ⟨old, present, rfl⟩ := (entry id info).mp found
        exact .table old present ((sameKind id old).symm.trans same)
      · exact .flight member
      · exact .lost member
    · rintro (⟨info, found, same⟩ | member | member)
      · exact .table (update id info) ((entry id _).mpr ⟨info, found, rfl⟩)
          ((sameKind id info).trans same)
      · exact .flight member
      · exact .lost member
  have holders : Holders { ledger with registry := registry, now := now } :=
    before.sameHolders held index.reserved index.nextId
  refine ⟨?_, ?_, holders.reserved, holders.kindUnique, holders.idUnique, ?_, before.apart,
    before.distinct, holders.issued, index.nextId.trans before.counter, ?_, before.bindable, ?_⟩
  · intro id info found
    obtain ⟨old, present, rfl⟩ := (entry id info).mp found
    exact (sameId id old).trans (before.keyed id old present)
  · intro label id
    show registry.labels.lookup label = some id ↔ _
    rw [index.labels, before.indexed label id]
    constructor
    · rintro ⟨info, found, http⟩
      exact ⟨update id info, (entry id _).mpr ⟨info, found, rfl⟩, (sameKind id info).trans http⟩
    · rintro ⟨info, found, http⟩
      obtain ⟨old, present, rfl⟩ := (entry id info).mp found
      exact ⟨old, present, (sameKind id old).symm.trans http⟩
  · intro alloc member
    show registry.tunnels.lookup alloc.id = none
    rw [entries, before.outside alloc member]
    rfl
  · intro id info port found tcp
    obtain ⟨old, present, rfl⟩ := (entry id info).mp found
    rw [sameListener]
    exact before.listening id old port present ((sameKind id old).symm.trans tcp)
  · show 0 ∉ registry.portPool.ports
    rw [index.portPool]
    exact before.pool

theorem removeLocked (before : Representation ledger) (id : TunnelId) :
    Representation { ledger with registry := ledger.registry.removeLocked id } := by
  cases found : ledger.registry.tunnels.lookup id with
  | none =>
    rw [removeLocked_absent _ _ found]
    exact before
  | some gone =>
    have entry : ∀ asked info, (ledger.registry.removeLocked id).tunnels.lookup asked = some info ↔
          asked ≠ id ∧ ledger.registry.tunnels.lookup asked = some info := by
      intro asked info
      rw [lookup_removeLocked]
      by_cases same : asked = id <;> simp [same]
    have own : Holds ledger id gone.kind := .table gone found rfl
    -- the removed id held nothing but its table entry, so it holds nothing afterwards
    have held : ∀ asked kind,
        Holds { ledger with registry := ledger.registry.removeLocked id } asked kind ↔
          asked ≠ id ∧ Holds ledger asked kind := by
      intro asked kind
      constructor
      · rintro (⟨info, found', same⟩ | member | member)
        · obtain ⟨differs, old⟩ := (entry asked info).mp found'
          exact ⟨differs, .table info old same⟩
        · refine ⟨?_, .flight member⟩
          rintro rfl
          have absent := before.outside _ (.inl member)
          rw [found] at absent
          cases absent
        · refine ⟨?_, .lost member⟩
          rintro rfl
          have absent := before.outside _ (.inr member)
          rw [found] at absent
          cases absent
      · rintro ⟨differs, ⟨info, found', same⟩ | member | member⟩
        · exact .table info ((entry asked info).mpr ⟨differs, found'⟩) same
        · exact .flight member
        · exact .lost member
    refine ⟨?_, ?_, ?_, ?_, ?_, ?_, before.apart, before.distinct, ?_, ?_, ?_, before.bindable, ?_⟩
    · intro asked info present
      exact before.keyed asked info ((entry asked info).mp present).2
    · intro label asked
      show (ledger.registry.removeLocked id).labels.lookup label = some asked ↔ _
      rw [removeLocked_labels _ _ _ found]
      by_cases http : gone.kind = .http label
      · rw [if_pos http]
        constructor
        · intro impossible
          cases impossible
        · rintro ⟨info, present, same⟩
          obtain ⟨differs, present⟩ := (entry asked info).mp present
          exact absurd (before.kindUnique asked id _ (.table info present rfl)
            (same.trans http.symm ▸ own)) differs
      · rw [if_neg http, before.indexed label asked]
        constructor
        · rintro ⟨info, present, same⟩
          refine ⟨info, (entry asked info).mpr ⟨?_, present⟩, same⟩
          rintro rfl
          rw [found] at present
          cases present
          exact http same
        · rintro ⟨info, present, same⟩
          exact ⟨info, ((entry asked info).mp present).2, same⟩
    · intro kind
      show (ledger.registry.removeLocked id).Reserved kind ↔ _
      rw [removeLocked_reserved _ _ _ found, before.reserved kind]
      simp only [held]
      constructor
      · rintro ⟨differs, asked, holding⟩
        refine ⟨asked, ?_, holding⟩
        rintro rfl
        exact differs (before.idUnique asked kind gone.kind holding own)
      · rintro ⟨asked, differs, holding⟩
        refine ⟨?_, asked, holding⟩
        rintro rfl
        exact differs (before.kindUnique asked id _ holding own)
    · intro first second kind left right
      exact before.kindUnique first second kind ((held _ _).mp left).2 ((held _ _).mp right).2
    · intro asked first second left right
      exact before.idUnique asked first second ((held _ _).mp left).2 ((held _ _).mp right).2
    · intro alloc member
      show (ledger.registry.removeLocked id).tunnels.lookup alloc.id = none
      rw [lookup_removeLocked, before.outside alloc member, ite_self]
    · intro asked kind holding
      show asked.val < (ledger.registry.removeLocked id).nextId
      rw [removeLocked_nextId]
      exact before.issued asked kind ((held _ _).mp holding).2
    · exact (removeLocked_nextId _ _).trans before.counter
    · intro asked info port present tcp
      exact before.listening asked info port ((entry asked info).mp present).2 tcp
    · show 0 ∉ (ledger.registry.removeLocked id).portPool.ports
      rw [removeLocked_portPool]
      exact before.pool

theorem sweep (before : Representation ledger) (ids : List TunnelId) :
    Representation { ledger with registry := ids.foldl .removeLocked ledger.registry } := by
  induction ids generalizing ledger with
  | nil => exact before
  | cons id _ ih => exact ih (before.removeLocked id)

/-- A granted allocation: the counter has not wrapped, so its id is new. -/
theorem granted (before : Representation ledger) (registry : TunnelRegistry) (alloc : Alloc)
    (grants : ledger.registry.Grants registry alloc) (room : ledger.allocated + 1 < 2 ^ 64 - 1) :
    Representation (ledger.granted registry alloc) := by
  have advanced : registry.nextId = ledger.registry.nextId + 1 := by
    have counter := before.counter
    rw [grants.nextId, if_pos (by omega)]
  have fresh : ∀ kind, ¬ Holds ledger alloc.id kind := by
    intro kind held
    have below := before.issued alloc.id kind held
    rw [grants.id] at below
    exact Nat.lt_irrefl _ below
  have held : ∀ id kind, Holds (ledger.granted registry alloc) id kind ↔
      (⟨id, kind⟩ : Alloc) = alloc ∨ Holds ledger id kind := by
    intro id kind
    constructor
    · rintro (⟨info, found, same⟩ | member | member)
      · rw [Ledger.granted, grants.tunnels] at found
        exact .inr (.table info found same)
      · rcases mem_cons.mp member with same | member
        · exact .inl same
        · exact .inr (.flight member)
      · exact .inr (.lost member)
    · rintro (rfl | ⟨info, found, same⟩ | member | member)
      · exact .flight mem_cons_self
      · exact .table info (by rw [Ledger.granted, grants.tunnels]; exact found) same
      · exact .flight (mem_cons_of_mem _ member)
      · exact .lost member
  have unheld : ∀ id, ¬ Holds ledger id alloc.kind := fun id holding =>
    grants.free ((before.reserved alloc.kind).mpr ⟨id, holding⟩)
  refine ⟨?_, ?_, ?_, ?_, ?_, ?_, ?_, ?_, ?_, ?_, ?_, ?_, ?_⟩
  · intro id info found
    rw [Ledger.granted, grants.tunnels] at found
    exact before.keyed id info found
  · intro label id
    simp only [Ledger.granted, grants.tunnels, grants.labels]
    exact before.indexed label id
  · intro kind
    refine (grants.reserved kind).trans ?_
    simp only [held]
    constructor
    · rintro (rfl | taken)
      · exact ⟨alloc.id, .inl rfl⟩
      · obtain ⟨id, holding⟩ := (before.reserved kind).mp taken
        exact ⟨id, .inr holding⟩
    · rintro ⟨id, rfl | holding⟩
      · exact .inl rfl
      · exact .inr ((before.reserved kind).mpr ⟨id, holding⟩)
  · intro first second kind left right
    rcases (held first kind).mp left with own | left
    · rcases (held second kind).mp right with other | right
      · exact congrArg Alloc.id (own.trans other.symm)
      · exact absurd (congrArg Alloc.kind own ▸ right) (unheld second)
    · rcases (held second kind).mp right with own | right
      · exact absurd (congrArg Alloc.kind own ▸ left) (unheld first)
      · exact before.kindUnique first second kind left right
  · intro id first second left right
    rcases (held id first).mp left with own | left
    · rcases (held id second).mp right with other | right
      · exact congrArg Alloc.kind (own.trans other.symm)
      · exact absurd (congrArg Alloc.id own ▸ right) (fresh second)
    · rcases (held id second).mp right with own | right
      · exact absurd (congrArg Alloc.id own ▸ left) (fresh first)
      · exact before.idUnique id first second left right
  · intro other member
    simp only [Ledger.granted, grants.tunnels] at member ⊢
    rcases member with member | member
    · rcases mem_cons.mp member with rfl | member
      · cases found : ledger.registry.tunnels.lookup other.id with
        | none => rfl
        | some info => exact absurd (.table info found rfl) (fresh info.kind)
      · exact before.outside other (.inl member)
    · exact before.outside other (.inr member)
  · intro other member
    rcases mem_cons.mp member with rfl | member
    · exact fun lost => fresh other.kind (.lost lost)
    · exact before.apart other member
  · exact nodup_cons.mpr ⟨fun member => fresh alloc.kind (.flight member), before.distinct⟩
  · intro id kind holding
    show id.val < registry.nextId
    rw [advanced]
    rcases (held id kind).mp holding with rfl | holding
    · exact Nat.lt_succ_of_le (Nat.le_of_eq (congrArg TunnelId.val grants.id))
    · exact Nat.lt_succ_of_lt (before.issued id kind holding)
  · show registry.nextId = ledger.allocated + 1 + 1
    rw [advanced, before.counter]
  · intro id info port found tcp
    rw [Ledger.granted, grants.tunnels] at found
    exact before.listening id info port found tcp
  · intro id port member
    rcases mem_cons.mp member with same | member
    · rintro rfl
      exact before.pool (grants.fromPool 0 (congrArg Alloc.kind same).symm)
    · exact before.bindable id port member
  · show 0 ∉ registry.portPool.ports
    rw [grants.portPool]
    exact before.pool

theorem abandon (before : Representation ledger) (alloc : Alloc)
    (member : alloc ∈ ledger.inFlight) :
    Representation { ledger with
      inFlight := ledger.inFlight.erase alloc
      abandoned := alloc :: ledger.abandoned } := by
  have held : ∀ id kind, Holds { ledger with
        inFlight := ledger.inFlight.erase alloc
        abandoned := alloc :: ledger.abandoned } id kind ↔ Holds ledger id kind := by
    intro id kind
    constructor
    · rintro (⟨info, found, same⟩ | stays | stays)
      · exact .table info found same
      · exact .flight (mem_of_mem_erase stays)
      · rcases mem_cons.mp stays with rfl | stays
        · exact .flight member
        · exact .lost stays
    · rintro (⟨info, found, same⟩ | stays | stays)
      · exact .table info found same
      · by_cases same : (⟨id, kind⟩ : Alloc) = alloc
        · exact .lost (same ▸ mem_cons_self)
        · exact .flight (before.distinct.mem_erase_iff.mpr ⟨same, stays⟩)
      · exact .lost (mem_cons_of_mem _ stays)
  have holders := before.sameHolders held (fun _ => Iff.rfl) rfl
  refine ⟨before.keyed, before.indexed, holders.reserved, holders.kindUnique, holders.idUnique,
    ?_, ?_, before.distinct.erase alloc, holders.issued, before.counter, before.listening, ?_,
    before.pool⟩
  · rintro other (stays | stays)
    · exact before.outside other (.inl (mem_of_mem_erase stays))
    · rcases mem_cons.mp stays with rfl | stays
      · exact before.outside other (.inl member)
      · exact before.outside other (.inr stays)
  · intro other stays lost
    obtain ⟨differs, stays⟩ := before.distinct.mem_erase_iff.mp stays
    rcases mem_cons.mp lost with same | lost
    · exact differs same
    · exact before.apart other stays lost
  · exact fun id port stays => before.bindable id port (mem_of_mem_erase stays)

/-- What a fitting tunnel carries over from its allocation. The port is the allocated
one because the pool excludes port 0. -/
theorem fits_facts (before : Representation ledger) (alloc : Alloc) (info : TunnelInfo)
    (member : alloc ∈ ledger.inFlight) (fits : Ledger.Fits alloc info = true) :
    info.id = alloc.id ∧ info.kind = alloc.kind ∧ ∀ port, info.kind = .tcp port →
        ∃ listener, info.tcpListener = some listener ∧ listener.localPort = port := by
  obtain ⟨id, kind⟩ := alloc
  simp only [Ledger.Fits, Bool.and_eq_true, beq_iff_eq] at fits
  obtain ⟨⟨sameId, _⟩, fits⟩ := fits
  cases kind with
  | http label =>
    have sameKind : info.kind = .http label := by simpa using fits
    refine ⟨sameId, sameKind, ?_⟩
    intro port tcp
    rw [sameKind] at tcp
    cases tcp
  | tcp port =>
    have nonzero := before.bindable id port member
    cases bound : info.tcpListener with
    | none => simp [bound] at fits
    | some listener =>
      simp only [bound, Bool.and_eq_true, beq_iff_eq, Bool.or_eq_true, nonzero, false_or] at fits
      obtain ⟨sameKind, samePort⟩ := fits
      refine ⟨sameId, by rw [sameKind, samePort], ?_⟩
      intro asked tcp
      rw [sameKind] at tcp
      cases tcp
      exact ⟨listener, rfl, rfl⟩

/-- A reservation other than the inserted one belongs to another id. -/
theorem separate (before : Representation ledger) (alloc other : Alloc)
    (member : alloc ∈ ledger.inFlight)
    (elsewhere : (other ∈ ledger.inFlight ∧ other ≠ alloc) ∨ other ∈ ledger.abandoned) :
    other.id ≠ alloc.id := by
  intro sameAlloc
  have own : Holds ledger other.id alloc.kind := sameAlloc ▸ .flight member
  have equal : ∀ kind, Holds ledger other.id kind → (⟨other.id, kind⟩ : Alloc) = alloc := by
    intro kind holding
    rw [before.idUnique other.id kind alloc.kind holding own, sameAlloc]
  rcases elsewhere with ⟨stays, differs⟩ | stays
  · exact differs (equal other.kind (.flight stays))
  · exact before.apart alloc member (equal other.kind (.lost stays) ▸ stays)

theorem insert_entry (ledger : Ledger) {alloc : Alloc} {info : TunnelInfo}
    (sameId : info.id = alloc.id) (asked : TunnelId) (found : TunnelInfo) :
    (ledger.registry.insert info).tunnels.lookup asked = some found ↔
      (asked = alloc.id ∧ found = info) ∨
        (asked ≠ alloc.id ∧ ledger.registry.tunnels.lookup asked = some found) := by
  rw [lookup_insert, sameId]
  by_cases same : asked = alloc.id
  · simp [same, eq_comm]
  · simp [same]

section Insert
variable (before : Representation ledger) (alloc : Alloc) (info : TunnelInfo)
  (member : alloc ∈ ledger.inFlight) (sameId : info.id = alloc.id)
  (sameKind : info.kind = alloc.kind)
include before member sameId sameKind

/-- Inserting moves a reservation from its handler to the table. -/
theorem insert_holds (id : TunnelId) (kind : RegisteredKind) : Holds { ledger with
      registry := ledger.registry.insert info
      inFlight := ledger.inFlight.erase alloc } id kind ↔ Holds ledger id kind := by
  have entry := insert_entry ledger sameId
  have own : Holds ledger alloc.id alloc.kind := .flight member
  constructor
  · rintro (⟨found, present, same⟩ | stays | stays)
    · rcases (entry id found).mp present with ⟨rfl, rfl⟩ | ⟨_, present⟩
      · rw [← same, sameKind]
        exact own
      · exact .table found present same
    · exact .flight (mem_of_mem_erase stays)
    · exact .lost stays
  · intro holding
    by_cases same : id = alloc.id
    · subst same
      have sameReservation := before.idUnique _ _ _ holding own
      exact .table info ((entry _ info).mpr (.inl ⟨rfl, rfl⟩)) (sameKind.trans sameReservation.symm)
    · rcases holding with ⟨found, present, kindEq⟩ | stays | stays
      · exact .table found ((entry id found).mpr (.inr ⟨same, present⟩)) kindEq
      · refine .flight (before.distinct.mem_erase_iff.mpr ⟨?_, stays⟩)
        exact fun equal => same (congrArg Alloc.id equal)
      · exact .lost stays

/-- The label index after an insert: only the new label changes, and no table entry
carried it before. -/
theorem insert_indexed (label : String) (id : TunnelId) :
    (ledger.registry.insert info).labels.lookup label = some id ↔
      ∃ found, (ledger.registry.insert info).tunnels.lookup id = some found ∧
        found.kind = .http label := by
  have entry := insert_entry ledger sameId
  rw [insert_labels, sameId]
  by_cases http : info.kind = .http label
  · rw [if_pos http]
    constructor
    · rintro ⟨⟩
      exact ⟨info, (entry _ info).mpr (.inl ⟨rfl, rfl⟩), http⟩
    · rintro ⟨found, present, same⟩
      rcases (entry id found).mp present with ⟨rfl, rfl⟩ | ⟨differs, present⟩
      · rfl
      · have holding : Holds ledger id alloc.kind :=
          .table found present (same.trans (http.symm.trans sameKind))
        exact absurd (before.kindUnique _ _ _ holding (.flight member)) differs
  · rw [if_neg http, before.indexed label id]
    constructor
    · rintro ⟨found, present, same⟩
      refine ⟨found, (entry id found).mpr (.inr ⟨?_, present⟩), same⟩
      rintro rfl
      rw [before.outside alloc (.inl member)] at present
      cases present
    · rintro ⟨found, present, same⟩
      rcases (entry id found).mp present with ⟨rfl, rfl⟩ | ⟨_, present⟩
      · exact absurd same http
      · exact ⟨found, present, same⟩

end Insert

theorem insert (before : Representation ledger) (alloc : Alloc) (info : TunnelInfo)
    (member : alloc ∈ ledger.inFlight) (fits : Ledger.Fits alloc info = true) :
    Representation { ledger with
      registry := ledger.registry.insert info
      inFlight := ledger.inFlight.erase alloc } := by
  obtain ⟨sameId, sameKind, bound⟩ := before.fits_facts alloc info member fits
  have entry := insert_entry ledger sameId
  have holders := before.sameHolders (before.insert_holds alloc info member sameId sameKind)
    (fun kind => by cases kind <;> exact Iff.rfl) rfl
  refine ⟨?_, before.insert_indexed alloc info member sameId sameKind, holders.reserved,
    holders.kindUnique, holders.idUnique, ?_, ?_, before.distinct.erase alloc, holders.issued,
    before.counter, ?_, ?_, before.pool⟩
  · intro id found present
    rcases (entry id found).mp present with ⟨rfl, rfl⟩ | ⟨_, present⟩
    · exact sameId
    · exact before.keyed id found present
  · intro other stays
    show (ledger.registry.insert info).tunnels.lookup other.id = none
    have elsewhere : (other ∈ ledger.inFlight ∧ other ≠ alloc) ∨ other ∈ ledger.abandoned := by
      rcases stays with stays | stays
      · obtain ⟨differs, stays⟩ := before.distinct.mem_erase_iff.mp stays
        exact .inl ⟨stays, differs⟩
      · exact .inr stays
    rw [lookup_insert, sameId, if_neg (before.separate alloc other member elsewhere)]
    exact before.outside other (elsewhere.imp And.left id)
  · exact fun other stays => before.apart other (mem_of_mem_erase stays)
  · intro id found port present tcp
    rcases (entry id found).mp present with ⟨rfl, rfl⟩ | ⟨_, present⟩
    · exact bound port tcp
    · exact before.listening id found port present tcp
  · exact fun id port stays => before.bindable id port (mem_of_mem_erase stays)

theorem allocated_mono (next : Ledger) (event : Ledger.Event)
    (step : ledger.step event = some next) : ledger.allocated ≤ next.allocated := by
  cases event <;> simp only [Ledger.step] at step
  case allocateTcp =>
    split at step <;> cases step
    · exact Nat.le_refl _
    · exact Nat.le_succ _
  case allocateHttp =>
    split at step <;> cases step
    · exact Nat.le_refl _
    · exact Nat.le_succ _
  case insert =>
    split at step <;> cases step
    exact Nat.le_refl _
  case abandon =>
    split at step <;> cases step
    exact Nat.le_refl _
  all_goals
    cases step
    exact Nat.le_refl _

theorem step (before : Representation ledger) (next : Ledger) (event : Ledger.Event)
    (stepped : ledger.step event = some next) (room : next.allocated < 2 ^ 64 - 1) :
    Representation next := by
  cases event with
  | tick =>
    cases stepped
    exact before.restate _ (.refl _) (fun _ info => info) (by simp)
      (fun _ _ => rfl) (fun _ _ => rfl) (fun _ _ => rfl)
  | allocateTcp allowlist =>
    simp only [Ledger.step] at stepped
    split at stepped <;> rename_i result <;> cases stepped
    · rw [allocateTcp_error _ _ _ _ result]
      exact before
    · exact before.granted _ _ (allocateTcp_ok _ _ _ _ _ result) room
  | allocateHttp label =>
    simp only [Ledger.step] at stepped
    split at stepped <;> rename_i result <;> cases stepped
    · rw [allocateHttp_error _ _ _ _ result]
      exact before
    · exact before.granted _ _ (allocateHttp_ok _ _ _ _ result) room
  | insert alloc info =>
    simp only [Ledger.step] at stepped
    split at stepped <;> rename_i guard <;> cases stepped
    exact before.insert alloc info guard.1 guard.2
  | abandon alloc =>
    simp only [Ledger.step] at stepped
    split at stepped <;> rename_i member <;> cases stepped
    exact before.abandon alloc member
  | remove id =>
    cases stepped
    exact before.removeLocked id
  | removeAllOwnedBy | reapExpired =>
    cases stepped
    exact before.sweep _
  | markDangling owner grace =>
    cases stepped
    refine before.restate ledger.now (markDangling_sameIndex _ _ _ _)
      (fun _ info => if info.owner = owner then
        TunnelRegistry.dangled (ledger.now + grace) info else info)
      (lookup_markDangling _ _ _ _) ?_ ?_ ?_ <;>
    · intro id info
      unfold TunnelRegistry.dangled
      split <;> [split; skip] <;> rfl
  | tryResume order label sessionId pubkey conn =>
    cases stepped
    rcases ledger.registry.tryResume_cases order label sessionId pubkey conn with
      same | same | ⟨id, info, expiresAt, found, _, _, _, effect⟩
    · rw [same]
      exact before
    · rw [same]
      exact before
    · rw [effect]
      refine before.restate ledger.now ⟨rfl, rfl, rfl, rfl, rfl⟩
        (fun asked old => if asked = id then { old with state := .live conn none } else old)
        ?_ ?_ ?_ ?_
      · intro asked
        rw [lookup_tableInsert]
        by_cases same : asked = id
        · subst same
          simp [found]
        · simp [same]
      all_goals
        intro asked old
        split <;> rfl
  | setTcpAbort =>
    cases stepped
    refine before.restate ledger.now (setTcpAbort_sameIndex _ _ _) _
      (lookup_setTcpAbort _ _ _) ?_ ?_ ?_ <;>
    · intro asked info
      split <;> [split; skip] <;> rfl

/-- The invariant rule for runs on which the id counter does not wrap. -/
theorem run_invariant {last : Ledger} (before : Representation ledger) (inv : Ledger → Prop)
    (preserved : ∀ state event next, Representation state → state.step event = some next →
      next.allocated < 2 ^ 64 - 1 → inv state → inv next)
    {events : List Ledger.Event} (ran : Lib.run Ledger.step ledger events = some last)
    (room : last.allocated < 2 ^ 64 - 1) (start : inv ledger) : Representation last ∧ inv last := by
  refine Lib.run_invariant
    (fun state => state.allocated < 2 ^ 64 - 1 → Representation state ∧ inv state) ?_
    (fun _ => ⟨before, start⟩) ran room
  intro state event next held step room
  have earlier := allocated_mono next event step
  obtain ⟨holds, inner⟩ := held (by omega)
  exact ⟨holds.step next event step room, preserved state event next holds step room inner⟩

theorem reachable (pool : PortPool) (nonzero : 0 ∉ pool.ports) (reached : ledger.Reachable pool)
    (room : ledger.allocated < 2 ^ 64 - 1) : Representation ledger := by
  obtain ⟨now, events, ran⟩ := reached
  exact ((init pool now nonzero).run_invariant (fun _ => True) (fun _ _ _ _ _ _ _ => trivial)
    ran room trivial).1

/-- `resolve_label` through the invariant: exactly the Live tunnel of that label. -/
theorem resolveLabel_iff (before : Representation ledger) (label : String)
    (resolved : ResolvedTunnel) :
    ledger.registry.resolveLabel label = some resolved ↔
      ∃ info abort, ledger.registry.tunnels.lookup resolved.id = some info ∧
        info.kind = .http label ∧ info.state = .live resolved.connection abort ∧
        resolved.rate = info.rate ∧ resolved.inspect = info.inspect := by
  simp only [TunnelRegistry.resolveLabel, Option.bind_eq_bind, Option.bind_eq_some_iff]
  constructor
  · rintro ⟨id, indexed, info, found, answer⟩
    obtain ⟨own, present, http⟩ := (before.indexed label id).mp indexed
    rw [found] at present
    cases present
    cases state : info.state with
    | live _ abort =>
      simp only [state, Option.some.injEq] at answer
      subst answer
      exact ⟨info, abort, found, http, state, rfl, rfl⟩
    | dangling => simp [state] at answer
  · rintro ⟨info, abort, found, http, state, rate, inspect⟩
    refine ⟨resolved.id, (before.indexed label resolved.id).mpr ⟨info, found, http⟩, info, found, ?_⟩
    simp only [state, Option.some.injEq]
    cases resolved
    simp_all

end TableUpdates

end Representation

/-- What a caller of the registry can rely on. -/
structure Coherent (ledger : Ledger) : Prop where
  /-- every table entry is stored under its own id -/
  ownId : ∀ id info, ledger.registry.tunnels.lookup id = some info → info.id = id
  /-- the label index is exactly the HTTP part of the table -/
  labelIndex : ∀ label id, ledger.registry.labels.lookup label = some id ↔
    ∃ info, ledger.registry.tunnels.lookup id = some info ∧ info.kind = .http label
  /-- tunnels and allocations in flight have their label or port reserved -/
  tunnelReserved : ∀ id info, ledger.registry.tunnels.lookup id = some info →
    ledger.registry.Reserved info.kind
  flightReserved : ∀ alloc ∈ ledger.inFlight, ledger.registry.Reserved alloc.kind
  /-- no two of them share a label, a port or an id -/
  tunnelsDistinct : ∀ first second left right, ledger.registry.tunnels.lookup first = some left →
    ledger.registry.tunnels.lookup second = some right → left.kind = right.kind → first = second
  flightApart : ∀ alloc ∈ ledger.inFlight, ∀ id info,
    ledger.registry.tunnels.lookup id = some info → alloc.id ≠ id ∧ alloc.kind ≠ info.kind
  flightDistinct : ledger.inFlight.Pairwise fun left right =>
    left.id ≠ right.id ∧ left.kind ≠ right.kind
  /-- every TCP tunnel carries the listener bound on its public port -/
  tcpListener : ∀ id info port, ledger.registry.tunnels.lookup id = some info →
    info.kind = .tcp port → ∃ listener, info.tcpListener = some listener ∧ listener.localPort = port
  /-- routing answers with the Live tunnel of the label -/
  resolvesLive : ∀ label id info connection abort, ledger.registry.tunnels.lookup id = some info →
    info.kind = .http label → info.state = .live connection abort →
    ledger.registry.resolveLabel label = some ⟨id, connection, info.rate, info.inspect⟩
  /-- and with nothing while it is dangling, or when there is none -/
  resolvesNothing : ∀ label, (∀ id info, ledger.registry.tunnels.lookup id = some info →
    info.kind = .http label → info.state.isDangling = true) →
    ledger.registry.resolveLabel label = none

/-- The representation invariant of the registry: it holds after every interleaving of
any number of callers, as long as the id counter has not wrapped. -/
theorem registry_coherent (pool : PortPool) (nonzero : 0 ∉ pool.ports) (ledger : Ledger)
    (reached : ledger.Reachable pool) (room : ledger.allocated < 2 ^ 64 - 1) :
    Coherent ledger := by
  have holds := Representation.reachable pool nonzero reached room
  refine ⟨holds.keyed, holds.indexed, ?_, ?_, ?_, ?_, ?_, holds.listening, ?_, ?_⟩
  · intro id info found
    exact (holds.reserved info.kind).mpr ⟨id, .table info found rfl⟩
  · intro alloc member
    exact (holds.reserved alloc.kind).mpr ⟨alloc.id, .flight member⟩
  · intro first second left right foundLeft foundRight same
    exact holds.kindUnique first second right.kind (.table left foundLeft same)
      (.table right foundRight rfl)
  · intro alloc member id info found
    have absent := holds.outside alloc (.inl member)
    have differs : alloc.id ≠ id := by
      rintro rfl
      rw [absent] at found
      cases found
    refine ⟨differs, fun same => differs ?_⟩
    exact holds.kindUnique alloc.id id info.kind (same ▸ .flight member) (.table info found rfl)
  · refine holds.distinct.imp_of_mem ?_
    intro left right memberLeft memberRight differs
    constructor
    · intro same
      have kinds := holds.idUnique right.id left.kind right.kind (same ▸ .flight memberLeft)
        (.flight memberRight)
      exact differs (by cases left; cases right; simp_all)
    · intro same
      have ids := holds.kindUnique left.id right.id right.kind (same ▸ .flight memberLeft)
        (.flight memberRight)
      exact differs (by cases left; cases right; simp_all)
  · intro label id info connection abort found http live
    exact (holds.resolveLabel_iff label ⟨id, connection, info.rate, info.inspect⟩).mpr
      ⟨info, abort, found, http, live, rfl, rfl⟩
  · intro label dangling
    cases answer : ledger.registry.resolveLabel label with
    | none => rfl
    | some resolved =>
      obtain ⟨info, abort, found, http, live, _⟩ := (holds.resolveLabel_iff label resolved).mp answer
      have impossible := dangling resolved.id info found http
      rw [live] at impossible
      cases impossible

section Example

private def alice : PubKey := ⟨.replicate 32 1⟩

private def firstSession : SessionId := ⟨.replicate 16 7⟩

private def webTunnel : TunnelInfo where
  id := ⟨1⟩
  owner := alice
  sessionId := firstSession
  kind := .http "web"
  state := .live ⟨0⟩ none
  tcpListener := none
  rate := ⟨0⟩
  inspect := false

/-- One HTTP registration completed while a TCP registration is between its two steps. -/
private def busy : Ledger where
  registry := ((TunnelRegistry.new ⟨7000, 7001⟩).allocateHttp "web").2.allocateTcp none |>.2.insert
    webTunnel
  now := 0
  inFlight := [⟨⟨2⟩, .tcp 7000⟩]
  abandoned := []
  allocated := 2

theorem registry_coherent_busy : Coherent busy ∧ busy.allocated < 2 ^ 64 - 1 ∧
    busy.registry.resolveLabel "web" = some ⟨⟨1⟩, ⟨0⟩, ⟨0⟩, false⟩ :=
  ⟨registry_coherent ⟨7000, 7001⟩ (by decide) busy
    ⟨0, [.allocateHttp "web", .allocateTcp none, .insert ⟨⟨1⟩, .http "web"⟩ webTunnel], rfl⟩
    (by decide), by decide, by rfl⟩

end Example

end KrotRelay.Guarantees
