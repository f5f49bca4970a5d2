import KrotRelay.Source.Ledger

/-!
The reservation sets and the label index, operation by operation: which label or port
each operation takes or gives back, and which operations leave all of it alone.
-/
namespace KrotRelay.Source
namespace TunnelRegistry

variable (registry : TunnelRegistry)

/-- The label or port is marked as used. -/
def Reserved : RegisteredKind → Prop
  | .tcp port => port ∈ registry.usedPorts
  | .http label => label ∈ registry.usedLabels

/-- Same pool, counter, reservations and label index; only table entries may differ. -/
structure SameIndex (other : TunnelRegistry) : Prop where
  portPool : other.portPool = registry.portPool
  nextId : other.nextId = registry.nextId
  usedPorts : other.usedPorts = registry.usedPorts
  usedLabels : other.usedLabels = registry.usedLabels
  labels : other.labels = registry.labels

theorem SameIndex.refl : registry.SameIndex registry := ⟨rfl, rfl, rfl, rfl, rfl⟩

theorem SameIndex.trans {first second third : TunnelRegistry} (left : first.SameIndex second)
    (right : second.SameIndex third) : first.SameIndex third :=
  ⟨right.portPool.trans left.portPool, right.nextId.trans left.nextId,
    right.usedPorts.trans left.usedPorts, right.usedLabels.trans left.usedLabels,
    right.labels.trans left.labels⟩

theorem SameIndex.reserved {registry other : TunnelRegistry} (same : registry.SameIndex other)
    (kind : RegisteredKind) : other.Reserved kind ↔ registry.Reserved kind := by
  cases kind with
  | tcp => simp only [Reserved, same.usedPorts]
  | http => simp only [Reserved, same.usedLabels]

theorem dangle_sameIndex (expiresAt : Instant) (id : TunnelId) :
    registry.SameIndex (registry.dangle expiresAt id) := by
  unfold dangle
  split
  · exact .refl registry
  · split
    · exact .refl registry
    · exact ⟨by simp, by simp, by simp, by simp, by simp⟩

theorem markDangling_sameIndex (owner : PubKey) (grace : Duration) (now : Instant) :
    registry.SameIndex (registry.markDangling owner grace now) := by
  unfold markDangling
  generalize registry.idsWhere _ = ids
  induction ids generalizing registry with
  | nil => exact .refl registry
  | cons id _ ih => exact (dangle_sameIndex registry (now + grace) id).trans (ih _)

theorem tryResume_sameIndex (order : List TunnelId) (label : String) (sessionId : SessionId)
    (pubkey : PubKey) (conn : Connection) :
    registry.SameIndex (registry.tryResume order label sessionId pubkey conn).2 := by
  rcases registry.tryResume_cases order label sessionId pubkey conn with
    same | same | ⟨id, info, expiresAt, found, state, session, owner, effect⟩
  · rw [same]
    exact .refl registry
  · rw [same]
    exact .refl registry
  · rw [effect]
    exact ⟨rfl, rfl, rfl, rfl, rfl⟩

theorem setTcpAbort_sameIndex (id : TunnelId) (newAbort : AbortHandle) :
    registry.SameIndex (registry.setTcpAbort id newAbort) := by
  unfold setTcpAbort
  split
  · exact .refl registry
  · split
    · exact ⟨rfl, rfl, rfl, rfl, rfl⟩
    · exact .refl registry

theorem removeLocked_absent (id : TunnelId) (absent : registry.tunnels.lookup id = none) :
    registry.removeLocked id = registry := by
  simp only [removeLocked, absent]

@[simp] theorem removeLocked_portPool (id : TunnelId) :
    (registry.removeLocked id).portPool = registry.portPool := by
  unfold removeLocked
  split
  · rfl
  · rename_i info _
    cases kind : info.kind <;> simp

@[simp] theorem removeLocked_nextId (id : TunnelId) :
    (registry.removeLocked id).nextId = registry.nextId := by
  unfold removeLocked
  split
  · rfl
  · rename_i info _
    cases kind : info.kind <;> simp

theorem sweep_nextId (ids : List TunnelId) :
    (ids.foldl removeLocked registry).nextId = registry.nextId := by
  induction ids generalizing registry with
  | nil => rfl
  | cons _ _ ih => rw [List.foldl_cons, ih, removeLocked_nextId]

/-- Removing a tunnel gives back exactly its own label or port. -/
theorem removeLocked_reserved (id : TunnelId) (info : TunnelInfo)
    (found : registry.tunnels.lookup id = some info) (kind : RegisteredKind) :
    (registry.removeLocked id).Reserved kind ↔ kind ≠ info.kind ∧ registry.Reserved kind := by
  simp only [removeLocked, found]
  cases own : info.kind <;> cases kind <;> simp [Reserved]

theorem removeLocked_labels (id : TunnelId) (info : TunnelInfo)
    (found : registry.tunnels.lookup id = some info) (label : String) :
    (registry.removeLocked id).labels.lookup label =
      if info.kind = .http label then none else registry.labels.lookup label := by
  simp only [removeLocked, found]
  cases own : info.kind with
  | tcp => simp
  | http taken =>
    by_cases same : label = taken
    · subst same
      simp [AList.lookup_erase]
    · simp only [abortTask_labels, RegisteredKind.http.injEq]
      rw [AList.lookup_erase_ne same, if_neg (fun equal => same equal.symm)]

theorem insert_labels (info : TunnelInfo) (label : String) :
    (registry.insert info).labels.lookup label =
      if info.kind = .http label then some info.id else registry.labels.lookup label := by
  unfold insert
  cases own : info.kind with
  | tcp => simp
  | http taken =>
    by_cases same : label = taken
    · subst same
      simp [AList.lookup_insert]
    · simp only [RegisteredKind.http.injEq]
      rw [AList.lookup_insert_ne same, if_neg (fun equal => same equal.symm)]

theorem pickFreePort_some {pool : PortPool} {used : Finset UInt16}
    {allowlist : Option (List UInt16)} {port : UInt16}
    (picked : pickFreePort pool used allowlist = some port) : port ∈ pool.ports ∧ port ∉ used := by
  refine ⟨List.mem_of_find?_eq_some picked, ?_⟩
  have chosen := List.find?_some picked
  intro taken
  simp [taken] at chosen

theorem pickFreePort_listed
    (picked : pickFreePort pool used (some list) = some port) : port ∈ list := by
  have chosen := List.find?_some picked
  split at chosen
  · cases chosen
  · exact List.contains_iff_mem.mp chosen

/-- What a successful allocation returns and reserves. -/
structure Grants (after : TunnelRegistry) (alloc : Alloc) : Prop where
  id : alloc.id = ⟨registry.nextId⟩
  free : ¬ registry.Reserved alloc.kind
  fromPool : ∀ port, alloc.kind = .tcp port → port ∈ registry.portPool.ports
  portPool : after.portPool = registry.portPool
  nextId : after.nextId = if registry.nextId + 1 < 2 ^ 64 then registry.nextId + 1 else 1
  tunnels : after.tunnels = registry.tunnels
  labels : after.labels = registry.labels
  reserved : ∀ kind, after.Reserved kind ↔ kind = alloc.kind ∨ registry.Reserved kind

theorem allocateTcp_error (allowlist : Option (List UInt16)) (problem : ServerError)
    (after : TunnelRegistry) (failed : registry.allocateTcp allowlist = (.error problem, after)) :
    after = registry := by
  unfold allocateTcp at failed
  split at failed
  · cases failed
    rfl
  · cases failed

theorem allocateTcp_ok (allowlist : Option (List UInt16)) (id : TunnelId) (port : UInt16)
    (after : TunnelRegistry) (success : registry.allocateTcp allowlist = (.ok (id, port), after)) :
    registry.Grants after ⟨id, .tcp port⟩ := by
  unfold allocateTcp at success
  split at success
  · cases success
  · rename_i picked found
    obtain ⟨fromPool, free⟩ := pickFreePort_some found
    simp only [freshId, Prod.mk.injEq, Except.ok.injEq] at success
    obtain ⟨⟨rfl, rfl⟩, rfl⟩ := success
    refine ⟨rfl, free, ?_, rfl, rfl, rfl, rfl, ?_⟩
    · rintro _ ⟨⟩
      exact fromPool
    · intro kind
      cases kind <;> simp [Reserved]

theorem allocateTcp_aborted (allowlist : Option (List UInt16)) :
    (registry.allocateTcp allowlist).2.aborted = registry.aborted := by
  unfold allocateTcp
  split <;> rfl

theorem allocateHttp_aborted (label : String) :
    (registry.allocateHttp label).2.aborted = registry.aborted := by
  unfold allocateHttp
  split <;> rfl

theorem allocateTcp_listed (list : List UInt16) (id : TunnelId) (port : UInt16)
    (after : TunnelRegistry)
    (success : registry.allocateTcp (some list) = (.ok (id, port), after)) : port ∈ list := by
  unfold allocateTcp at success
  split at success
  · cases success
  · rename_i picked found
    simp only [freshId, Prod.mk.injEq, Except.ok.injEq] at success
    obtain ⟨⟨_, rfl⟩, _⟩ := success
    exact pickFreePort_listed found

theorem allocateHttp_error (label : String) (problem : ServerError) (after : TunnelRegistry)
    (failed : registry.allocateHttp label = (.error problem, after)) : after = registry := by
  unfold allocateHttp at failed
  split at failed
  · cases failed
    rfl
  · cases failed

theorem allocateHttp_ok (label : String) (id : TunnelId) (after : TunnelRegistry)
    (success : registry.allocateHttp label = (.ok id, after)) :
    registry.Grants after ⟨id, .http label⟩ := by
  unfold allocateHttp at success
  split at success
  · cases success
  · rename_i free
    simp only [freshId, Prod.mk.injEq, Except.ok.injEq] at success
    obtain ⟨rfl, rfl⟩ := success
    refine ⟨rfl, free, ?_, rfl, rfl, rfl, rfl, ?_⟩
    · rintro _ ⟨⟩
    · intro kind
      cases kind <;> simp [Reserved]

end TunnelRegistry
end KrotRelay.Source
