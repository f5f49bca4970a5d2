import KrotRelay.Source.Registry

/-!
What each registry operation does to the table entry of one id. Every later result
about runs reads an operation through these equations only, so a change of an
operation's body is absorbed here.
-/
namespace KrotRelay.Source
namespace TunnelRegistry

variable (registry : TunnelRegistry)

section AbortTask
variable (state : TunnelState)

@[simp] theorem abortTask_portPool : (registry.abortTask state).portPool = registry.portPool := by
  unfold abortTask; split <;> rfl

@[simp] theorem abortTask_nextId : (registry.abortTask state).nextId = registry.nextId := by
  unfold abortTask; split <;> rfl

@[simp] theorem abortTask_usedPorts : (registry.abortTask state).usedPorts = registry.usedPorts := by
  unfold abortTask; split <;> rfl

@[simp] theorem abortTask_usedLabels :
    (registry.abortTask state).usedLabels = registry.usedLabels := by
  unfold abortTask; split <;> rfl

@[simp] theorem abortTask_tunnels : (registry.abortTask state).tunnels = registry.tunnels := by
  unfold abortTask; split <;> rfl

@[simp] theorem abortTask_labels : (registry.abortTask state).labels = registry.labels := by
  unfold abortTask; split <;> rfl

end AbortTask

theorem lookup_tableInsert (tunnels : HashMap TunnelId TunnelInfo) (id queried : TunnelId)
    (info : TunnelInfo) :
    (tunnels.insert id info).lookup queried = if queried = id then some info else tunnels.lookup queried := by
  by_cases same : queried = id
  · subst same
    simp [AList.lookup_insert]
  · rw [AList.lookup_insert_ne same, if_neg same]

theorem lookup_tableErase (tunnels : HashMap TunnelId TunnelInfo) (id queried : TunnelId) :
    (tunnels.erase id).lookup queried = if queried = id then none else tunnels.lookup queried := by
  by_cases same : queried = id
  · subst same
    simp [AList.lookup_erase]
  · rw [AList.lookup_erase_ne same, if_neg same]

theorem lookup_insert (info : TunnelInfo) (queried : TunnelId) :
    (registry.insert info).tunnels.lookup queried =
      if queried = info.id then some info else registry.tunnels.lookup queried :=
  lookup_tableInsert _ _ _ _

theorem lookup_removeLocked (id queried : TunnelId) :
    (registry.removeLocked id).tunnels.lookup queried =
      if queried = id then none else registry.tunnels.lookup queried := by
  unfold removeLocked
  cases found : registry.tunnels.lookup id with
  | none =>
    by_cases same : queried = id
    · subst same
      simpa using found
    · simp [same]
  | some info =>
    have erased := lookup_tableErase registry.tunnels id queried
    cases kind : info.kind <;> simpa [kind] using erased

/-- The ids collected by a sweep are the keys whose entry is selected. -/
theorem mem_idsWhere (select : TunnelInfo → Bool) (id : TunnelId) : id ∈ registry.idsWhere select ↔
      ∃ info, registry.tunnels.lookup id = some info ∧ select info = true := by
  unfold idsWhere
  rw [List.mem_filterMap]
  constructor
  · rintro ⟨⟨key, info⟩, mem, chosen⟩
    by_cases selected : select info = true
    · simp only [selected, if_true, Option.some.injEq] at chosen
      subst chosen
      exact ⟨info, AList.mem_lookup_iff.mpr mem, selected⟩
    · simp [selected] at chosen
  · rintro ⟨info, found, selected⟩
    exact ⟨⟨id, info⟩, AList.mem_lookup_iff.mp found, by simp [selected]⟩

theorem lookup_foldl_removeLocked (ids : List TunnelId) (queried : TunnelId) :
    (ids.foldl removeLocked registry).tunnels.lookup queried =
      if queried ∈ ids then none else registry.tunnels.lookup queried := by
  induction ids generalizing registry with
  | nil => simp
  | cons id rest ih =>
    rw [List.foldl_cons, ih (registry.removeLocked id), lookup_removeLocked]
    by_cases later : queried ∈ rest
    · simp [later]
    · by_cases same : queried = id <;> simp [later, same]

/-- A sweep removes exactly the selected entries and leaves the others alone. -/
theorem lookup_sweep (select : TunnelInfo → Bool) (asked : TunnelId) :
    ((registry.idsWhere select).foldl removeLocked registry).tunnels.lookup asked =
      (registry.tunnels.lookup asked).filter fun info => !select info := by
  rw [lookup_foldl_removeLocked]
  simp only [mem_idsWhere]
  cases found : registry.tunnels.lookup asked with
  | none => simp
  | some info =>
    by_cases selected : select info = true <;> simp [selected, Option.filter]

theorem lookup_removeAllOwnedBy (owner : PubKey) (asked : TunnelId) :
    (registry.removeAllOwnedBy owner).tunnels.lookup asked =
      (registry.tunnels.lookup asked).filter fun info => !(info.owner == owner) :=
  registry.lookup_sweep _ asked

theorem lookup_reapExpired (now : Instant) (asked : TunnelId) :
    (registry.reapExpired now).2.tunnels.lookup asked =
      (registry.tunnels.lookup asked).filter fun info => !expired now info :=
  registry.lookup_sweep _ asked

/-- The effect of `mark_dangling` on one entry that the sweep selected. -/
def dangled (expiresAt : Instant) (info : TunnelInfo) : TunnelInfo :=
  if info.state.isDangling then info else { info with state := .dangling expiresAt }

theorem dangled_idem (expiresAt : Instant) (info : TunnelInfo) :
    dangled expiresAt (dangled expiresAt info) = dangled expiresAt info := by
  unfold dangled
  split <;> simp_all [TunnelState.isDangling]

theorem lookup_dangle (expiresAt : Instant) (id queried : TunnelId) :
    (registry.dangle expiresAt id).tunnels.lookup queried =
      if queried = id then (registry.tunnels.lookup queried).map (dangled expiresAt)
      else registry.tunnels.lookup queried := by
  unfold dangle
  by_cases same : queried = id
  · subst same
    cases found : registry.tunnels.lookup queried with
    | none => simp [found]
    | some info =>
      by_cases dangling : info.state.isDangling = true
      · simp [dangling, found, dangled]
      · simp [dangling, dangled]
  · cases found : registry.tunnels.lookup id with
    | none => simp [same]
    | some info =>
      by_cases dangling : info.state.isDangling = true
      · simp [dangling, same]
      · simp [dangling, same]

theorem lookup_foldl_dangle (expiresAt : Instant) (ids : List TunnelId) (queried : TunnelId) :
    (ids.foldl (dangle expiresAt) registry).tunnels.lookup queried =
      if queried ∈ ids then (registry.tunnels.lookup queried).map (dangled expiresAt)
      else registry.tunnels.lookup queried := by
  induction ids generalizing registry with
  | nil => simp
  | cons id rest ih =>
    rw [List.foldl_cons, ih (registry.dangle expiresAt id), lookup_dangle]
    by_cases same : queried = id
    · subst same
      by_cases later : queried ∈ rest
      · simp [later, Function.comp_def, dangled_idem]
      · simp [later]
    · by_cases later : queried ∈ rest <;> simp [later, same]

theorem lookup_markDangling (owner : PubKey) (grace : Duration) (now : Instant)
    (asked : TunnelId) : (registry.markDangling owner grace now).tunnels.lookup asked =
      (registry.tunnels.lookup asked).map fun info =>
        if info.owner = owner then dangled (now + grace) info else info := by
  unfold markDangling
  rw [lookup_foldl_dangle]
  simp only [mem_idsWhere]
  cases found : registry.tunnels.lookup asked with
  | none => simp
  | some info =>
    by_cases owned : info.owner = owner <;> simp [owned]

theorem lookup_setTcpAbort (id : TunnelId) (newAbort : AbortHandle) (queried : TunnelId) :
    (registry.setTcpAbort id newAbort).tunnels.lookup queried =
      (registry.tunnels.lookup queried).map fun info =>
        match info.state with
        | .live conn _ =>
          if queried = id then { info with state := .live conn (some newAbort) } else info
        | .dangling _ => info := by
  unfold setTcpAbort
  by_cases same : queried = id
  · subst same
    cases found : registry.tunnels.lookup queried with
    | none => simp [found]
    | some info =>
      cases state : info.state with
      | live => simp [state]
      | dangling => simp [state, found]
  · have skipped : (registry.tunnels.lookup queried).map (fun info =>
        match info.state with
        | .live conn _ =>
          if queried = id then { info with state := .live conn (some newAbort) } else info
        | .dangling _ => info) = registry.tunnels.lookup queried := by
      cases found : registry.tunnels.lookup queried with
      | none => rfl
      | some info => cases state : info.state <;> simp [state, same]
    rw [skipped]
    cases found : registry.tunnels.lookup id with
    | none => rfl
    | some info =>
      cases state : info.state with
      | live => simp [state, same]
      | dangling => simp [state]

/-- The tunnels a request may name to `try_resume`: the label's own, and the dangling TCP
tunnels of the session when nothing has the label. -/
def Nameable (label : String) (id : TunnelId) (info : TunnelInfo) : Prop :=
  registry.labels.lookup label = some id ∨
    (registry.labels.lookup label = none ∧ info.kind.isTcp = true)

theorem resumeCandidate_nameable {order : List TunnelId} {label : String} {sessionId : SessionId}
    {id : TunnelId} {info : TunnelInfo}
    (candidate : registry.resumeCandidate order label sessionId = some id)
    (found : registry.tunnels.lookup id = some info) : registry.Nameable label id info := by
  unfold resumeCandidate at candidate
  cases indexed : registry.labels.lookup label with
  | some =>
    rw [indexed] at candidate
    exact .inl (indexed.trans candidate)
  | none =>
    rw [indexed] at candidate
    have chosen := List.find?_some candidate
    simp only [found, Bool.and_eq_true] at chosen
    exact .inr ⟨indexed, chosen.2⟩

/-- Everything `try_resume` can do: report without a write, or put one dangling tunnel
of exactly this session and this key back on the given connection. -/
theorem tryResume_nameable (order : List TunnelId) (label : String) (sessionId : SessionId)
    (pubkey : PubKey) (conn : Connection) :
    registry.tryResume order label sessionId pubkey conn = (.unknown, registry) ∨
    registry.tryResume order label sessionId pubkey conn = (.identityMismatch, registry) ∨
    ∃ id info expiresAt, registry.Nameable label id info ∧ registry.tunnels.lookup id = some info ∧
      info.state = .dangling expiresAt ∧ info.sessionId = sessionId ∧ info.owner = pubkey ∧
      registry.tryResume order label sessionId pubkey conn = (reportResumed id info, { registry with
            tunnels := registry.tunnels.insert id { info with state := .live conn none } }) := by
  unfold tryResume
  cases candidate : registry.resumeCandidate order label sessionId with
  | none => exact .inl rfl
  | some id =>
    dsimp only
    cases found : registry.tunnels.lookup id with
    | none => exact .inl rfl
    | some info =>
      dsimp only
      cases state : info.state with
      | live => exact .inl (by simp [TunnelState.isDangling])
      | dangling expiresAt =>
        simp only [TunnelState.isDangling, Bool.not_true, Bool.false_eq_true, if_false]
        by_cases session : info.sessionId = sessionId
        · by_cases owner : info.owner = pubkey
          · have nameable := registry.resumeCandidate_nameable candidate found
            exact .inr (.inr ⟨id, info, expiresAt, nameable, found, state, session, owner,
              by simp [session, owner]⟩)
          · exact .inr (.inl (by simp [session, owner]))
        · exact .inl (by simp [session])

theorem tryResume_cases (order : List TunnelId) (label : String) (sessionId : SessionId)
    (pubkey : PubKey) (conn : Connection) :
    registry.tryResume order label sessionId pubkey conn = (.unknown, registry) ∨
    registry.tryResume order label sessionId pubkey conn = (.identityMismatch, registry) ∨
    ∃ id info expiresAt, registry.tunnels.lookup id = some info ∧
      info.state = .dangling expiresAt ∧ info.sessionId = sessionId ∧ info.owner = pubkey ∧
      registry.tryResume order label sessionId pubkey conn = (reportResumed id info, { registry with
            tunnels := registry.tunnels.insert id { info with state := .live conn none } }) := by
  rcases registry.tryResume_nameable order label sessionId pubkey conn with
    same | same | ⟨id, info, expiresAt, _, effect⟩
  · exact .inl same
  · exact .inr (.inl same)
  · exact .inr (.inr ⟨id, info, expiresAt, effect⟩)

end TunnelRegistry
end KrotRelay.Source
