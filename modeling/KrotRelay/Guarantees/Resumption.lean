import KrotRelay.Guarantees.Lifecycle
import KrotRelay.Source.Session

/-!
# Resuming a tunnel

What `try_resume` does to a reachable registry, which request gets which tunnel back, and
when. Its effect is sound and atomic in every reachable state. Which tunnel it picks depends
on the label index alone, whatever kind was asked for, and it never looks at a deadline: for
both, the exact condition under which the outcome is the promised one is given.
-/
namespace KrotRelay.Guarantees
open Source Lib List
open TunnelRegistry (reportResumed resumeCandidate tryResume dangled expired)

section Listeners

/-- Every TCP tunnel of the table carries its listener. -/
def AllListening (registry : TunnelRegistry) : Prop :=
  ∀ id info, registry.tunnels.lookup id = some info → info.kind.isTcp = true →
    info.tcpListener.isSome = true

theorem fits_listening {alloc : Alloc} {info : TunnelInfo} (fits : Ledger.Fits alloc info = true)
    (tcp : info.kind.isTcp = true) : info.tcpListener.isSome = true := by
  unfold Ledger.Fits at fits
  cases kind : alloc.kind with
  | http =>
    simp only [kind, Bool.and_eq_true, beq_iff_eq] at fits
    rw [fits.2] at tcp
    cases tcp
  | tcp =>
    cases listener : info.tcpListener with
    | none => simp [kind, listener] at fits
    | some => rfl

theorem fits_live {alloc : Alloc} {info : TunnelInfo} (fits : Ledger.Fits alloc info = true) :
    info.state.isDangling = false := by
  simp only [Ledger.Fits, Bool.and_eq_true, Bool.not_eq_true'] at fits
  exact fits.1.2

theorem allListening_step {ledger next : Ledger} {event : Ledger.Event}
    (listening : AllListening ledger.registry) (step : ledger.step event = some next) :
    AllListening next.registry := by
  intro id info found
  have change := Ledger.step_change step id
  rw [found] at change
  generalize before : ledger.registry.tunnels.lookup id = entry at change
  cases change with
  | keep => exact listening id info before
  | inserted _ _ _ _ fits => exact fits_listening fits
  | dangled old => exact listening id old before
  | resumed old => exact listening id old before
  | handled old => exact listening id old before

theorem allListening_reachable {pool : PortPool} {ledger : Ledger}
    (reached : ledger.Reachable pool) : AllListening ledger.registry := by
  obtain ⟨now, reached⟩ := reached
  refine reached.invariant (fun ledger => AllListening ledger.registry) ?_ ?_
  · intro id info found
    cases found
  · exact fun _ _ _ listening step => allListening_step listening step

end Listeners

section Soundness

/-- What the caller is told is what the table has. -/
def Reports (info : TunnelInfo) (resumed : ResumedInfo) (inspect : Bool) : Prop :=
  inspect = info.inspect ∧ match info.kind with
    | .http label => resumed = .http label
    | .tcp port => ∃ listener, info.tcpListener = some listener ∧ resumed = .tcp port listener

/-- One tunnel is Live on the connection; nothing else is different. -/
structure Revived (before after : TunnelRegistry) (id : TunnelId) (info : TunnelInfo)
    (connection : Connection) : Prop where
  here : after.tunnels.lookup id = some { info with state := .live connection none }
  others : ∀ other, other ≠ id → after.tunnels.lookup other = before.tunnels.lookup other
  labels : after.labels = before.labels
  usedLabels : after.usedLabels = before.usedLabels
  usedPorts : after.usedPorts = before.usedPorts
  nextId : after.nextId = before.nextId
  portPool : after.portPool = before.portPool
  aborted : after.aborted = before.aborted

structure ResumeSound (registry : TunnelRegistry) (sessionId : SessionId) (pubkey : PubKey)
    (connection : Connection) (outcome : ResumeOutcome) (after : TunnelRegistry) : Prop where
  reattached : ∀ id resumed inspect, outcome = .reattached id resumed inspect →
    ∃ info expiresAt, registry.tunnels.lookup id = some info ∧ info.state = .dangling expiresAt ∧
      info.sessionId = sessionId ∧ info.owner = pubkey ∧ Reports info resumed inspect ∧
      Revived registry after id info connection
  refused : outcome = .unknown ∨ outcome = .identityMismatch → after = registry

theorem reportResumed_reattached (id : TunnelId) (info : TunnelInfo)
    (listening : info.kind.isTcp = true → info.tcpListener.isSome = true) :
    ∃ resumed, reportResumed id info = .reattached id resumed info.inspect ∧
      Reports info resumed info.inspect := by
  unfold reportResumed Reports
  cases kind : info.kind with
  | http => exact ⟨_, rfl, rfl, rfl⟩
  | tcp =>
    obtain ⟨listener, bound⟩ := Option.isSome_iff_exists.mp (listening (by rw [kind]; rfl))
    rw [bound]
    exact ⟨_, rfl, rfl, listener, rfl, rfl⟩

theorem tryResume_sound (listening : AllListening registry)
    (order : List TunnelId) (label : String) (sessionId : SessionId) (pubkey : PubKey)
    (conn : Connection) : ResumeSound registry sessionId pubkey conn
      (registry.tryResume order label sessionId pubkey conn).1
      (registry.tryResume order label sessionId pubkey conn).2 := by
  obtain same | same | ⟨id, info, expiresAt, found, dangling, session, owner, effect⟩ :=
    registry.tryResume_cases order label sessionId pubkey conn
  · rw [same]
    exact ⟨nofun, fun _ => rfl⟩
  · rw [same]
    exact ⟨nofun, fun _ => rfl⟩
  · obtain ⟨resumed, reported, reports⟩ := reportResumed_reattached id info (listening id info found)
    rw [effect, reported]
    refine ⟨?_, by simp⟩
    rintro _ _ _ ⟨⟩
    refine ⟨info, expiresAt, found, dangling, session, owner, reports, ?_, ?_, rfl, rfl, rfl, rfl,
      rfl, rfl⟩
    · exact AList.lookup_insert _
    · exact fun other differs => AList.lookup_insert_ne differs

/-- No event of the run inserts a tunnel under this id. -/
def NotReinserted (id : TunnelId) : Ledger.Event → Prop
  | .insert _ info => info.id ≠ id
  | _ => True

theorem identity_kept {first last : Ledger} {events : List Ledger.Event} {id : TunnelId}
    {old new : TunnelInfo} (ran : run Ledger.step first events = some last)
    (kept : ∀ event ∈ events, NotReinserted id event)
    (found : first.registry.tunnels.lookup id = some old)
    (present : last.registry.tunnels.lookup id = some new) : SameIdentity old new := by
  refine run_meets
    (fun ledger => ∀ new, ledger.registry.tunnels.lookup id = some new → SameIdentity old new) ?_
    ?_ (meets_of_mem _ _ _ (fun event mem _ => kept event mem) _) ran
    new present
  · intro ledger event next same unwritten step new found
    have change := Ledger.step_change step id
    rw [found] at change
    generalize before : ledger.registry.tunnels.lookup id = entry at change
    cases change with
    | keep => exact same new before
    | inserted _ _ _ own => exact absurd own unwritten
    | dangled info => exact same info before
    | resumed info => exact same info before
    | handled info => exact same info before
  · intro new present
    rw [found] at present
    cases present
    exact .refl old

theorem reports_identity {old new : TunnelInfo} (same : SameIdentity old new)
    {resumed : ResumedInfo} {inspect : Bool} (reports : Reports new resumed inspect) :
    Reports old resumed inspect := by
  obtain ⟨-, -, -, kind, listener, -, flag⟩ := same
  unfold Reports at *
  rw [kind, listener, flag] at reports
  exact reports

/-- In every reachable state `try_resume` brings back only a dangling tunnel of exactly this
session and key, reports that tunnel, changes its state alone, and changes nothing when it
refuses; over any history the session, the key and the report are those of the first
registration. -/
theorem resume_sound (pool : PortPool) (first last : Ledger) (events : List Ledger.Event)
    (reached : first.Reachable pool) (finished : run Ledger.step first events = some last)
    (order : List TunnelId) (label : String) (sessionId : SessionId) (pubkey : PubKey)
    (connection : Connection) : ResumeSound last.registry sessionId pubkey connection
      (last.registry.tryResume order label sessionId pubkey connection).1
      (last.registry.tryResume order label sessionId pubkey connection).2 ∧
    ∀ id old resumed inspect, first.registry.tunnels.lookup id = some old →
      (∀ event ∈ events, NotReinserted id event) →
      (last.registry.tryResume order label sessionId pubkey connection).1 =
        .reattached id resumed inspect →
      sessionId = old.sessionId ∧ pubkey = old.owner ∧ Reports old resumed inspect := by
  obtain ⟨now, reached⟩ := reached
  have listening := allListening_reachable ⟨now, reached.extend finished⟩
  have sound := tryResume_sound listening order label sessionId pubkey connection
  refine ⟨sound, fun id old resumed inspect found kept outcome => ?_⟩
  obtain ⟨info, _, present, _, session, owner, reports, _⟩ :=
    sound.reattached id resumed inspect outcome
  have same := identity_kept finished kept found present
  exact ⟨session.symm.trans same.2.2.1, owner.symm.trans same.2.1, reports_identity same reports⟩

private def gina : PubKey := ⟨.replicate 32 7⟩

private def ginaSession : SessionId := ⟨.replicate 16 7⟩

private def ginaListener : TcpListener := ⟨0, 7000⟩

private def ginaTunnel : TunnelInfo where
  id := ⟨1⟩
  owner := gina
  sessionId := ginaSession
  kind := .tcp 7000
  state := .live ⟨0⟩ none
  tcpListener := some ginaListener
  rate := ⟨0⟩
  inspect := true

private def ginaPublishes : List Ledger.Event :=
  [.allocateTcp none, .insert ⟨⟨1⟩, .tcp 7000⟩ ginaTunnel]

/-- Two drops and one resume, then the second drop is resumed as well. -/
private def ginaDrops : List Ledger.Event :=
  [.markDangling gina 60, .tryResume [] "" ginaSession gina ⟨1⟩, .tick 5, .markDangling gina 60]

private def ginaLedger : Ledger := final Ledger.step (.init ⟨7000, 7001⟩ 0) ginaPublishes

private def ginaDropped : Ledger := final Ledger.step ginaLedger ginaDrops

theorem resume_sound_twice : (ginaDropped.registry.tryResume [] "any" ginaSession gina ⟨2⟩).1 =
      .reattached ⟨1⟩ (.tcp 7000 ginaListener) true ∧ Reports ginaTunnel (.tcp 7000 ginaListener) true :=
  have outcome : (ginaDropped.registry.tryResume [] "any" ginaSession gina ⟨2⟩).1 =
      .reattached ⟨1⟩ (.tcp 7000 ginaListener) true := by decide +kernel
  have started : run Ledger.step (.init ⟨7000, 7001⟩ 0) ginaPublishes = some ginaLedger :=
    run_final (by decide +kernel)
  have finished : run Ledger.step ginaLedger ginaDrops = some ginaDropped :=
    run_final (by decide +kernel)
  ⟨outcome, ((resume_sound ⟨7000, 7001⟩ ginaLedger ginaDropped ginaDrops
    ⟨0, ginaPublishes, started⟩ finished [] "any" ginaSession gina ⟨2⟩).2 ⟨1⟩ ginaTunnel _ _
    (by decide +kernel) (by simp [ginaDrops, NotReinserted]) outcome).2.2⟩

end Soundness

section Candidates

/-- The tunnels `try_resume` may settle on, in some order of iteration: the one the label
index names, else any dangling TCP tunnel of the session. -/
def Candidate (registry : TunnelRegistry) (label : String) (sessionId : SessionId)
    (id : TunnelId) : Prop :=
  registry.labels.lookup label = some id ∨
    (registry.labels.lookup label = none ∧ ∃ info, registry.tunnels.lookup id = some info ∧
      info.sessionId = sessionId ∧ info.state.isDangling = true ∧ info.kind.isTcp = true)

variable {registry : TunnelRegistry} {label : String} {sessionId : SessionId} {id : TunnelId}

theorem candidate_of_some {order : List TunnelId}
    (chosen : registry.resumeCandidate order label sessionId = some id) :
    Candidate registry label sessionId id := by
  unfold resumeCandidate at chosen
  cases indexed : registry.labels.lookup label with
  | some =>
    rw [indexed] at chosen
    exact .inl (indexed.trans chosen)
  | none =>
    rw [indexed] at chosen
    have matches_ := find?_some chosen
    refine .inr ⟨indexed, ?_⟩
    cases found : registry.tunnels.lookup id with
    | none => simp [found] at matches_
    | some info =>
      simp only [found, Bool.and_eq_true, beq_iff_eq] at matches_
      exact ⟨info, rfl, matches_.1.1, matches_.1.2, matches_.2⟩

theorem exists_candidate (candidate : Candidate registry label sessionId id) :
    ∃ order, registry.resumeCandidate order label sessionId = some id := by
  obtain indexed | ⟨indexed, info, found, session, dangling, tcp⟩ := candidate
  · exact ⟨[], by rw [resumeCandidate, indexed]⟩
  · -- an iteration that meets this tunnel first
    have mem : id ∈ registry.tunnels.keys := by
      rw [← AList.mem_keys, ← AList.lookup_isSome, found]
      rfl
    have order : HashMap.visitOrder registry.tunnels (id :: registry.tunnels.keys.erase id) =
        id :: registry.tunnels.keys.erase id :=
      if_pos (isPerm_iff.mpr (perm_cons_erase mem).symm)
    refine ⟨id :: registry.tunnels.keys.erase id, ?_⟩
    rw [resumeCandidate, indexed, order]
    exact find?_cons_of_pos (by simp [found, session, dangling, tcp])

theorem candidate_chosen (candidate : Candidate registry label sessionId id)
    (order : List TunnelId) :
    ∃ chosen, registry.resumeCandidate order label sessionId = some chosen := by
  obtain indexed | ⟨indexed, info, found, session, dangling, tcp⟩ := candidate
  · exact ⟨id, by rw [resumeCandidate, indexed]⟩
  · rw [resumeCandidate, indexed]
    refine Option.isSome_iff_exists.mp (find?_isSome.mpr ⟨id, ?_, ?_⟩)
    · rw [HashMap.mem_visitOrder, found]
      rfl
    · simp [found, session, dangling, tcp]

/-- The candidate is granted exactly when it is dangling, of this session and of this key. -/
theorem tryResume_grants (listening : AllListening registry) (conn : Connection)
    (chosen : registry.resumeCandidate order label sessionId = some id)
    (found : registry.tunnels.lookup id = some info) (dangling : info.state.isDangling = true)
    (session : info.sessionId = sessionId) (owner : info.owner = pubkey) :
    ∃ resumed, (registry.tryResume order label sessionId pubkey conn).1 =
      .reattached id resumed info.inspect := by
  obtain ⟨resumed, reported, -⟩ := reportResumed_reattached id info (listening id info found)
  refine ⟨resumed, ?_⟩
  simp only [tryResume, chosen, found, dangling, Bool.not_true, session, owner,
    ne_eq, not_true_eq_false, Bool.false_eq_true, if_false, reported]

theorem tryResume_chosen {order : List TunnelId} {pubkey : PubKey} {conn : Connection}
    {resumed : ResumedInfo} {inspect : Bool}
    (outcome : (registry.tryResume order label sessionId pubkey conn).1 =
      .reattached id resumed inspect) : registry.resumeCandidate order label sessionId = some id ∧
      ∃ info, registry.tunnels.lookup id = some info ∧ info.state.isDangling = true ∧
        info.sessionId = sessionId ∧ info.owner = pubkey := by
  unfold tryResume at outcome
  cases chosen : registry.resumeCandidate order label sessionId with
  | none => simp [chosen] at outcome
  | some candidate =>
    cases found : registry.tunnels.lookup candidate with
    | none => simp [chosen, found] at outcome
    | some info =>
      simp only [chosen, found] at outcome
      split at outcome
      · cases outcome
      · rename_i dangling
        split at outcome
        · cases outcome
        · rename_i session
          split at outcome
          · cases outcome
          · rename_i owner
            have same := reportResumed_id candidate id info resumed inspect outcome
            subst same
            exact ⟨rfl, info, found, by simpa using dangling, by simpa using session,
              by simpa using owner⟩

end Candidates

section Completeness

/-- A `RegisterTunnel` with a `resume_session_id`, and the key it comes from. -/
structure ResumeRequest where
  kind : TunnelKind
  label : String
  sessionId : SessionId
  pubkey : PubKey

/-- The dispatch of such a frame begins with `try_resume`; the kind is not passed on. -/
theorem dispatch_resumes (session : Session) (request : ResumeRequest) (inspect : Bool) :
    ∃ rest, (session.dispatch (.registerTunnel request.label request.kind
      (some request.sessionId) inspect)).run =
        .call (.tryResume request.label request.sessionId session.pubkey session.connection) rest :=
  ⟨_, rfl⟩

def sameKind (asked : TunnelKind) : RegisteredKind → Bool
  | .http _ => asked == .http
  | .tcp _ => asked != .http

/-- A label means something for HTTP only. -/
def sameLabel (label : String) : RegisteredKind → Bool
  | .http own => own == label
  | .tcp _ => true

variable (ledger : Ledger) (request : ResumeRequest)

/-- A dangling tunnel of the requester whose lease runs, of the kind that is asked for. -/
def Wanted (id : TunnelId) : Prop :=
  ∃ info expiresAt, ledger.registry.tunnels.lookup id = some info ∧
    info.state = .dangling expiresAt ∧ ledger.now < expiresAt ∧ info.owner = request.pubkey ∧
    info.sessionId = request.sessionId ∧ sameKind request.kind info.kind = true ∧
    sameLabel request.label info.kind = true

def resumeOutcome (order : List TunnelId) (connection : Connection) : ResumeOutcome :=
  (ledger.registry.tryResume order request.label request.sessionId request.pubkey connection).1

/-- The request gets what it asks for, however the table is iterated. -/
def ResumedAsAsked : Prop :=
  ∀ order connection, (request.kind = .http → ∀ id, Wanted ledger request id → ∃ resumed inspect,
      resumeOutcome ledger request order connection = .reattached id resumed inspect) ∧
    (request.kind ≠ .http → (∃ id, Wanted ledger request id) → ∃ id resumed inspect,
      Wanted ledger request id ∧
        resumeOutcome ledger request order connection = .reattached id resumed inspect) ∧
    ∀ id resumed inspect,
      resumeOutcome ledger request order connection = .reattached id resumed inspect →
      ∃ info, ledger.registry.tunnels.lookup id = some info ∧ sameKind request.kind info.kind = true

/-- The label leads to the right tunnels: an HTTP tunnel that is wanted is in the index, if
a TCP tunnel is wanted then every candidate is, and no candidate of another kind is the
requester's own. -/
structure LeadsRight : Prop where
  http : request.kind = .http → ∀ id, Wanted ledger request id →
    ledger.registry.labels.lookup request.label = some id
  tcp : request.kind ≠ .http → (∃ id, Wanted ledger request id) → ∀ id,
    Candidate ledger.registry request.label request.sessionId id → Wanted ledger request id
  kinds : ∀ id info, Candidate ledger.registry request.label request.sessionId id →
    ledger.registry.tunnels.lookup id = some info → info.state.isDangling = true →
    info.sessionId = request.sessionId → info.owner = request.pubkey →
    sameKind request.kind info.kind = true

variable {ledger request}

theorem Wanted.granted (listening : AllListening ledger.registry) {id : TunnelId}
    (wanted : Wanted ledger request id) {order : List TunnelId} (conn : Connection)
    (chosen : ledger.registry.resumeCandidate order request.label request.sessionId = some id) :
    ∃ resumed inspect,
      resumeOutcome ledger request order conn = .reattached id resumed inspect := by
  obtain ⟨info, expiresAt, found, dangling, -, owner, session, -⟩ := wanted
  obtain ⟨resumed, outcome⟩ := tryResume_grants listening conn
    chosen found (by rw [dangling]; rfl) session owner
  exact ⟨resumed, info.inspect, outcome⟩

/-- A wanted tunnel of TCP kind is a candidate unless the label is in the index. -/
theorem Wanted.candidate {id : TunnelId} (wanted : Wanted ledger request id)
    (tcp : request.kind ≠ .http) (free : ledger.registry.labels.lookup request.label = none) :
    Candidate ledger.registry request.label request.sessionId id := by
  obtain ⟨info, expiresAt, found, dangling, -, -, session, kind, -⟩ := wanted
  refine .inr ⟨free, info, found, session, by rw [dangling]; rfl, ?_⟩
  cases same : info.kind with
  | tcp => rfl
  | http =>
    rw [same, sameKind, beq_iff_eq] at kind
    exact absurd kind tcp

theorem leadsRight_of_resumed (listening : AllListening ledger.registry)
    (resumes : ResumedAsAsked ledger request) : LeadsRight ledger request where
  http := by
    intro http id wanted
    obtain ⟨named, -, kinds⟩ := resumes [] ⟨0⟩
    obtain ⟨resumed, inspect, outcome⟩ := named http id wanted
    obtain ⟨info, found, kind⟩ := kinds id resumed inspect outcome
    obtain indexed | ⟨-, other, present, -, -, tcp⟩ :=
      candidate_of_some (tryResume_chosen outcome).1
    · exact indexed
    · rw [found] at present
      cases present
      cases same : info.kind with
      | http => simp [same, RegisteredKind.isTcp] at tcp
      | tcp => simp [same, sameKind, http] at kind
  tcp := by
    intro tcp wanted id candidate
    obtain ⟨order, chosen⟩ := exists_candidate candidate
    obtain ⟨other, resumed, inspect, given, outcome⟩ := (resumes order ⟨0⟩).2.1 tcp wanted
    have same := chosen.symm.trans (tryResume_chosen outcome).1
    cases same
    exact given
  kinds := by
    intro id info candidate found dangling session owner
    obtain ⟨order, chosen⟩ := exists_candidate candidate
    obtain ⟨resumed, outcome⟩ := tryResume_grants listening ⟨0⟩ chosen found dangling session owner
    obtain ⟨other, present, kind⟩ := (resumes order ⟨0⟩).2.2 id resumed info.inspect outcome
    rw [found] at present
    cases present
    exact kind

theorem resumed_of_leadsRight (listening : AllListening ledger.registry)
    (right : LeadsRight ledger request) : ResumedAsAsked ledger request := by
  intro order conn
  refine ⟨?_, ?_, ?_⟩
  · intro http id wanted
    refine wanted.granted listening conn ?_
    rw [resumeCandidate, right.http http id wanted]
  · rintro tcp ⟨id, wanted⟩
    have some_ : ∃ named, Candidate ledger.registry request.label request.sessionId named := by
      cases indexed : ledger.registry.labels.lookup request.label with
      | some named => exact ⟨named, .inl indexed⟩
      | none => exact ⟨id, wanted.candidate tcp indexed⟩
    obtain ⟨named, candidate⟩ := some_
    obtain ⟨chosen, settled⟩ := candidate_chosen candidate order
    have given := right.tcp tcp ⟨id, wanted⟩ chosen (candidate_of_some settled)
    obtain ⟨resumed, inspect, outcome⟩ := given.granted listening conn settled
    exact ⟨chosen, resumed, inspect, given, outcome⟩
  · intro id resumed inspect outcome
    obtain ⟨settled, info, found, dangling, session, owner⟩ := tryResume_chosen outcome
    exact ⟨info, found,
      right.kinds id info (candidate_of_some settled) found dangling session owner⟩

/-- In every reachable state a resume request gets the tunnel it asks for, whatever the order
of the table, exactly when its label leads to the right tunnels. -/
theorem resumed_as_asked_iff (pool : PortPool) (ledger : Ledger) (reached : ledger.Reachable pool)
    (request : ResumeRequest) : ResumedAsAsked ledger request ↔ LeadsRight ledger request :=
  ⟨leadsRight_of_resumed (allListening_reachable reached),
    resumed_of_leadsRight (allListening_reachable reached)⟩

private def hank : PubKey := ⟨.replicate 32 8⟩

private def hankSite : TunnelInfo where
  id := ⟨2⟩
  owner := hank
  sessionId := ⟨.replicate 16 8⟩
  kind := .http "web"
  state := .live ⟨3⟩ none
  tcpListener := none
  rate := ⟨1⟩
  inspect := false

private def hankPublishes : List Ledger.Event :=
  [.allocateTcp none, .insert ⟨⟨1⟩, .tcp 7000⟩ ginaTunnel, .markDangling gina 60,
    .allocateHttp "web", .insert ⟨⟨2⟩, .http "web"⟩ hankSite]

private def sharedLedger : Ledger := final Ledger.step (.init ⟨7000, 7001⟩ 0) hankPublishes

private def ginaAsks (label : String) : ResumeRequest := ⟨.tcp none, label, ginaSession, gina⟩

theorem resumed_as_asked_iff_free :
    ResumedAsAsked sharedLedger (ginaAsks "db") ↔ LeadsRight sharedLedger (ginaAsks "db") :=
  resumed_as_asked_iff ⟨7000, 7001⟩ sharedLedger
    ⟨0, hankPublishes, run_final (by decide +kernel)⟩ (ginaAsks "db")

/-- The label of a TCP request is another tenant's HTTP label. -/
theorem foreign_label_blocks_resume : ¬ ResumedAsAsked sharedLedger (ginaAsks "web") := by
  intro resumes
  have wanted : Wanted sharedLedger (ginaAsks "web") ⟨1⟩ :=
    ⟨{ ginaTunnel with state := .dangling 60 }, 60, by decide +kernel, rfl, by decide +kernel, rfl,
      rfl, rfl, rfl⟩
  obtain ⟨id, resumed, inspect, -, outcome⟩ := (resumes [] ⟨4⟩).2.1 nofun ⟨⟨1⟩, wanted⟩
  have refused : resumeOutcome sharedLedger (ginaAsks "web") [] ⟨4⟩ = .unknown := by
    decide +kernel
  rw [refused] at outcome
  cases outcome

end Completeness

section Leases

/-- In no state of this run the id is in the table and Live. -/
def StaysDown (dropped : Ledger) (events : List Ledger.Event) (id : TunnelId) : Prop :=
  ∀ earlier later state, events = earlier ++ later → run Ledger.step dropped earlier = some state →
    ∀ info, state.registry.tunnels.lookup id = some info → info.state.isDangling = true

/-- Along the run from `start` the tunnel was Live, became Dangling by the events' last
`mark_dangling` that found it so, with `grace` from then on, and was not Live again. -/
structure Dropped (start : Ledger) (events : List Ledger.Event) (id : TunnelId)
    (expiresAt : Instant) : Prop where
  history : ∃ before after state next info connection abort grace,
    events = before ++ .markDangling info.owner grace :: after ∧
    run Ledger.step start before = some state ∧
    state.registry.tunnels.lookup id = some info ∧ info.state = .live connection abort ∧
    state.step (.markDangling info.owner grace) = some next ∧ StaysDown next after id ∧
    expiresAt = state.now + grace

theorem dropped_entry {state next : Ledger} {id : TunnelId} {info : TunnelInfo}
    {conn : Connection} {abort : Option AbortHandle} {grace : Duration}
    (found : state.registry.tunnels.lookup id = some info) (live : info.state = .live conn abort)
    (step : state.step (.markDangling info.owner grace) = some next) :
    next.registry.tunnels.lookup id = some { info with state := .dangling (state.now + grace) } := by
  cases step
  rw [TunnelRegistry.lookup_markDangling, found]
  simp [dangled, live, TunnelState.isDangling]

/-- While it is not Live, a tunnel keeps its deadline or leaves the table. -/
theorem staysDown_deadline {dropped last : Ledger} {events : List Ledger.Event} {id : TunnelId}
    {expiresAt : Instant} (ran : run Ledger.step dropped events = some last)
    (down : StaysDown dropped events id)
    (start : ∀ info, dropped.registry.tunnels.lookup id = some info →
      info.state = .dangling expiresAt) :
    ∀ info, last.registry.tunnels.lookup id = some info → info.state = .dangling expiresAt := by
  induction events generalizing dropped with
  | nil =>
    cases ran
    exact start
  | cons event rest ih =>
    obtain ⟨next, step, ran⟩ := (run_cons _ _ _ _ _).mp ran
    have later : StaysDown next rest id := by
      rintro earlier later state rfl reached
      exact down (event :: earlier) later state rfl ((run_cons _ _ _ _ _).mpr ⟨next, step, reached⟩)
    refine ih ran later ?_
    intro info found
    have dangling := later [] rest next rfl rfl info found
    have change := Ledger.step_change step id
    rw [found] at change
    generalize before : dropped.registry.tunnels.lookup id = entry at change
    cases change with
    | keep => exact start info before
    | inserted _ _ _ _ fits => simp [fits_live fits] at dangling
    | dangled old _ _ _ live =>
      have was := start old before
      rw [live] at was
      cases was
    | resumed | handled => cases dangling

theorem StaysDown.snoc {dropped last : Ledger} {events : List Ledger.Event} {event : Ledger.Event}
    {id : TunnelId} (down : StaysDown dropped events id)
    (ran : run Ledger.step dropped (events ++ [event]) = some last)
    (still : ∀ info, last.registry.tunnels.lookup id = some info → info.state.isDangling = true) :
    StaysDown dropped (events ++ [event]) id := by
  intro front back state same arrived
  induction back using List.reverseRecOn with
  | nil =>
    rw [append_nil] at same
    rw [same, arrived] at ran
    cases ran
    exact still
  | append_singleton back =>
    rw [← append_assoc] at same
    exact down front back state (append_inj_left' same rfl) arrived

/-- A dangling tunnel of the table was dropped, and its deadline is that drop's. -/
theorem dropped_of_dangling {pool : PortPool} {start : Instant}
    {last : Ledger} {id : TunnelId} {info : TunnelInfo} {expiresAt : Instant}
    (ran : run Ledger.step (.init pool start) events = some last)
    (found : last.registry.tunnels.lookup id = some info)
    (dangling : info.state = .dangling expiresAt) :
    Dropped (.init pool start) events id expiresAt := by
  -- on the last event: it drops the tunnel, or the tunnel was down before it already
  induction events using List.reverseRecOn generalizing last info with
  | nil =>
    cases ran
    cases found
  | append_singleton events event ih =>
    obtain ⟨state, reached, step⟩ := (run_append _ _ _ _ _).mp ran
    rw [run_single] at step
    have change := Ledger.step_change step id
    rw [found] at change
    generalize before : state.registry.tunnels.lookup id = entry at change
    cases change with
    | keep =>
      obtain ⟨earlier, after, first, next, old, conn, abort, grace, rfl, begun, present,
        live, drop_, down, deadline⟩ := (ih reached before dangling).history
      have rest : run Ledger.step next (after ++ [event]) = some last := by
        obtain ⟨middle, again, rest⟩ := (run_append _ _ _ _ _).mp (by simpa using ran)
        rw [begun] at again
        cases again
        obtain ⟨dropped, step, rest⟩ := (run_cons _ _ _ _ _).mp rest
        rw [drop_] at step
        cases step
        exact rest
      refine ⟨earlier, after ++ [event], first, next, old, conn, abort, grace, by simp,
        begun, present, live, drop_, down.snoc rest ?_, deadline⟩
      intro entry stored
      rw [found] at stored
      cases stored
      rw [dangling]
      rfl
    | inserted _ _ _ _ fits =>
      have up := fits_live fits
      rw [dangling] at up
      cases up
    | dangled old conn abort grace live =>
      cases dangling
      refine ⟨events, [], state, last, old, conn, abort, grace, rfl, reached, before, live,
        step, ?_, rfl⟩
      intro front back visited same arrived entry stored
      obtain ⟨rfl, rfl⟩ := append_eq_nil_iff.mp same.symm
      cases arrived
      rw [found] at stored
      cases stored
      rfl
    | resumed | handled => cases dangling

variable (pool : PortPool) (start : Instant) (events : List Ledger.Event) (last : Ledger)
  (label : String) (sessionId : SessionId) (pubkey : PubKey)

/-- No resume request brings a tunnel back at or after the end of the grace it was dropped with. -/
def LeasesEnforced : Prop :=
  ∀ order connection id resumed inspect expiresAt,
    (last.registry.tryResume order label sessionId pubkey connection).1 =
      .reattached id resumed inspect →
    Dropped (.init pool start) events id expiresAt → last.now < expiresAt

/-- Whatever the request could be given is not due for the reaper. -/
def NoneOverdue : Prop :=
  ∀ id info, Candidate last.registry label sessionId id →
    last.registry.tunnels.lookup id = some info → info.sessionId = sessionId →
    info.owner = pubkey → expired last.now info = false

/-- After every run a request is refused an expired lease, for any order of the table, exactly
when the reaper has already removed every expired lease the request could be given. -/
theorem lease_expiry_iff (finished : run Ledger.step (.init pool start) events = some last) :
    LeasesEnforced pool start events last label sessionId pubkey ↔
      NoneOverdue last label sessionId pubkey := by
  have listening := @allListening_reachable pool last ⟨start, events, finished⟩
  constructor
  · intro enforced id info candidate found session owner
    cases state : info.state with
    | live => simp [expired, state]
    | dangling expiresAt =>
      obtain ⟨order, chosen⟩ := exists_candidate candidate
      obtain ⟨resumed, outcome⟩ := tryResume_grants listening ⟨0⟩ chosen found
        (by rw [state]; rfl) session owner
      have early := enforced order ⟨0⟩ id resumed info.inspect expiresAt outcome
        (dropped_of_dangling finished found state)
      simpa [expired, state] using early
  · intro current order connection id resumed inspect expiresAt outcome dropped
    obtain ⟨chosen, info, found, dangling, session, owner⟩ := tryResume_chosen outcome
    obtain ⟨before, after, state, next, old, attached, abort, grace, rfl, reached, present, live,
      drop_, down, rfl⟩ := dropped.history
    obtain ⟨middle, again, rest⟩ := (run_append _ _ _ _ _).mp finished
    rw [reached] at again
    cases again
    obtain ⟨dropped_, stepped, finished⟩ := (run_cons _ _ _ _ _).mp rest
    rw [drop_] at stepped
    cases stepped
    have entry := dropped_entry present live drop_
    have deadline := staysDown_deadline finished down (fun info stored => by
      rw [entry] at stored
      cases stored
      rfl) info found
    have due := current id info (candidate_of_some chosen) found session owner
    simpa [expired, deadline] using due

private def ginaLeaves (rest : List Ledger.Event) : List Ledger.Event :=
  [.allocateTcp none, .insert ⟨⟨1⟩, .tcp 7000⟩ ginaTunnel, .markDangling gina 60, .tick 60] ++ rest

private def afterLease (rest : List Ledger.Event) : Ledger :=
  final Ledger.step (.init ⟨7000, 7001⟩ 0) (ginaLeaves rest)

theorem lease_expiry_iff_reaped :
    LeasesEnforced ⟨7000, 7001⟩ 0 (ginaLeaves [.reapExpired]) (afterLease [.reapExpired]) ""
      ginaSession gina := by
  refine (lease_expiry_iff ⟨7000, 7001⟩ 0 (ginaLeaves [.reapExpired]) (afterLease [.reapExpired])
    "" ginaSession gina (run_final (by decide +kernel))).mpr ?_
  intro id info _ found
  have empty : (afterLease [.reapExpired]).registry.tunnels.entries = [] := by decide +kernel
  rw [← Option.mem_def, AList.mem_lookup_iff, empty] at found
  cases found

/-- The grace is over, the reaper has not run yet, and the tunnel comes back. -/
theorem overdue_lease_resumed :
    ¬ LeasesEnforced ⟨7000, 7001⟩ 0 (ginaLeaves []) (afterLease []) "" ginaSession gina := by
  intro enforced
  have finished : run Ledger.step (.init ⟨7000, 7001⟩ 0) (ginaLeaves []) = some (afterLease []) :=
    run_final (by decide +kernel)
  have found : (afterLease []).registry.tunnels.lookup ⟨1⟩ =
      some { ginaTunnel with state := .dangling 60 } := by decide +kernel
  have outcome : ((afterLease []).registry.tryResume [] "" ginaSession gina ⟨1⟩).1 =
      .reattached ⟨1⟩ (.tcp 7000 ginaListener) true := by decide +kernel
  have early := enforced [] ⟨1⟩ ⟨1⟩ _ _ 60 outcome (dropped_of_dangling finished found rfl)
  have late : ¬ (afterLease []).now < (60 : Instant) := by decide +kernel
  exact late early

end Leases

end KrotRelay.Guarantees
