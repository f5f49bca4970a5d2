import KrotRelay.Lib.Trace
import KrotRelay.Source.PeerList
import KrotRelay.Guarantees.CollisionCheck

/-!
Which peers an identity is shown and which are asked about its labels. Both are the rows of
the list of peers that its `federation=` names, each once and in the order of the file. The
lookup is an arbitrary function of peer and label, everything else the relay may be told is
left to an arbitrary world.
-/
namespace KrotRelay.Guarantees
open Source Lib List

/-- The lines of the file that name a peer. -/
def peerRows (text : List Char) : List String :=
  (((lines text).map trim).filter fun row => !row.isEmpty && row.head? != some '#').map
    String.ofList

/-- The rows that satisfy a condition, each where it first occurs. -/
structure FirstRows (rows : List String) (wanted : String → Prop) (peers : List String) : Prop where
  members : ∀ apex, apex ∈ peers ↔ apex ∈ rows ∧ wanted apex
  ordered : peers.Pairwise fun earlier later => rows.idxOf earlier < rows.idxOf later

theorem FirstRows.nodup {rows peers : List String} {wanted : String → Prop}
    (first : FirstRows rows wanted peers) : peers.Nodup := by
  refine first.ordered.imp ?_
  intro earlier later before same
  rw [same] at before
  exact Nat.lt_irrefl _ before

theorem FirstRows.filter {rows peers : List String} (first : FirstRows rows (fun _ => True) peers)
    (allowed : List String) : FirstRows rows (· ∈ allowed)
      (peers.filter fun apex => allowed.any fun name => name == apex) where
  members := by
    intro apex
    rw [mem_filter, first.members, and_true, any_beq']
    simp
  ordered := first.ordered.filter _

/-- Reading one more row keeps the peers found the first rows. -/
theorem FirstRows.read {rows out : List String} (first : FirstRows rows (fun _ => True) out)
    (row : String) : FirstRows (rows ++ [row]) (fun _ => True)
      (if !out.any fun existing => existing == row then out ++ [row] else out) := by
  have known : ∀ apex, apex ∈ out ↔ apex ∈ rows := by
    intro apex
    rw [first.members, and_true]
  have kept : out.Pairwise fun earlier later =>
      (rows ++ [row]).idxOf earlier < (rows ++ [row]).idxOf later := by
    refine first.ordered.imp_of_mem ?_
    intro earlier later left right before
    rw [idxOf_append_of_mem ((known _).mp left), idxOf_append_of_mem ((known _).mp right)]
    exact before
  by_cases mem : row ∈ out
  · have found : (out.any fun existing => existing == row) = true := by simpa using mem
    rw [found]
    refine ⟨fun apex => ?_, kept⟩
    have repeated : row ∈ rows := (known row).mp mem
    simp only [Bool.not_true, Bool.false_eq_true, if_false, known, mem_append,
      mem_singleton, and_true]
    constructor
    · exact .inl
    · rintro (earlier | rfl)
      · exact earlier
      · exact repeated
  · have absent : (out.any fun existing => existing == row) = false :=
      Bool.eq_false_iff.mpr fun found => mem (by simpa using found)
    rw [absent]
    refine ⟨fun apex => by simp [known], ?_⟩
    refine pairwise_append.mpr ⟨kept, pairwise_singleton _ _, ?_⟩
    intro earlier left later last
    rw [mem_singleton.mp last, idxOf_append_of_mem ((known _).mp left),
      idxOf_append_of_notMem fun repeated => mem ((known row).mpr repeated)]
    exact Nat.lt_add_right _ (idxOf_lt_length_of_mem ((known _).mp left))

theorem parsePeerLines_first {done out : List String} (first : FirstRows done (fun _ => True) out)
    (rest : List (List Char)) : FirstRows
      (done ++ ((rest.map trim).filter fun row => !row.isEmpty && row.head? != some '#').map
        String.ofList)
      (fun _ => True) (parsePeerLines out rest) := by
  induction rest generalizing done out with
  | nil => simpa [parsePeerLines] using first
  | cons line rest ih =>
    have test : (!(trim line).isEmpty && (trim line).head? != some '#') = !skipped (trim line) := by
      simp [skipped, bne]
    simp only [parsePeerLines, map_cons, filter_cons, test]
    cases skipped (trim line) with
    | true => exact ih first
    | false =>
      simp only [Bool.not_false, if_true, Bool.false_eq_true, if_false, map_cons]
      rw [append_cons, ← apply_ite fun out => parsePeerLines out rest]
      exact ih (first.read (String.ofList (trim line)))

/-- A call, and what comes after its reply. -/
theorem outcome_ask {α : Type} (world : World relayInterface)
    (past : List (Answered relayInterface)) (call : Call) (after : call.Reply → Relay α) :
    (ask call >>= after).run.outcome world past =
      (after (world past call)).run.outcome world (past ++ [⟨call, world past call⟩]) := rfl

theorem parsePeers_first (text : List Char) :
    FirstRows (peerRows text) (fun _ => True) (parsePeers text) := by
  have start : FirstRows [] (fun _ => True) [] := ⟨by simp, List.Pairwise.nil⟩
  exact parsePeerLines_first start (lines text)

theorem authorizedPeers_first (session : Session) (text : List Char) :
    FirstRows (peerRows text) (· ∈ session.entry.federation)
      (session.authorizedPeers (parsePeers text)) :=
  (parsePeers_first text).filter session.entry.federation

section Runs
variable (text : List Char) (lookup : String → String → PeerLookupOutcome)
  (elsewhere : World relayInterface)

/-- The list of peers is the one in the file, the owners are the lookup's answers. -/
def peerWorld : World relayInterface := fun past call =>
  match call with
  | .peersSnapshot => parsePeers text
  | .findOwner peer label => lookup peer label
  | other => elsewhere past other

/-- The peers asked for an owner and the labels they were asked about, in order. -/
def asked (log : List (Answered relayInterface)) : List (String × String) :=
  log.filterMap fun answered =>
    match answered.call with
    | .findOwner peer label => some (peer, label)
    | _ => none

/-- The peers up to the first that conflicts, and that one. -/
def consulted (conflicts : String → Bool) (peers : List String) : List String :=
  (peers.takeWhile fun peer => !conflicts peer) ++ (peers.find? conflicts).toList

/-- What the check should come to. -/
def verdictOf (conflicts agrees : String → Bool) (matched peers : List String) : CollisionCheck :=
  match peers.find? conflicts with
  | some first => .conflict first
  | none => .clear (matched ++ peers.filter agrees)

variable (label : String) (pubkey : PubKey)

def conflicts (peer : String) : Bool := isConflict pubkey (lookup peer label)

def agrees (peer : String) : Bool := lookup peer label == .found pubkey

/-- The query of a peer. -/
def query (peer : String) : Answered relayInterface := ⟨.findOwner peer label, lookup peer label⟩

theorem outcome_query {α : Type} (past : List (Answered relayInterface)) (peer : String)
    (after : PeerLookupOutcome → Relay α) :
    (ask (.findOwner peer label) >>= after).run.outcome (peerWorld text lookup elsewhere) past =
      (after (lookup peer label)).run.outcome (peerWorld text lookup elsewhere)
        (past ++ [query lookup label peer]) := rfl

theorem outcome_snapshot {α : Type} (past : List (Answered relayInterface))
    (after : List String → Relay α) :
    (ask .peersSnapshot >>= after).run.outcome (peerWorld text lookup elsewhere) past =
      (after (parsePeers text)).run.outcome (peerWorld text lookup elsewhere)
        (past ++ [⟨Call.peersSnapshot, parsePeers text⟩]) := rfl

theorem checkCollisionFrom_outcome (past : List (Answered relayInterface))
    (matched peers : List String) :
    (checkCollisionFrom label pubkey matched peers).run.outcome (peerWorld text lookup elsewhere)
        past =
      (past ++ (consulted (conflicts lookup label pubkey) peers).map (query lookup label),
        .ok (verdictOf (conflicts lookup label pubkey) (agrees lookup label pubkey) matched
          peers)) := by
  induction peers generalizing past matched with
  | nil =>
    simp only [consulted, verdictOf, takeWhile_nil, find?_nil, Option.toList_none,
      append_nil, map_nil, filter_nil]
    rfl
  | cons peer rest ih =>
    have passed : conflicts lookup label pubkey peer = false →
        past ++ (consulted (conflicts lookup label pubkey) (peer :: rest)).map
            (query lookup label) =
          past ++ [query lookup label peer] ++
            (consulted (conflicts lookup label pubkey) rest).map (query lookup label) := by
      intro passes
      simp [consulted, passes]
    rw [checkCollisionFrom, outcome_query]
    cases answer : lookup peer label with
    | notFound | unavailable =>
      have passes : conflicts lookup label pubkey peer = false := by
        simp only [conflicts, answer, isConflict]
      have silent : agrees lookup label pubkey peer = false := by
        simp [agrees, answer]
      rw [passed passes]
      simp only [ih, verdictOf, find?_cons, passes, filter_cons, silent,
        Bool.false_eq_true, if_false]
    | found owner =>
      by_cases same : owner = pubkey
      · have passes : conflicts lookup label pubkey peer = false := by
          simp [conflicts, answer, isConflict, same]
        have named : agrees lookup label pubkey peer = true := by
          simp [agrees, answer, same]
        rw [passed passes]
        simp only [same, if_true, ih, verdictOf, find?_cons, passes, filter_cons, named,
          append_assoc, singleton_append]
      · have stops : conflicts lookup label pubkey peer = true := by
          simpa [conflicts, answer, isConflict] using same
        simp only [same, if_false, consulted, verdictOf, find?_cons, takeWhile_cons, stops,
          Bool.not_true, Bool.false_eq_true, nil_append, Option.toList_some, map_singleton]
        rfl

theorem checkCollision_outcome (past : List (Answered relayInterface)) (peers : List String) :
    (checkCollision peers label pubkey).run.outcome (peerWorld text lookup elsewhere) past =
      (past ++ (consulted (conflicts lookup label pubkey) peers).map (query lookup label),
        .ok (verdictOf (conflicts lookup label pubkey) (agrees lookup label pubkey) [] peers)) :=
  checkCollisionFrom_outcome text lookup elsewhere label pubkey past [] peers

theorem asked_append (first second : List (Answered relayInterface)) :
    asked (first ++ second) = asked first ++ asked second :=
  filterMap_append

theorem asked_queries (peers : List String) :
    asked (peers.map (query lookup label)) = peers.map fun peer => (peer, label) := by
  unfold asked
  rw [filterMap_map]
  exact congrFun filterMap_eq_map' peers

variable (world : World relayInterface) (past : List (Answered relayInterface))

theorem asked_write (frame : ServerFrame) :
    asked ((writeFrame frame).run.outcome world past).1 = asked past := by
  have kept : ∀ reply, asked (past ++ [⟨.writeFrame frame, reply⟩]) = asked past := by
    intro reply
    rw [asked_append]
    exact append_nil _
  unfold writeFrame
  rw [outcome_ask]
  rcases world past (.writeFrame frame) with problem | ⟨⟩
  · exact kept (.error problem)
  · exact kept (.ok ())

theorem calls_write (frame : ServerFrame) :
    ((writeFrame frame).run.outcome world past).1.map (·.call) =
      past.map (·.call) ++ [.writeFrame frame] := by
  have written : ∀ reply, List.map Answered.call (past ++ [⟨Call.writeFrame frame, reply⟩]) =
      past.map Answered.call ++ [.writeFrame frame] := by
    intro reply
    rw [map_append, map_singleton]
  unfold writeFrame
  rw [outcome_ask]
  rcases world past (.writeFrame frame) with problem | ⟨⟩
  · exact written (.error problem)
  · exact written (.ok ())

theorem asked_claimLabel (session : Session) (apex : String) (inspect : Bool) :
    asked ((session.claimLabel apex label inspect).run.outcome world past).1 = asked past := by
  unfold Session.claimLabel
  rw [outcome_ask]
  have kept : ∀ reply, asked (past ++ [⟨.allocateHttp label, reply⟩]) = asked past := by
    intro reply
    rw [asked_append]
    exact append_nil _
  rcases world past (.allocateHttp label) with problem | tunnelId
  · exact (asked_write _ _ _).trans (kept (.error problem))
  · refine (asked_write _ _ _).trans ?_
    rw [asked_append, kept (.ok tunnelId)]
    exact append_nil _

variable (session : Session) (inspect : Bool)

/-- The label is one the identity may ask for on this relay. -/
def mayAsk : Bool :=
  match session.mode with
  | .ip _ => false
  | .domain _ => isValidLabel label && (session.entry.allowAnySubdomain ||
      session.entry.allowedSubdomains.any fun allowed => allowed == label)

theorem asked_registerHttp :
    asked ((session.registerHttp label inspect).run.outcome (peerWorld text lookup elsewhere)
        []).1 =
      if mayAsk label session then
        (consulted (conflicts lookup label session.pubkey)
          (session.authorizedPeers (parsePeers text))).map fun peer => (peer, label)
      else [] := by
  unfold Session.registerHttp mayAsk
  cases session.mode with
  | ip => exact asked_write _ _ _
  | domain apex =>
    cases isValidLabel label with
    | false => exact asked_write _ _ _
    | true =>
      cases permitted : session.entry.allowAnySubdomain ||
          session.entry.allowedSubdomains.any fun allowed => allowed == label with
      | false =>
        rw [← Bool.not_or, permitted]
        exact asked_write _ _ _
      | true =>
        simp only [Bool.not_true, Bool.false_eq_true, if_false, ← Bool.not_or, permitted,
          Bool.and_self, if_true]
        rw [outcome_snapshot]
        cases session.authorizedPeers (parsePeers text) with
        | nil => exact asked_claimLabel _ _ _ _ _ _
        | cons peer rest =>
          have checked := checkCollision_outcome text lookup elsewhere label session.pubkey
            [⟨Call.peersSnapshot, parsePeers text⟩] (peer :: rest)
          have queries : asked ([⟨Call.peersSnapshot, parsePeers text⟩] ++
              (consulted (conflicts lookup label session.pubkey) (peer :: rest)).map
                (query lookup label)) =
              (consulted (conflicts lookup label session.pubkey) (peer :: rest)).map
                fun peer => (peer, label) := by
            rw [asked_append, asked_queries]
            rfl
          rw [isEmpty_cons, if_neg Bool.false_ne_true, nil_append, outcome_bind_ok _ _ checked]
          refine Eq.trans ?_ queries
          cases verdictOf (conflicts lookup label session.pubkey)
              (agrees lookup label session.pubkey) [] (peer :: rest) with
          | conflict => exact asked_write _ _ _
          | clear => exact asked_claimLabel _ _ _ _ _ _

end Runs

/-- The verdict on a list of peers, read off the answers. -/
structure Judges (conflicts agrees : String → Bool) (peers : List String)
    (verdict : CollisionCheck) : Prop where
  /-- the first peer that names a different identity is the one reported -/
  conflict : ∀ first, verdict = .conflict first ↔ peers.find? conflicts = some first
  clear : ∀ matched, verdict = .clear matched ↔
    (∀ peer ∈ peers, conflicts peer = false) ∧ matched = peers.filter agrees

theorem verdictOf_judges (conflicts agrees : String → Bool) (peers : List String) :
    Judges conflicts agrees peers (verdictOf conflicts agrees [] peers) := by
  unfold verdictOf
  cases found : peers.find? conflicts with
  | none =>
    have clear : ∀ peer ∈ peers, conflicts peer = false := by
      simpa using found
    refine ⟨fun first => by simp [found], fun matched => ?_⟩
    rw [nil_append, CollisionCheck.clear.injEq]
    constructor
    · intro same
      exact ⟨clear, same.symm⟩
    · intro listed
      exact listed.2.symm
  | some first =>
    refine ⟨fun named => by simp [found], fun matched => ?_⟩
    constructor
    · rintro ⟨⟩
    · intro listed
      have conflicting := find?_some found
      rw [listed.1 first (mem_of_find?_eq_some found)] at conflicting
      cases conflicting

/-- Peers that gave no answer to go by make no difference. -/
theorem verdictOf_filter (lookup : String → String → PeerLookupOutcome) (label : String)
    (pubkey : PubKey) (answered : String → Bool) (peers : List String)
    (silent : ∀ peer, answered peer = false →
      lookup peer label = .notFound ∨ lookup peer label = .unavailable) :
    verdictOf (conflicts lookup label pubkey) (agrees lookup label pubkey) []
        (peers.filter answered) =
      verdictOf (conflicts lookup label pubkey) (agrees lookup label pubkey) [] peers := by
  have conflicting : ∀ peer, (answered peer && conflicts lookup label pubkey peer) =
      conflicts lookup label pubkey peer := by
    intro peer
    cases kept : answered peer with
    | true => rfl
    | false => rcases silent peer kept with none | none <;> simp [conflicts, none, isConflict]
  have agreeing : ∀ peer, (agrees lookup label pubkey peer && answered peer) =
      agrees lookup label pubkey peer := by
    intro peer
    cases kept : answered peer with
    | true => exact Bool.and_true _
    | false => rcases silent peer kept with none | none <;> simp [agrees, none]
  unfold verdictOf
  simp only [find?_filter, Bool.decide_and, Bool.decide_eq_true, filter_filter,
    conflicting, agreeing]

/-- Whatever file, `federation=` list, label and lookup: one list of peers is sent for `ListPeers`
and consulted by `register_http`, and the check of that list asks as far as the first conflict
and comes to the verdict its answers call for. -/
theorem peers_and_verdict (text : List Char) (session : Session) (label : String) (inspect : Bool)
    (lookup : String → String → PeerLookupOutcome) (elsewhere : World relayInterface) :
    ∃ peers, FirstRows (peerRows text) (· ∈ session.entry.federation) peers ∧ peers.Nodup ∧
      ((session.dispatch .listPeers).run.outcome (peerWorld text lookup elsewhere) []).1.map
          (·.call) = [.peersSnapshot, .writeFrame (.peers peers)] ∧
      asked ((session.registerHttp label inspect).run.outcome (peerWorld text lookup elsewhere)
          []).1 =
        (if mayAsk label session then
          (consulted (conflicts lookup label session.pubkey) peers).map fun peer => (peer, label)
        else []) ∧
      ∃ log verdict, (checkCollision peers label session.pubkey).run.outcome
          (peerWorld text lookup elsewhere) [] = (log, .ok verdict) ∧
        log.map (·.call) = (consulted (conflicts lookup label session.pubkey) peers).map
          (fun peer => .findOwner peer label) ∧
        Judges (conflicts lookup label session.pubkey) (agrees lookup label session.pubkey) peers
          verdict ∧
        ∀ answered : String → Bool, (∀ peer, answered peer = false →
            lookup peer label = .notFound ∨ lookup peer label = .unavailable) →
          ((checkCollision (peers.filter answered) label session.pubkey).run.outcome
            (peerWorld text lookup elsewhere) []).2 = .ok verdict := by
  have first := authorizedPeers_first session text
  refine ⟨session.authorizedPeers (parsePeers text), first, first.nodup, ?_,
    asked_registerHttp text lookup elsewhere label session inspect, _, _,
    checkCollision_outcome text lookup elsewhere label session.pubkey [] _, ?_,
    verdictOf_judges _ _ _, ?_⟩
  · unfold Session.dispatch
    rw [outcome_snapshot, outcome_pure, calls_write]
    rfl
  · rw [nil_append, map_map]
    rfl
  · intro answered silent
    rw [checkCollision_outcome, verdictOf_filter lookup label session.pubkey answered _ silent]

end KrotRelay.Guarantees
