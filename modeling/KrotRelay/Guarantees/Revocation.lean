import KrotRelay.Guarantees.HandshakeDiscipline
import KrotRelay.Guarantees.Attachment

/-!
# Authorization of running sessions

A session keeps the entry its handshake read. It is told of a change through the
revocation channel, which it joins only after the client's round trip and which
forgets what a slow receiver has not read. Between the two a change goes unnoticed:
`Careful` names the events at which one can be lost. Without such an event every
running session holds the authorization now in force, or has been told, or will be.
-/
namespace KrotRelay.Guarantees
open Source Lib List Server
open Server (afterHandshake afterDispatch setTask)
open RevocationWatcher (pending oldest)
open Function (update update_self update_of_ne)

variable {next middle server : Server} {connection : Connection} {polled : RevocationWatcher}
  {reload : Nat}

/-- The session of a task that is in `Session::run`. -/
def runningSession? : Task → Option Session
  | .running session => some session
  | .dispatching session _ _ => some session
  | _ => none

/-- The task has read the key index at most once and has not subscribed yet. -/
def beforeSubscribe : Task → Bool
  | .handshaking _ => true
  | .authenticated _ => true
  | _ => false

/-- Every running session is current, or has its watch set, or has its own key among
the messages its receiver will still be given. -/
def Authorized (server : Server) : Prop :=
  ∀ connection session, runningSession? (server.tasks connection) = some session →
    Current server.keys session.pubkey session.entry ∨
    server.isRevoked connection = true ∨
    ∃ watcher, server.watchers connection = some watcher ∧
      session.pubkey ∈ watcher.pending server.keys

/-- No `reload` is between its replacement of the index and its last send. -/
def NoReloadUnderWay (server : Server) : Prop :=
  ∀ sending ∈ server.announcing, sending = []

/-- No handshake that still has to subscribe holds an outdated entry of this key. -/
def NoneOutdated (server : Server) (pubkey : PubKey) : Prop :=
  ∀ connection entry, beforeSubscribe (server.tasks connection) = true →
    server.fetched connection = some (pubkey, entry) → Current server.keys pubkey entry

/-- The message the next send pushes out of the channel is nobody's unread own key. -/
def NoneOverrun (server : Server) : Prop :=
  ∀ connection watcher, server.watchers connection = some watcher → watcher.revoked = false →
    watcher.next + revocationCapacity ≤ server.keys.revocation.length →
    server.keys.revocation[server.keys.revocation.length - revocationCapacity]? ≠
      some watcher.target

/-- The enrollment about to be stored does not change an authorization that exists. -/
def ChangesNothing (server : Server) (connection : Connection) (choice : Choice) : Prop :=
  ∀ line rest stored pubkey entry,
    server.tasks connection = .handshaking (.call (.appendLine line) rest) →
    choice.appended = .ok (stored, pubkey, entry) →
    ∀ old, server.keys.get pubkey = some old → old.authorizationEqual entry = true

/-- No change of an authorization is lost at this event. -/
def Careful (server : Server) : Event → Prop
  | .announce reload =>
    ∀ pubkey rest, server.announcing[reload]? = some (pubkey :: rest) →
      NoneOutdated server pubkey ∧ NoneOverrun server
  | .call connection choice => ChangesNothing server connection choice
  | _ => True

/-- A reload under way will still announce the key. -/
def Announced (server : Server) (pubkey : PubKey) : Prop :=
  ∃ sending ∈ server.announcing, pubkey ∈ sending

def Safe (server : Server) (pubkey : PubKey) (entry : AuthorizedEntry) : Prop :=
  Current server.keys pubkey entry ∨ Announced server pubkey

def Told (keys : KeyRegistry) (watcher : RevocationWatcher) : Prop :=
  watcher.revoked = true ∨ watcher.target ∈ watcher.pending keys

/-- What is known of one connection at every point of its life. -/
structure Covered (server : Server) (connection : Connection) : Prop where
  greeting : ∀ program, server.tasks connection = .handshaking program →
    ∃ stage, Follows handshakeDiscipline Vouched stage program ∧
      ∀ pubkey entry, stage = .fetched pubkey entry →
        server.fetched connection = some (pubkey, entry) ∧ Safe server pubkey entry
  admitted : ∀ ok, server.tasks connection = .authenticated ok →
    server.fetched connection = some (ok.pubkey, ok.entry) ∧ Safe server ok.pubkey ok.entry
  watched : ∀ session, runningSession? (server.tasks connection) = some session →
    ∃ watcher, server.watchers connection = some watcher ∧ watcher.target = session.pubkey ∧
      watcher.next ≤ server.keys.revocation.length ∧
      (Safe server session.pubkey session.entry ∨ Told server.keys watcher)

section Channel
variable {keys : KeyRegistry} {watcher : RevocationWatcher}

theorem mem_pending (pubkey : PubKey) : pubkey ∈ watcher.pending keys ↔
      ∃ position, watcher.oldest keys ≤ position ∧ keys.revocation[position]? = some pubkey := by
  rw [pending, mem_iff_getElem?]
  simp only [getElem?_drop]
  constructor
  · rintro ⟨offset, found⟩
    exact ⟨_, Nat.le_add_right _ _, found⟩
  · rintro ⟨position, bound, found⟩
    refine ⟨position - watcher.oldest keys, ?_⟩
    rwa [Nat.add_sub_cancel' bound]

/-- A receiver is given what is sent after it subscribed. -/
theorem told_send (inside : watcher.next ≤ keys.revocation.length) :
    Told (keys.send watcher.target) watcher := by
  refine .inr ((mem_pending _).mpr ⟨keys.revocation.length, ?_, ?_⟩)
  · simp only [oldest, KeyRegistry.send, length_append, length_cons, length_nil, revocationCapacity]
    omega
  · simp [KeyRegistry.send]

/-- A send that does not overrun the receiver takes nothing from it. -/
theorem told_send_of_told (pubkey : PubKey) (told : Told keys watcher)
    (spared : watcher.revoked = false → watcher.next + revocationCapacity ≤ keys.revocation.length →
      keys.revocation[keys.revocation.length - revocationCapacity]? ≠ some watcher.target) :
    Told (keys.send pubkey) watcher := by
  cases revoked : watcher.revoked with
  | true => exact .inl revoked
  | false =>
    rcases told with set | unread
    · rw [revoked] at set
      cases set
    · obtain ⟨position, bound, found⟩ := (mem_pending _).mp unread
      have inside : position < keys.revocation.length := (List.getElem?_eq_some_iff.mp found).1
      refine .inr ((mem_pending _).mpr ⟨position, ?_, ?_⟩)
      · by_contra pushed
        simp only [oldest, KeyRegistry.send, length_append,
          length_cons, length_nil, revocationCapacity] at bound pushed spared
        have last : position = keys.revocation.length - 256 := by omega
        rw [last] at found
        exact spared revoked (by omega) found
      · simp only [KeyRegistry.send]
        rw [getElem?_append_left inside, found]

/-- Reading the channel loses nothing: a message is skipped only after the channel has
dropped it, and the own key sets the watch. -/
theorem told_poll (read : watcher.poll keys = some polled) (told : Told keys watcher) :
    Told keys polled := by
  unfold RevocationWatcher.poll at read
  split at read
  · cases read
  · rename_i unset
    have unread := told.resolve_left unset
    obtain ⟨position, bound, found⟩ := (mem_pending _).mp unread
    split at read
    · rename_i lagged
      obtain rfl := Option.some.inj read
      refine .inr ((mem_pending _).mpr ⟨position, ?_, found⟩)
      simp only [oldest] at bound ⊢
      omega
    · rename_i caught
      split at read
      · cases read
      · rename_i pubkey first
        split at read
        · cases read
          exact .inl rfl
        · rename_i other
          cases read
          have later : position ≠ watcher.next := by
            rintro rfl
            rw [found] at first
            exact other (Option.some.inj first).symm
          refine .inr ((mem_pending _).mpr ⟨position, ?_, found⟩)
          simp only [oldest] at bound ⊢
          omega

theorem poll_frame (read : watcher.poll keys = some polled) :
    polled.target = watcher.target ∧ polled.next ≤ keys.revocation.length := by
  unfold RevocationWatcher.poll at read
  split at read
  · cases read
  · split at read
    · obtain rfl := Option.some.inj read
      exact ⟨rfl, Nat.sub_le _ _⟩
    · split at read
      · cases read
      · rename_i pubkey first
        have bound := (List.getElem?_eq_some_iff.mp first).1
        split at read <;> cases read <;> exact ⟨rfl, bound⟩

end Channel

section Index
variable {server : Server} {pubkey : PubKey} {entry : AuthorizedEntry}

/-- Whatever a reload takes away from a key it goes on to announce. -/
theorem safe_reload (step : server.step (.reload updated removedOrder modifiedOrder) = some next)
    (safe : Safe server pubkey entry) : Safe next pubkey entry := by
  cases step
  rcases safe with current | ⟨sending, mem, mine⟩
  · rcases reload_current updated removedOrder modifiedOrder current with kept | sent
    · exact .inl kept
    · exact .inr ⟨_, mem_append_right _ mem_cons_self, sent⟩
  · exact .inr ⟨sending, mem_append_left _ mem, mine⟩

/-- A key that was to be announced is, after one send, still to be announced or the
one that was sent. -/
theorem announced_send {sent : PubKey} {rest : List PubKey}
    (sending : server.announcing[reload]? = some (sent :: rest))
    (announcing : next.announcing = server.announcing.set reload rest)
    (announced : Announced server pubkey) : pubkey = sent ∨ Announced next pubkey := by
  obtain ⟨list, mem, mine⟩ := announced
  obtain ⟨position, inside, here⟩ := mem_iff_getElem.mp mem
  rw [Announced, announcing]
  by_cases same : position = reload
  · subst same
    have : list = sent :: rest := by
      rw [getElem?_eq_getElem inside, here] at sending
      exact Option.some.inj sending
    rw [this, mem_cons] at mine
    rcases mine with first | later
    · exact .inl first
    · exact .inr ⟨rest, mem_set inside rest, later⟩
  · refine .inr ⟨list, ?_, mine⟩
    rw [mem_iff_getElem]
    exact ⟨position, by rw [length_set]; exact inside,
      by rw [getElem_set_ne (Ne.symm same)]; exact here⟩

end Index

namespace Covered

variable {server next : Server} {connection : Connection} (covered : Covered server connection)
include covered

/-- The connection's own fields stay, and what is safe stays safe. -/
theorem keep (tasks : next.tasks connection = server.tasks connection)
    (watchers : next.watchers connection = server.watchers connection)
    (fetched : next.fetched connection = server.fetched connection)
    (chan : next.keys.revocation = server.keys.revocation)
    (safe : ∀ pubkey entry, Safe server pubkey entry → Safe next pubkey entry) :
    Covered next connection := by
  refine ⟨?_, ?_, ?_⟩
  · intro prog task
    obtain ⟨stage, follows, read⟩ := covered.greeting prog (tasks ▸ task)
    refine ⟨stage, follows, fun pubkey entry at_ => ?_⟩
    obtain ⟨recorded, held⟩ := read pubkey entry at_
    exact ⟨fetched.trans recorded, safe _ _ held⟩
  · intro ok task
    obtain ⟨recorded, held⟩ := covered.admitted ok (tasks ▸ task)
    exact ⟨fetched.trans recorded, safe _ _ held⟩
  · intro session running
    obtain ⟨watcher, present, target, inside, held⟩ := covered.watched session (tasks ▸ running)
    refine ⟨watcher, watchers.trans present, target, by rw [chan]; exact inside, ?_⟩
    rcases held with held | told
    · exact .inl (safe _ _ held)
    · refine .inr ?_
      rwa [Told, pending, oldest, chan]

/-- A send reaches every receiver it does not overrun; who is not a receiver yet holds
an entry that is current. -/
theorem announce (step : server.step (.announce reload) = some next)
    (careful : Careful server (.announce reload)) : Covered next connection := by
  simp only [Server.step] at step
  split at step
  · rename_i sent rest sending
    cases step
    obtain ⟨outdated, overrun⟩ := careful sent rest sending
    have moved : ∀ pubkey, Announced server pubkey → pubkey = sent ∨ Announced { server with
          keys := server.keys.send sent
          announcing := server.announcing.set reload rest } pubkey :=
      fun pubkey => announced_send sending rfl
    refine ⟨?_, ?_, ?_⟩
    · intro prog task
      obtain ⟨stage, follows, read⟩ := covered.greeting prog task
      refine ⟨stage, follows, fun pubkey entry at_ => ?_⟩
      obtain ⟨recorded, held⟩ := read pubkey entry at_
      refine ⟨recorded, ?_⟩
      rcases held with current | announced
      · exact .inl current
      · rcases moved pubkey announced with rfl | still
        · exact .inl (outdated connection entry
            (by rw [show server.tasks connection = _ from task]; rfl) recorded)
        · exact .inr still
    · intro ok task
      obtain ⟨recorded, held⟩ := covered.admitted ok task
      refine ⟨recorded, ?_⟩
      rcases held with current | announced
      · exact .inl current
      · rcases moved ok.pubkey announced with same | still
        · rw [same] at recorded ⊢
          exact .inl (outdated connection ok.entry
            (by rw [show server.tasks connection = _ from task]; rfl) recorded)
        · exact .inr still
    · intro session running
      obtain ⟨watcher, present, target, inside, held⟩ := covered.watched session running
      have spared := overrun connection watcher present
      refine ⟨watcher, present, target, ?_, ?_⟩
      · simp only [KeyRegistry.send, length_append]
        omega
      · rcases held with (current | announced) | told
        · exact .inl (.inl current)
        · rcases moved session.pubkey announced with same | still
          · rw [← target] at same
            exact .inr (same ▸ told_send inside)
          · exact .inl (.inr still)
        · exact .inr (told_send_of_told sent told spared)
  · cases step

theorem poll (polled : Connection) (step : server.step (.poll polled) = some next) :
    Covered next connection := by
  simp only [Server.step] at step
  split at step
  · cases step
  · rename_i watcher present
    obtain ⟨after, read, rfl⟩ := Option.map_eq_some_iff.mp step
    by_cases here : polled = connection
    · subst here
      refine ⟨covered.greeting, covered.admitted, ?_⟩
      intro session running
      obtain ⟨found, known, target, inside, held⟩ := covered.watched session running
      rw [present] at known
      cases known
      obtain ⟨sameTarget, inside⟩ := poll_frame read
      refine ⟨after, update_self .., sameTarget.trans target, inside, ?_⟩
      rcases held with held | told
      · exact .inl held
      · exact .inr (told_poll read told)
    · exact covered.keep rfl (update_of_ne (Ne.symm here) ..) rfl rfl fun _ _ held => held

end Covered

/-- A connection whose task is neither in a handshake nor in a session. -/
theorem covered_idle (outside : beforeSubscribe (server.tasks connection) = false)
    (stopped : runningSession? (server.tasks connection) = none) : Covered server connection := by
  refine ⟨?_, ?_, ?_⟩
  · intro prog task
    rw [task] at outside
    cases outside
  · intro ok task
    rw [task] at outside
    cases outside
  · intro session running
    rw [stopped] at running
    cases running

theorem covered_afterHandshake {prog : Prog relayInterface (Except ServerError HandshakeOutcome)}
    {stage : HandshakeStage} (task : server.tasks connection = afterHandshake prog)
    (follows : Follows handshakeDiscipline Vouched stage prog)
    (read : ∀ pubkey entry, stage = .fetched pubkey entry →
      server.fetched connection = some (pubkey, entry) ∧ Safe server pubkey entry) :
    Covered server connection := by
  refine ⟨?_, ?_, ?_⟩
  · intro body still
    rw [task] at still
    cases afterHandshake_handshaking still
    exact ⟨stage, follows, read⟩
  · intro ok done
    rw [task] at done
    rw [afterHandshake_authenticated done] at follows
    exact read _ _ (follows ok rfl)
  · intro session running
    rw [task] at running
    have outside := afterHandshake_session? prog
    revert running outside
    cases afterHandshake prog <;> simp [runningSession?, Task.session?]

/-- A session's calls have nothing to do with the key index. -/
theorem answer_index {choice : Choice} {session : Session} {frame : ClientFrame} {stage : Stage}
    {call : Call} {reply : call.Reply} (allowed : allowedCall session frame stage call)
    (answered : server.answer conn choice call = some (reply, middle)) :
    middle.keys = server.keys ∧ middle.announcing = server.announcing ∧
      middle.watchers = server.watchers ∧ middle.fetched = server.fetched := by
  cases answer_cases answered with
  | fetched | appended => exact allowed.elim
  | _ => exact ⟨rfl, rfl, rfl, rfl⟩

section Steps
variable {server : Server} (all : ∀ connection, Covered server connection)
include all

/-- One task moves; whatever was safe stays safe; nothing else changes for the others. -/
theorem covered_moved (conn : Connection)
    (tasks : ∀ other, other ≠ conn → next.tasks other = server.tasks other)
    (watchers : ∀ other, other ≠ conn → next.watchers other = server.watchers other)
    (fetched : ∀ other, other ≠ conn → next.fetched other = server.fetched other)
    (chan : next.keys.revocation = server.keys.revocation)
    (safe : ∀ pubkey entry, Safe server pubkey entry → Safe next pubkey entry)
    (here : Covered next conn) (other : Connection) : Covered next other := by
  by_cases same : other = conn
  · rw [same]
    exact here
  · exact (all other).keep (tasks other same) (watchers other same) (fetched other same) chan safe

/-- A handshake makes its next call. -/
theorem covered_greeted (task : server.tasks conn = .handshaking (.call request rest))
    (answered : server.answer conn choice request = some (reply, middle))
    (careful : ChangesNothing server conn choice) (other : Connection) :
    Covered (middle.setTask conn (afterHandshake (rest reply))) other := by
  obtain ⟨stage, ⟨allowed, goesOn⟩, read⟩ := (all conn).greeting _ task
  have follows := goesOn reply trivial
  have update : ∀ {middle : Server} (other : Connection), middle.tasks = server.tasks →
      other ≠ conn →
      (middle.setTask conn (afterHandshake (rest reply))).tasks other =
        server.tasks other := by
    intro middle other same differs
    rw [setTask_tasks, update_of_ne differs, same]
  -- calls that read nothing from the index
  have plain : ∀ middle : Server, middle.tasks = server.tasks →
      middle.watchers = server.watchers → middle.fetched = server.fetched →
      middle.keys.revocation = server.keys.revocation →
      (∀ pubkey entry, Safe server pubkey entry → Safe middle pubkey entry) →
      handshakeNext stage request reply = stage →
      Covered (middle.setTask conn (afterHandshake (rest reply))) other := by
    intro middle tasks watchers fetched chan safe still
    refine covered_moved all conn (fun other => update other tasks)
      (fun other _ => congrFun watchers other) (fun other _ => congrFun fetched other) chan safe
      (covered_afterHandshake (update_self ..) follows ?_) other
    intro pubkey entry at_
    obtain ⟨recorded, held⟩ := read pubkey entry (still.symm.trans at_)
    exact ⟨(congrFun fetched conn).trans recorded, safe pubkey entry held⟩
  cases answer_cases answered with
  | fetched pubkey =>
    refine covered_moved all conn ?_ ?_ ?_ ?_ ?_ ?_ other
    · exact fun other => update other rfl
    · exact fun _ _ => rfl
    · exact fun other differs => update_of_ne differs _ server.fetched
    · rfl
    · exact fun _ _ held => held
    refine covered_afterHandshake (update_self ..) follows ?_
    intro named entry at_
    cases found : server.keys.get pubkey with
    | none =>
      rw [found] at at_
      rw [show stage = .fresh from allowed] at at_
      cases at_
    | some =>
      rw [found] at at_
      cases at_
      exact ⟨update_self .., .inl ⟨entry, found, authorizationEqual_refl entry⟩⟩
  | appended line stored pubkey entry parsed =>
    refine plain _ rfl rfl rfl rfl ?_ rfl
    intro asked held safe
    rcases safe with current | announced
    · exact .inl (current_append pubkey entry (careful line _ stored pubkey entry task parsed)
        current)
    · exact .inr announced
  | question _ _ asks =>
    refine plain _ rfl rfl rfl rfl (fun _ _ held => held) ?_
    cases request <;> first | rfl | cases asks
  | unparsed | written | unwritten => exact plain _ rfl rfl rfl rfl (fun _ _ held => held) rfl
  | _ => exact allowed.elim

/-- A dispatch begins, goes on or returns: the session stays the same. -/
theorem covered_dispatch (frame : ClientFrame)
    (program : Prog relayInterface (Except ServerError DispatchOutcome))
    (running : runningSession? (server.tasks conn) = some session)
    (tasks : middle.tasks = server.tasks) (keys : middle.keys = server.keys)
    (announcing : middle.announcing = server.announcing)
    (watchers : middle.watchers = server.watchers) (fetched : middle.fetched = server.fetched)
    (other : Connection) :
    Covered (middle.setTask conn (afterDispatch session frame program)) other := by
  have safe : ∀ pubkey entry, Safe server pubkey entry →
      Safe (middle.setTask conn (afterDispatch session frame program)) pubkey entry := by
    intro pubkey entry held
    simpa [Safe, Announced, setTask, keys, announcing] using held
  refine covered_moved all conn ?_ ?_ ?_ ?_ safe ?_ other
  · intro other differs
    rw [setTask_tasks, update_of_ne differs, tasks]
  · exact fun other _ => congrFun watchers other
  · exact fun other _ => congrFun fetched other
  · exact congrArg KeyRegistry.revocation keys
  · have task : (middle.setTask conn (afterDispatch session frame program)).tasks
        conn = afterDispatch session frame program := update_self ..
    have shape : ∀ task, task = afterDispatch session frame program → beforeSubscribe task = false ∧
          ∀ found, runningSession? task = some found → found = session := by
      rintro task rfl
      unfold afterDispatch
      split <;> exact ⟨rfl, fun found here => by cases here <;> rfl⟩
    obtain ⟨outside, same⟩ := shape _ task
    refine ⟨?_, ?_, ?_⟩
    · intro body impossible
      rw [impossible] at outside
      cases outside
    · intro ok impossible
      rw [impossible] at outside
      cases outside
    · intro found here
      rw [same found here]
      obtain ⟨watcher, present, target, inside, held⟩ := (all conn).watched session running
      refine ⟨watcher, (congrFun watchers conn).trans present, target, ?_, ?_⟩
      · simpa [setTask, keys] using inside
      · rcases held with held | told
        · exact .inl (safe _ _ held)
        · exact .inr (by simpa [setTask, keys] using told)

theorem covered_subscribe
    (step : server.step (.subscribe conn) = some next) (other : Connection) :
    Covered next other := by
  simp only [Server.step] at step
  split at step
  · rename_i ok task
    cases step
    obtain ⟨rate, tasks, _⟩ := server.startSession_tasks conn ok
    obtain ⟨keys, announcing, fetched, watchers⟩ := server.startSession_index conn ok
    have safe : ∀ pubkey entry, Safe server pubkey entry →
        Safe (server.startSession conn ok) pubkey entry := by
      intro pubkey entry held
      simpa [Safe, Announced, keys, announcing] using held
    refine covered_moved all conn ?_ ?_ (fun _ _ => by rw [fetched]) (by rw [keys]) safe ?_ other
    · intro other differs
      rw [tasks, update_of_ne differs]
    · intro other differs
      rw [watchers, update_of_ne differs]
    · obtain ⟨_, held⟩ := (all conn).admitted ok task
      refine ⟨?_, ?_, ?_⟩
      · intro body impossible
        rw [tasks, update_self] at impossible
        cases impossible
      · intro granted impossible
        rw [tasks, update_self] at impossible
        cases impossible
      · intro session running
        rw [tasks, update_self] at running
        cases running
        refine ⟨.spawn server.keys ok.pubkey, by rw [watchers, update_self], rfl, ?_,
          .inl (safe _ _ held)⟩
        rw [keys]
        exact Nat.le_refl _
  · cases step

theorem covered_step (attached : Attached server)
    (step : server.step event = some next) (careful : Careful server event)
    (other : Connection) : Covered next other := by
  have still : ∀ {middle : Server}, middle.tasks = server.tasks →
      middle.watchers = server.watchers → middle.fetched = server.fetched →
      middle.keys = server.keys → middle.announcing = server.announcing →
      Covered middle other := by
    intro middle tasks watchers fetched keys announcing
    refine (all other).keep (congrFun tasks other) (congrFun watchers other)
      (congrFun fetched other) (congrArg _ keys) fun pubkey entry held => ?_
    simpa [Safe, Announced, keys, announcing] using held
  have stop : ∀ {middle : Server} (conn : Connection) (task : Task),
      middle.tasks = server.tasks → middle.watchers = server.watchers →
      middle.fetched = server.fetched → middle.keys = server.keys →
      middle.announcing = server.announcing → beforeSubscribe task = false →
      runningSession? task = none → Covered (middle.setTask conn task) other := by
    intro middle conn task tasks watchers fetched keys announcing outside stopped
    by_cases same : other = conn
    · subst same
      refine covered_idle ?_ ?_ <;> rw [setTask_tasks, update_self]
      · exact outside
      · exact stopped
    · refine (all other).keep ?_ (congrFun watchers other) (congrFun fetched other)
        (congrArg _ keys) fun pubkey entry held => ?_
      · rw [setTask_tasks, update_of_ne same, tasks]
      · simpa [Safe, Announced, setTask, keys, announcing] using held
  cases step_cases step with
  | ticked | reaped | shutDown | peersSet => exact still rfl rfl rfl rfl rfl
  | accepted conn =>
    refine covered_moved all conn ?_ ?_ ?_ ?_ ?_ ?_ other
    · exact fun other differs => update_of_ne differs _ server.tasks
    · exact fun _ _ => rfl
    · exact fun _ _ => rfl
    · rfl
    · exact fun _ _ held => held
    · refine covered_afterHandshake (update_self ..) (perform_follows _) ?_
      intro pubkey entry impossible
      cases impossible
  | greeted conn choice request rest reply _ task answered =>
    exact covered_greeted all task answered careful other
  | dispatched conn _ session frame _ rest reply _ task answered =>
    obtain ⟨stage, allowed, _⟩ := attached.dispatch conn session frame _ task
    obtain ⟨keys, announcing, watchers, fetched⟩ := answer_index allowed answered
    exact covered_dispatch all frame (rest reply) (by rw [task]; rfl)
      (answer_frame answered).1 keys announcing watchers fetched other
  | timedOut conn | dropped conn | cleaned conn =>
    exact stop conn _ rfl rfl rfl rfl rfl rfl rfl
  | started conn => exact covered_subscribe all step other
  | begun conn frame session task =>
    exact covered_dispatch all frame _ (by rw [task]; rfl) rfl rfl rfl rfl rfl other
  | sawShutdown conn written | sawRevoked conn written =>
    cases written <;> exact stop conn _ rfl rfl rfl rfl rfl rfl rfl
  | polled conn => exact (all other).poll conn step
  | reloaded updated removedOrder modifiedOrder =>
    exact (all other).keep rfl rfl rfl rfl fun _ _ =>
      safe_reload step
  | announced => exact (all other).announce step careful

end Steps

/-- No session outlives its authorization, in any run without one of the events that
lose a change. -/
theorem session_authorized (config : Config) (pool : PortPool)
    (entries : HashMap PubKey AuthorizedEntry) (peers : List String) (now : Instant)
    (events : List Event) (server : Server)
    (finished : run Server.step (Server.init config pool entries peers now) events = some server)
    (careful : Meets Server.step Careful (Server.init config pool entries peers now) events)
    (settled : NoReloadUnderWay server) : Authorized server := by
  have start : ∀ connection, Covered (Server.init config pool entries peers now) connection :=
    fun connection => covered_idle rfl rfl
  obtain ⟨_, covered⟩ := run_meets
    (fun state => Attached state ∧ ∀ connection, Covered state connection)
    (fun state event next ⟨attached, all⟩ careful stepped =>
      ⟨attached.step next event stepped, covered_step all attached stepped careful⟩)
    ⟨attached_init config pool entries peers now, start⟩ careful finished
  intro connection session running
  obtain ⟨watcher, present, target, _, held⟩ := (covered connection).watched session running
  rcases held with (current | ⟨sending, member, mine⟩) | (revoked | unread)
  · exact .inl current
  · rw [settled sending member] at mine
    cases mine
  · refine .inr (.inl ?_)
    rw [Server.isRevoked, present]
    exact revoked
  · exact .inr (.inr ⟨watcher, present, target ▸ unread⟩)

section Example

private def onlyErin : HashMap PubKey AuthorizedEntry := AList.insert erin anyHttp ∅

/-- A key is taken out of the file while its session runs. -/
private def removedLater : List Event :=
  signIn ⟨0⟩ dave ⟨.replicate 16 1⟩ ++ [.reload onlyErin [] []]

private theorem removedLater_careful :
    Meets Server.step Careful smallRelay (removedLater ++ [.announce 0]) := by
  rw [meets_append]
  refine ⟨?_, ?_⟩
  · have plain : ∀ event ∈ removedLater, ∀ state, Careful state event := by
      simp only [removedLater, signIn, cons_append, nil_append, forall_mem_cons, Careful,
        ChangesNothing, reduceCtorEq, IsEmpty.forall_iff, implies_true, and_self, not_mem_nil]
    exact meets_of_mem _ _ _ plain _
  · intro server reached
    refine ⟨?_, fun _ _ => trivial⟩
    intro pubkey rest _
    refine ⟨?_, ?_⟩
    · intro connection entry waiting _
      by_cases here : connection = ⟨0⟩
      · subst here
        have running : (run Server.step smallRelay removedLater).map
            (fun state => beforeSubscribe (state.tasks ⟨0⟩)) = some false := rfl
        rw [reached] at running
        have outside : beforeSubscribe (server.tasks ⟨0⟩) = false := Option.some.inj running
        rw [outside] at waiting
        cases waiting
      · have alone : ∀ event ∈ removedLater, event.connection? ≠ some connection := by
          have owners : ∀ event ∈ removedLater, event.connection?.all (· == ⟨0⟩) = true := by decide
          intro event mem same
          have owner := owners event mem
          rw [same] at owner
          exact here (by simpa using owner)
        rw [run_tasks_other _ _ _ reached connection alone] at waiting
        cases waiting
    · intro connection watcher _ _ full
      have nothing : (run Server.step smallRelay removedLater).map
          (fun state => state.keys.revocation.length) = some 0 := rfl
      rw [reached] at nothing
      have empty : server.keys.revocation.length = 0 := Option.some.inj nothing
      simp only [revocationCapacity] at full
      omega

theorem session_authorized_removed :
    (final Server.step smallRelay (removedLater ++ [.announce 0])).keys.get dave = none ∧
    Authorized (final Server.step smallRelay (removedLater ++ [.announce 0])) :=
  ⟨rfl, session_authorized domainConfig ⟨7000, 7001⟩ twoKeys [] 0 _ _ (run_final rfl)
    removedLater_careful (by intro sending member; cases member with
      | head => rfl
      | tail _ impossible => cases impossible)⟩

/-- The same removal while the client is still answering the challenge. -/
private def removedDuringHandshake : List Event :=
  (signIn ⟨0⟩ dave ⟨.replicate 16 1⟩).take 6 ++ [.reload onlyErin [] [], .announce 0] ++
    (signIn ⟨0⟩ dave ⟨.replicate 16 1⟩).drop 6

theorem removal_during_handshake_missed :
    let server := final Server.step smallRelay removedDuringHandshake
    run Server.step smallRelay removedDuringHandshake = some server ∧
    server.announcing = [[]] ∧
    (∃ session, server.tasks ⟨0⟩ = .running session ∧ session.pubkey = dave) ∧
    server.keys.get dave = none ∧ server.isRevoked ⟨0⟩ = false ∧
    ∃ watcher, server.watchers ⟨0⟩ = some watcher ∧ watcher.pending server.keys = [] :=
  ⟨run_final rfl, rfl, ⟨_, rfl, rfl⟩, rfl, rfl, _, rfl, rfl⟩

end Example

end KrotRelay.Guarantees
