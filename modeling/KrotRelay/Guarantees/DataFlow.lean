import KrotRelay.Lib.Run
import KrotRelay.Source.DataPath

/-!
# What a step of a public connection can do

One constructor for each effect, with what is known when it happens. Every statement about
the bytes of a connection is proved against these.
-/
namespace KrotRelay.Guarantees
open Source Lib
open DataConn (afterRequest afterHelloHeader recordLen afterHelloBody headRead afterSetup deliver preludeFrame opened)

variable {dir : Direction} {n space : Nat} {phase : ConnPhase} {tunnelId : TunnelId}
  {after : List UInt8 → ConnPhase} {domain : Domain} {eof : String} {event : ConnEvent}
  {flow next : Flow} {chunk : List UInt8} {http : Option HttpMetadata} {inspect : Bool}

/-- A step of one shovel other than its charge, with the bytes it writes. -/
inductive FlowMove : Flow → Flow → List UInt8 → Prop where
  | wait (flow timed) (idle : flow.stage = .starting ∨ ∃ before, flow.stage = .reading before) :
      FlowMove flow { flow with stage := .reading timed } []
  | eof (flow timed) (waiting : flow.stage = .reading timed) (drained : flow.source = []) :
      FlowMove flow { flow with stage := .closing (.ok flow.total) } []
  | take (flow timed n) (waiting : flow.stage = .reading timed)
      (some_ : 0 < n) (room : n ≤ shovelBuffer) (enough : n ≤ flow.source.length) :
      FlowMove flow
        { flow with source := flow.source.drop n, stage := .throttling (flow.source.take n) } []
  | write (flow size n rest) (held : flow.stage = .writing size rest)
      (some_ : 0 < n) (enough : n ≤ rest.length) :
      FlowMove flow { flow with
          relayed := flow.relayed ++ rest.take n
          stage := if n = rest.length then .reading false else .writing size (rest.drop n)
          total := if n = rest.length then flow.total + size else flow.total }
        (rest.take n)
  | close (flow total) (shut : flow.stage = .closing (.ok total)) :
      FlowMove flow { flow with stage := .finished } []

theorem read_move (step : flow.read n = some next) : FlowMove flow next [] := by
  unfold Flow.read at step
  split at step
  · rename_i timed waiting
    split at step
    · split at step
      · rename_i drained
        cases step
        exact .eof flow timed waiting (List.isEmpty_iff.mp drained)
      · cases step
    · split at step
      · rename_i nonzero fits
        cases step
        exact .take flow timed n waiting (Nat.pos_of_ne_zero nonzero) fits.1 fits.2
      · cases step
  · cases step

theorem write_move {bytes : List UInt8} (step : flow.write n = some (bytes, next)) :
    FlowMove flow next bytes := by
  unfold Flow.write at step
  split at step
  · rename_i size rest held
    split at step
    · rename_i fits
      have move := FlowMove.write flow size n rest held fits.1 fits.2
      dsimp only at step
      split at step
      · rename_i whole
        cases step
        rw [if_pos whole, if_pos whole] at move
        exact move
      · rename_i part
        cases step
        rw [if_neg part, if_neg part] at move
        exact move
    · cases step
  · cases step

/-- A router gives the connection up. -/
inductive Stopped : ConnPhase → Prop where
  | replying (rest) : Stopped (.replying rest)
  | unrouted : Stopped (.ended .unrouted)
  | failed (detail) : Stopped (.ended (.failed detail))

/-- It has found the tunnel. -/
inductive OpensWith (buf : List UInt8) : ConnPhase → Prop where
  | opening (tunnelId : TunnelId) (inspect : Bool) (http) :
      OpensWith buf (.opening .dataHttp tunnelId inspect http (some buf))

section Heads
variable (domain : Domain) (buf : List UInt8)

theorem afterRequest_cases : afterRequest domain buf = .request buf ∨
      OpensWith buf (afterRequest domain buf) ∨
      Stopped (afterRequest domain buf) := by
  unfold afterRequest
  split
  · dsimp only
    split
    · split <;> exact .inr (.inr (.replying _))
    · split
      · exact .inr (.inr (.replying _))
      · split
        · exact .inr (.inr (.replying _))
        · exact .inr (.inl (.opening _ _ _))
  · split
    · exact .inr (.inr (.failed _))
    · exact .inl rfl
  · exact .inr (.inr (.failed _))

theorem afterHelloHeader_cases : buf.length < 5 ∧ afterHelloHeader buf = .helloHeader buf ∨
    5 ≤ buf.length ∧ 0 < recordLen buf ∧ afterHelloHeader buf = .helloBody buf (5 + recordLen buf) ∨
    Stopped (afterHelloHeader buf) := by
  unfold afterHelloHeader
  split
  · rename_i short
    exact .inl ⟨short, rfl⟩
  · rename_i enough
    split
    · exact .inr (.inr (.failed _))
    · split
      · exact .inr (.inr (.failed _))
      · rename_i lengthOk
        exact .inr (.inl ⟨by omega, by omega, rfl⟩)

theorem afterHelloBody_cases (needed : Nat) :
    buf.length < needed ∧ afterHelloBody domain buf needed = .helloBody buf needed ∨
    needed ≤ buf.length ∧ (OpensWith buf (afterHelloBody domain buf needed) ∨
        afterHelloBody domain buf needed = .ended (.dispatched buf)) ∨
    Stopped (afterHelloBody domain buf needed) := by
  unfold afterHelloBody
  split
  · rename_i short
    exact .inl ⟨short, rfl⟩
  · rename_i enough
    have enough := Nat.le_of_not_lt enough
    split
    · exact .inr (.inr (.failed _))
    · split
      · exact .inr (.inl ⟨enough, .inr rfl⟩)
      · split
        · exact .inr (.inr .unrouted)
        · split
          · exact .inr (.inr .unrouted)
          · exact .inr (.inl ⟨enough, .inl (.opening _ _ _)⟩)

end Heads

def isRouting : ConnPhase → Bool
  | .request _ | .helloHeader _ | .helloBody _ _ => true
  | _ => false

/-- A router goes on with one more chunk. -/
inductive RouterMove (chunk : List UInt8) : ConnPhase → ConnPhase → Prop where
  | moreRequest (buf) : RouterMove chunk (.request buf) (.request (buf ++ chunk))
  | openRequest (buf) (next) (opens : OpensWith (buf ++ chunk) next) :
      RouterMove chunk (.request buf) next
  | moreHeader (buf) (short : (buf ++ chunk).length < 5) :
      RouterMove chunk (.helloHeader buf) (.helloHeader (buf ++ chunk))
  | header (buf) (fits : chunk.length ≤ 5 - buf.length)
      (enough : 5 ≤ (buf ++ chunk).length) (some_ : 0 < recordLen (buf ++ chunk)) :
      RouterMove chunk (.helloHeader buf) (.helloBody (buf ++ chunk) (5 + recordLen (buf ++ chunk)))
  | moreBody (buf needed) (short : (buf ++ chunk).length < needed) :
      RouterMove chunk (.helloBody buf needed) (.helloBody (buf ++ chunk) needed)
  | openHello (buf) (needed : Nat) (next)
      (fits : chunk.length ≤ needed - buf.length) (enough : needed ≤ (buf ++ chunk).length)
      (opens : OpensWith (buf ++ chunk) next) : RouterMove chunk (.helloBody buf needed) next
  | dispatch (buf needed) (fits : chunk.length ≤ needed - buf.length)
      (enough : needed ≤ (buf ++ chunk).length) :
      RouterMove chunk (.helloBody buf needed) (.ended (.dispatched (buf ++ chunk)))
  | stop (phase next : ConnPhase) (reads : isRouting phase = true) (stopped : Stopped next) :
      RouterMove chunk phase next

theorem RouterMove.routing {next : ConnPhase} (move : RouterMove chunk phase next) :
    isRouting phase = true := by
  cases move with
  | stop _ _ routing => exact routing
  | _ => rfl

theorem headRead_routing (reads : headRead domain phase = some (space, eof, after)) :
    isRouting phase = true := by
  cases phase <;> first | rfl | cases reads

theorem headRead_move (reads : headRead domain phase = some (space, eof, after))
    (fits : chunk.length ≤ space) : RouterMove chunk phase (after chunk) := by
  cases phase with
  | request buf =>
    cases reads
    dsimp only
    obtain same | opens | stopped := afterRequest_cases domain (buf ++ chunk)
    · rw [same]
      exact .moreRequest buf
    · exact .openRequest buf _ opens
    · exact .stop _ _ rfl stopped
  | helloHeader buf =>
    cases reads
    dsimp only
    obtain ⟨short, same⟩ | ⟨enough, some_, same⟩ | stopped := afterHelloHeader_cases (buf ++ chunk)
    · rw [same]
      exact .moreHeader buf short
    · rw [same]
      exact .header buf fits enough some_
    · exact .stop _ _ rfl stopped
  | helloBody buf needed =>
    cases reads
    dsimp only
    obtain ⟨short, same⟩ | ⟨enough, opens | same⟩ | stopped :=
      afterHelloBody_cases domain (buf ++ chunk) needed
    · rw [same]
      exact .moreBody buf needed short
    · exact .openHello buf needed _ fits enough opens
    · rw [same]
      exact .dispatch buf needed fits enough
    · exact .stop _ _ rfl stopped
  | _ => cases reads

/-- The task is not over. -/
def isLive : ConnPhase → Bool
  | .ended _ => false
  | _ => true

/-- A step of the whole connection. -/
inductive ConnMove (domain : Domain) : DataConn → ConnEvent → DataConn → Prop where
  | head (conn) (n : Nat) (phase) (routed : RouterMove (conn.up.source.take n) conn.phase phase) :
      ConnMove domain conn (.read .toClient n)
        { conn with up := { conn.up with source := conn.up.source.drop n }, phase }
  | fail (conn event detail)
      (live : isLive conn.phase = true) : ConnMove domain conn event (conn.fail detail)
  | opened (conn kind tunnelId inspect http buffered unixSecs frame) (waiting : conn.phase = .opening kind tunnelId inspect http buffered)
      (framed : frame = [] ∨
        ∃ prelude size, domain.prelude.encodeFrame prelude [] = (.ok size, frame)) :
      ConnMove domain conn (.opened unixSecs) { conn with
          phase := afterSetup (⟨false, (DataHeader.mk kind tunnelId).toBytes⟩ :: ⟨false, frame⟩ ::
              buffered.toList.map fun head => SetupPart.mk true head) (.ok tunnelId)
          opening := some ((DataHeader.mk kind tunnelId).toBytes ++ frame) }
  | unframed (conn kind tunnelId inspect http buffered unixSecs detail) (waiting : conn.phase = .opening kind tunnelId inspect http buffered) :
      ConnMove domain conn (.opened unixSecs) { conn with
          phase := afterSetup [⟨false, (DataHeader.mk kind tunnelId).toBytes⟩] (.error detail)
          opening := some (DataHeader.mk kind tunnelId).toBytes }
  | setup (conn part rest after n)
      (waiting : conn.phase = .setup (part :: rest) after) (some_ : 0 < n)
      (enough : n ≤ part.bytes.length) :
      ConnMove domain conn (.wrote .toClient n) { conn.deliver (part.bytes.take n) .toClient with
          up := { conn.up with
            relayed := conn.up.relayed ++ if part.application then part.bytes.take n else [] }
          phase := afterSetup ({ part with bytes := part.bytes.drop n } :: rest) after }
  | reply (conn rest n) (waiting : conn.phase = .replying rest)
      (phase) (next : phase = .ended .replied ∨ ∃ rest, phase = .replying rest) :
      ConnMove domain conn (.wrote .toPublic n) { conn.deliver (rest.take n) .toPublic with phase }
  | flow (conn) (event) (tunnelId) (direction)
      (next : Flow) (bytes) (seen : Bool) (relaying : conn.phase = .relaying tunnelId)
      (moved : FlowMove (conn.flow direction) next bytes) :
      ConnMove domain conn event
        (({ conn with seenAny := seen }.deliver bytes direction).setFlow next direction)
  | charge (conn tunnelId direction now noticed chunk) (relaying : conn.phase = .relaying tunnelId)
      (held : (conn.flow direction).stage = .throttling chunk) :
      ConnMove domain conn (.charge direction now noticed) ({ conn with
            rate := (conn.rate.charge now noticed tunnelId (UInt64.ofNat chunk.length)).2.2 }.setFlow
          ((conn.flow direction).charge chunk
            (conn.rate.charge now noticed tunnelId (UInt64.ofNat chunk.length)).1) direction)
  | finish (conn tunnelId direction total) (relaying : conn.phase = .relaying tunnelId)
      (shut : (conn.flow direction).stage = .closing (.ok total))
      (both : ∀ side, ((conn.setFlow { conn.flow direction with stage := .finished }
        direction).flow side).stage = .finished) (up down) :
      ConnMove domain conn (.shut direction)
        { conn.setFlow { conn.flow direction with stage := .finished } direction with
          phase := .ended (.relayed up down) }
  | other (conn now noticed tunnelId n) : ConnMove domain conn (.otherCharge now noticed tunnelId n)
        { conn with rate := (conn.rate.charge now noticed tunnelId n).2.2 }

section Steps
variable {domain : Domain} {conn next : DataConn}

theorem isLive_of_routing (routing : isRouting phase = true) : isLive phase = true := by
  cases phase <;> first | rfl | cases routing

theorem readHead_move (reads : headRead domain conn.phase = some (space, eof, after))
    (step : conn.readHead space n eof after = some next) :
    ConnMove domain conn (.read .toClient n) next := by
  unfold DataConn.readHead at step
  split at step
  · split at step
    · cases step
      exact .fail conn _ eof (isLive_of_routing (headRead_routing reads))
    · cases step
  · split at step
    · rename_i nonzero fits
      cases step
      refine .head conn n _ (headRead_move reads ?_)
      exact (List.length_take_le n conn.up.source).trans fits.1
    · cases step

/-- Without bytes to write a shovel's step changes nothing but its flow. -/
theorem flow_move (relaying : conn.phase = .relaying tunnelId) (event : ConnEvent) (seen : Bool)
    (moved : FlowMove (conn.flow dir) flow []) :
    ConnMove domain conn event ({ conn with seenAny := seen }.setFlow flow dir) := by
  have move : ConnMove domain conn event _ :=
    .flow conn event tunnelId dir flow [] seen relaying moved
  cases dir <;> simpa only [deliver, List.append_nil] using move

theorem read_cases (step : conn.read domain dir n = some next) :
    ConnMove domain conn (.read dir n) next := by
  unfold DataConn.read at step
  split at step
  · rename_i relaying
    obtain ⟨flow, moved, rfl⟩ := Option.map_eq_some_iff.mp step
    exact flow_move relaying _ _ (read_move moved)
  · obtain ⟨⟨space, eof, after⟩, reads, moved⟩ := Option.bind_eq_some_iff.mp step
    exact readHead_move reads moved
  · cases step

theorem wrote_cases (step : conn.wrote dir n = some next) :
    ConnMove domain conn (.wrote dir n) next := by
  unfold DataConn.wrote at step
  split at step
  · rename_i part rest after waiting
    split at step
    · rename_i fits
      cases step
      exact .setup conn part rest after n waiting fits.1 fits.2
    · cases step
  · rename_i rest waiting
    split at step
    · cases step
      refine .reply conn rest n waiting _ ?_
      split
      · exact .inl rfl
      · exact .inr ⟨_, rfl⟩
    · cases step
  · rename_i relaying
    obtain ⟨⟨bytes, flow⟩, moved, rfl⟩ := Option.map_eq_some_iff.mp step
    exact .flow conn _ _ _ flow bytes conn.seenAny relaying (write_move moved)
  · cases step

theorem preludeFrame_ok {unixSecs : UInt64} {frame : List UInt8}
    (made : preludeFrame domain inspect unixSecs http = .ok frame) :
    frame = [] ∨ ∃ prelude size, domain.prelude.encodeFrame prelude [] = (.ok size, frame) := by
  unfold preludeFrame at made
  split at made
  · split at made
    · rename_i size bytes encoded
      cases made
      exact .inr ⟨_, size, encoded⟩
    · cases made
  · cases made
    exact .inl rfl

theorem opened_cases {kind : StreamKind} {buffered : Option (List UInt8)}
    (waiting : conn.phase = .opening kind tunnelId inspect http buffered) (unixSecs : UInt64) :
    ConnMove domain conn (.opened unixSecs)
      (conn.opened domain kind tunnelId inspect http buffered unixSecs) := by
  unfold opened
  split
  · rename_i detail failed
    exact .unframed conn _ _ _ _ _ unixSecs detail waiting
  · rename_i frame made
    exact .opened conn _ _ _ _ _ unixSecs frame waiting (preludeFrame_ok made)

theorem isLive_of_reading (reading : conn.isReading dir = true) : isLive conn.phase = true := by
  cases phase : conn.phase with
  | ended =>
    unfold DataConn.isReading at reading
    rw [phase] at reading
    cases reading
  | _ => rfl

theorem isLive_of_writing (writing : conn.isWriting dir = true) : isLive conn.phase = true := by
  cases phase : conn.phase with
  | ended =>
    unfold DataConn.isWriting at writing
    rw [phase] at writing
    cases writing
  | _ => rfl

theorem shut_cases (relaying : conn.phase = .relaying tunnelId)
    (step : conn.shut dir = some next) : ConnMove domain conn (.shut dir) next := by
  unfold DataConn.shut at step
  dsimp only at step
  split at step
  · cases step
    exact .fail conn _ _ (by rw [relaying]; rfl)
  · rename_i total closing
    split at step
    · rename_i both
      cases step
      refine .finish conn tunnelId dir total relaying closing (fun side => ?_) _ _
      cases side
      · exact both.1
      · exact both.2
    · cases step
      exact flow_move relaying _ conn.seenAny (.close _ total closing)
  · cases step

theorem relayStep_cases (relaying : conn.phase = .relaying tunnelId)
    (step : conn.relayStep tunnelId event = some next) : ConnMove domain conn event next := by
  unfold DataConn.relayStep at step
  split at step
  · dsimp only at step
    split at step
    · rename_i starting
      cases step
      exact flow_move relaying _ conn.seenAny (.wait _ _ (.inl starting))
    · cases step
  · dsimp only at step
    split at step
    · rename_i waiting
      split at step
      · cases step
        exact flow_move relaying _ conn.seenAny (.wait _ _ (.inr ⟨_, waiting⟩))
      · cases step
        exact .fail conn _ _ (by rw [relaying]; rfl)
    · cases step
  · unfold DataConn.chargeChunk at step
    dsimp only at step
    split at step
    · rename_i chunk held
      cases step
      exact .charge conn tunnelId _ _ _ chunk relaying held
    · cases step
  · exact shut_cases relaying step
  · cases step

/-- Every step is one of the moves. -/
theorem step_move (step : conn.step domain event = some next) :
    ConnMove domain conn event next := by
  cases event with
  | read => exact read_cases step
  | readFailed dir detail =>
    simp only [DataConn.step] at step
    split at step
    · rename_i reading
      cases step
      exact .fail conn _ detail (isLive_of_reading reading)
    · cases step
  | opened unixSecs =>
    simp only [DataConn.step] at step
    split at step
    · rename_i waiting
      cases step
      exact opened_cases waiting unixSecs
    · cases step
  | openFailed detail =>
    simp only [DataConn.step] at step
    split at step
    · rename_i waiting
      cases step
      exact .fail conn _ detail (by rw [waiting]; rfl)
    · cases step
  | wrote => exact wrote_cases step
  | writeFailed dir detail =>
    simp only [DataConn.step] at step
    split at step
    · rename_i writing
      cases step
      exact .fail conn _ detail (isLive_of_writing writing)
    · cases step
  | otherCharge now noticed tunnelId n =>
    cases step
    exact .other conn now noticed tunnelId n
  | begin dir | elapsed dir | charge dir now noticed | shut dir =>
    simp only [DataConn.step] at step
    split at step
    · rename_i relaying
      exact relayStep_cases relaying step
    · cases step

end Steps

/-- What a step does to one of the two directions. -/
inductive FlowStep (conn : DataConn) (event : ConnEvent) (direction : Direction) (next : Flow) :
    Prop where
  | same (unchanged : next = conn.flow direction)
  | routed (n : Nat) (routing : isRouting conn.phase = true) (up : direction = .toClient)
      (read : next = { conn.up with source := conn.up.source.drop n })
  | setup (part rest after n)
      (waiting : conn.phase = .setup (part :: rest) after) (up : direction = .toClient)
      (asked : event = .wrote .toClient n)
      (wrote : next = { conn.up with
        relayed := conn.up.relayed ++ if part.application then part.bytes.take n else [] })
  | moved (bytes) (move : FlowMove (conn.flow direction) next bytes)
  | charged (tunnelId now noticed chunk) (asked : event = .charge direction now noticed)
      (held : (conn.flow direction).stage = .throttling chunk)
      (answered : next = (conn.flow direction).charge chunk
        (conn.rate.charge now noticed tunnelId (UInt64.ofNat chunk.length)).1)

theorem ConnMove.flow_step {conn next : DataConn} (move : ConnMove domain conn event next)
    (dir : Direction) : FlowStep conn event dir (next.flow dir) := by
  cases move with
  | head n _ routed =>
    cases dir with
    | toClient => exact .routed n routed.routing rfl rfl
    | toPublic => exact .same rfl
  | setup part rest after n waiting =>
    cases dir with
    | toClient => exact .setup part rest after n waiting rfl rfl rfl
    | toPublic => exact .same rfl
  | flow _ _ moving _ bytes _ _ moved =>
    by_cases own : dir = moving
    · subst own
      rw [DataConn.setFlow_flow]
      exact .moved bytes moved
    · rw [DataConn.setFlow_flow_other _ _ own, DataConn.deliver_flow]
      exact .same rfl
  | charge tunnelId charging now noticed chunk _ held =>
    by_cases own : dir = charging
    · subst own
      rw [DataConn.setFlow_flow]
      exact .charged tunnelId now noticed chunk rfl held rfl
    · rw [DataConn.setFlow_flow_other _ _ own]
      exact .same rfl
  | finish _ closing total _ shut =>
    by_cases own : dir = closing
    · subst own
      refine .moved [] ?_
      cases dir <;> exact .close _ total shut
    · refine .same ?_
      exact DataConn.setFlow_flow_other conn _ own
  | _ => exact .same rfl

end KrotRelay.Guarantees
