import Mathlib.Data.List.GetD
import KrotRelay.Guarantees.Accounting

/-!
Transparency of the routers. However the two streams are cut into reads and writes, the
client receives the opening of the data stream and then the public stream from its first
byte; the public peer receives what the client sends. Both are complete when the relay ends
without an error. A TLS router has peeked the first record and no more, so that the mux
behind it reads the stream from its first byte too.
-/
namespace KrotRelay.Guarantees
open Source Lib List
open DataConn (afterSetup recordLen)

variable {bytes head : List UInt8} {events : List ConnEvent} {flow : Flow} {rate : RateLimitState}
  {stream : ReplayStream}

/-- The shovel has read the end of its source. -/
def isDrained : ShovelStage → Bool
  | .closing (.ok _) | .finished => true
  | _ => false

theorem FlowMove.drained {next : Flow} (move : FlowMove flow next bytes)
    (before : isDrained flow.stage = true → flow.source = [])
    (after : isDrained next.stage = true) : next.source = [] := by
  cases move with
  | wait | take => cases after
  | eof _ _ drained => exact drained
  | write =>
    dsimp only at after
    split at after <;> cases after
  | close _ shut => exact before (by rw [shut]; rfl)

/-- A relay ends without an error when both directions are drained. -/
structure EndsDrained (conn : DataConn) : Prop where
  source : ∀ direction, isDrained (conn.flow direction).stage = true →
    (conn.flow direction).source = []
  ended : ∀ up down, conn.phase = .ended (.relayed up down) →
    ∀ direction, isDrained (conn.flow direction).stage = true

section Ends
variable {domain : Domain} {publicBytes clientBytes : List UInt8} {conn next : DataConn}
  {event : ConnEvent}

theorem isDrained_charge (flow : Flow) (chunk : List UInt8) (outcome : Charge) :
    isDrained (flow.charge chunk outcome).stage = false := by
  cases outcome <;> rfl

theorem afterSetup_not_relayed (parts : List SetupPart) (after : Except String TunnelId)
    (up down : Nat) : afterSetup parts after ≠ .ended (.relayed up down) := by
  obtain ⟨tunnelId, -, -, next⟩ | ⟨detail, -, -, next⟩ | next := afterSetup_cases parts after <;>
    · rw [next]
      nofun

theorem source_step (balanced : Balanced domain publicBytes clientBytes conn)
    (drained : EndsDrained conn) (move : ConnMove domain conn event next) (dir : Direction)
    (ended : isDrained (next.flow dir).stage = true) : (next.flow dir).source = [] := by
  cases move.flow_step dir with
  | same unchanged =>
    rw [unchanged] at ended ⊢
    exact drained.source dir ended
  | routed _ routing _ read =>
    have idle := (balanced.unused (routing_phase routing).2.1).1.stage
    rw [read, idle] at ended
    cases ended
  | setup _ _ _ _ waiting _ _ wrote =>
    have idle := (balanced.unused (by rw [waiting]; rfl)).1.stage
    rw [wrote, idle] at ended
    cases ended
  | moved _ move => exact move.drained (drained.source dir) ended
  | charged _ _ _ _ _ _ answered =>
    rw [answered, isDrained_charge] at ended
    cases ended

theorem ended_step (drained : EndsDrained conn) (move : ConnMove domain conn event next)
    (up down : Nat) (ended : next.phase = .ended (.relayed up down)) (dir : Direction) :
    isDrained (next.flow dir).stage = true := by
  cases move with
  | head _ phase routed =>
    have unopened := routed.not_opened.1
    change phase = _ at ended
    rw [ended] at unopened
    cases unopened
  | fail => cases ended
  | opened | unframed =>
    dsimp only at ended
    exact absurd ended (afterSetup_not_relayed _ _ up down)
  | setup =>
    exact absurd ended (afterSetup_not_relayed _ _ up down)
  | reply rest _ _ _ next =>
    obtain rfl | ⟨rest, rfl⟩ := next <;> cases ended
  | flow _ _ _ _ _ _ relaying =>
    rw [DataConn.setFlow_phase, DataConn.deliver_phase, relaying] at ended
    cases ended
  | charge _ _ _ _ _ relaying =>
    rw [DataConn.setFlow_phase, relaying] at ended
    cases ended
  | finish _ _ _ _ _ both =>
    have finished := both dir
    cases dir <;> exact congrArg isDrained finished
  | other => exact drained.ended up down ended dir

theorem endsDrained_accept (path : EntryPath) (publicBytes clientBytes : List UInt8)
    (rate : RateLimitState) : EndsDrained (.accept path publicBytes clientBytes rate) where
  source := by
    intro dir ended
    cases dir <;> cases ended
  ended := by
    intro up down ended
    cases path <;> cases ended

theorem endsDrained_step (balanced : Balanced domain publicBytes clientBytes conn)
    (drained : EndsDrained conn) (step : conn.step domain event = some next) :
    EndsDrained next where
  source := source_step balanced drained (step_move step)
  ended := ended_step drained (step_move step)

theorem endsDrained_run {path : EntryPath}
    (ran : run (DataConn.step domain) (.accept path publicBytes clientBytes rate) events =
      some conn) : EndsDrained conn :=
  (run_invariant (fun conn => Balanced domain publicBytes clientBytes conn ∧ EndsDrained conn)
    (fun _ _ _ ⟨balanced, drained⟩ step =>
      ⟨balanced_step balanced step, endsDrained_step balanced drained step⟩)
    ⟨balanced_accept path rate, endsDrained_accept path _ _ rate⟩ ran).2

end Ends

/-! ### The peek of a TLS record -/

theorem recordLen_append (rest : List UInt8) (enough : 5 ≤ buf.length) :
    recordLen (buf ++ rest) = recordLen buf := by
  have third : (buf ++ rest).getD 3 0 = buf.getD 3 0 :=
    getD_append _ _ _ _ (by omega)
  have fourth : (buf ++ rest).getD 4 0 = buf.getD 4 0 :=
    getD_append _ _ _ _ (by omega)
  rw [recordLen, recordLen, third, fourth]

/-- On the TLS path: the record the router waits for, or has peeked, is the first of the
stream, header included. -/
def Peeked (publicBytes : List UInt8) : ConnPhase → Prop
  | .request _ => False
  | .helloHeader buf => buf.length < 5
  | .helloBody buf needed => needed = 5 + recordLen publicBytes ∧ buf.length < needed
  | .opening _ _ _ _ (some buffered) | .ended (.dispatched buffered) =>
    buffered.length = 5 + recordLen publicBytes
  | _ => True

section Peek
variable {domain : Domain} {publicBytes clientBytes : List UInt8} {conn next : DataConn}
  {event : ConnEvent}

theorem peeked_afterSetup (parts : List SetupPart) (after : Except String TunnelId) :
    Peeked publicBytes (afterSetup parts after) := by
  obtain ⟨tunnelId, -, -, next⟩ | ⟨detail, -, -, next⟩ | next := afterSetup_cases parts after <;>
    · rw [next]
      trivial

theorem RouterMove.peeked {chunk : List UInt8} {phase next : ConnPhase}
    (move : RouterMove chunk phase next) (before : Peeked publicBytes phase) (rest : List UInt8)
    (whole : headLeft phase ++ chunk ++ rest = publicBytes) : Peeked publicBytes next := by
  cases move with
  | moreRequest => exact before
  | openRequest => exact before.elim
  | moreHeader _ short => exact short
  | header buf fits enough some_ =>
    change buf ++ chunk ++ rest = publicBytes at whole
    change buf.length < 5 at before
    have same := recordLen_append rest enough
    rw [whole] at same
    refine ⟨by rw [same], ?_⟩
    rw [length_append] at enough ⊢
    omega
  | moreBody _ _ short => exact ⟨before.1, short⟩
  | openHello buf needed next fits enough opens =>
    obtain ⟨record, short⟩ := before
    cases opens
    change (buf ++ chunk).length = _
    rw [length_append] at enough ⊢
    omega
  | dispatch buf needed fits enough =>
    obtain ⟨record, short⟩ := before
    change (buf ++ chunk).length = _
    rw [length_append] at enough ⊢
    omega
  | stop phase next routing stopped => cases stopped <;> trivial

theorem peeked_step (balanced : Balanced domain publicBytes clientBytes conn)
    (peeked : Peeked publicBytes conn.phase) (move : ConnMove domain conn event next) :
    Peeked publicBytes next.phase := by
  cases move with
  | head n _ routed =>
    obtain ⟨passes, notYet, unopened, -⟩ := routing_phase routed.routing
    have whole := balanced.routed notYet passes
    rw [(balanced.unopened (balanced.opening_none unopened)).2.1, nil_append] at whole
    refine routed.peeked peeked (conn.up.source.drop n) ?_
    rw [append_assoc, take_append_drop, whole]
  | opened | unframed | setup =>
    dsimp only
    exact peeked_afterSetup _ _
  | reply rest n waiting phase next => obtain rfl | ⟨rest, rfl⟩ := next <;> trivial
  | flow =>
    rwa [DataConn.setFlow_phase, DataConn.deliver_phase]
  | charge =>
    rwa [DataConn.setFlow_phase]
  | other => exact peeked
  | _ => trivial

theorem peeked_run
    (ran : run (DataConn.step domain) (.accept .https publicBytes clientBytes rate) events =
      some conn) : Peeked publicBytes conn.phase := by
  have both := run_invariant
    (fun conn => Balanced domain publicBytes clientBytes conn ∧ Peeked publicBytes conn.phase)
    (fun conn event next ⟨balanced, peeked⟩ step =>
      ⟨balanced_step balanced step, peeked_step balanced peeked (step_move step)⟩)
    ⟨balanced_accept .https rate, Nat.succ_pos 4⟩ ran
  exact both.2

end Peek

/-! ### The replay into the mux -/

/-- What a replaying stream has yet to deliver. -/
def undelivered (stream : ReplayStream) : List UInt8 :=
  stream.replay.drop stream.readPos ++ stream.inner

theorem pollRead_undelivered {next : ReplayStream} {space n : Nat}
    (read : stream.pollRead space n = some (bytes, next)) :
    bytes ++ undelivered next = undelivered stream ∧ (0 < space → bytes = [] → undelivered stream = []) := by
  unfold ReplayStream.pollRead at read
  split at read
  · rename_i replaying
    cases read
    refine ⟨?_, fun room nothing => ?_⟩
    · rw [undelivered, undelivered, ← drop_drop, ← append_assoc, take_append_drop]
    · have length := congrArg List.length nothing
      simp only [length_take, length_drop, length_nil] at length
      omega
  · rename_i replayed
    split at read
    · rename_i allowed
      cases read
      have gone := drop_eq_nil_of_le (Nat.le_of_not_lt replayed)
      refine ⟨?_, fun room nothing => ?_⟩
      · rw [undelivered, undelivered, gone, nil_append, nil_append, take_append_drop]
      · rw [undelivered, gone, nil_append]
        obtain ⟨-, enough, stops⟩ := allowed
        obtain zero | empty := take_eq_nil_iff.mp nothing
        · exact (stops zero).resolve_left (by omega)
        · exact empty
    · cases read

/-- A read with room returns a byte while there is one. -/
theorem pollRead_progress {space : Nat} (room : 0 < space) (more : undelivered stream ≠ []) :
    ∃ n piece next, stream.pollRead space n = some (piece, next) ∧ piece ≠ [] := by
  have returns : ∃ n piece next, stream.pollRead space n = some (piece, next) := by
    unfold ReplayStream.pollRead
    split
    · exact ⟨0, _, _, rfl⟩
    · refine ⟨min space stream.inner.length, _, _, if_pos ⟨by omega, by omega, fun zero => .inr ?_⟩⟩
      exact length_eq_zero_iff.mp (by omega)
  obtain ⟨n, piece, next, read⟩ := returns
  exact ⟨n, piece, next, read, fun nothing => more ((pollRead_undelivered read).2 room nothing)⟩

theorem readAll_undelivered {last : ReplayStream} {reads : List (Nat × Nat)}
    (read : stream.readAll reads = some (bytes, last)) :
    bytes ++ undelivered last = undelivered stream := by
  induction reads generalizing stream bytes with
  | nil =>
    cases read
    rfl
  | cons request _ ih =>
    obtain ⟨space, n⟩ := request
    obtain ⟨⟨chunk, next⟩, polled, others⟩ := Option.bind_eq_some_iff.mp read
    obtain ⟨⟨more, _⟩, later, same⟩ := Option.map_eq_some_iff.mp others
    cases same
    rw [append_assoc, ih later, (pollRead_undelivered polled).1]

/-- What `peek_sni` returned, until it is written or handed on. -/
def peekedBuffer : ConnPhase → Option (List UInt8)
  | .opening _ _ _ _ buffered => buffered
  | .ended (.dispatched buffered) => some buffered
  | _ => none

section Run
variable {domain : Domain} {publicBytes clientBytes : List UInt8} {conn : DataConn}

theorem Balanced.client_prefix (balanced : Balanced domain publicBytes clientBytes conn)
    (opening : conn.opening = some head) : conn.toClient <+: head ++ publicBytes :=
  (balanced.opened head opening).received.trans
    ((prefix_append_right_inj head).mpr balanced.up.relayed_prefix)

theorem Balanced.public_eq (balanced : Balanced domain publicBytes clientBytes conn)
    (opening : conn.opening = some head) : conn.toPublic = conn.down.relayed := by
  obtain same | ⟨none_, -⟩ := balanced.back
  · exact same
  · rw [opening] at none_
    cases none_

/-- A drained direction has relayed its whole source. -/
theorem Conserved.complete {stream : List UInt8} (conserved : Conserved stream flow [] true)
    (drained : isDrained flow.stage = true) (empty : flow.source = []) : flow.relayed = stream := by
  have settled : isBroken flow.stage = false ∧ held flow.stage = [] := by
    unfold isDrained at drained
    split at drained
    · rename_i stage
      rw [stage]
      exact ⟨rfl, rfl⟩
    · rename_i stage
      rw [stage]
      exact ⟨rfl, rfl⟩
    · cases drained
  have whole := conserved.whole settled.1
  simpa only [settled.2, empty, append_nil] using whole

theorem relay_complete (balanced : Balanced domain publicBytes clientBytes conn)
    (drained : EndsDrained conn) {up down : Nat} (ended : conn.phase = .ended (.relayed up down)) :
    ∃ head, conn.opening = some head ∧ conn.toClient = head ++ publicBytes ∧
      conn.toPublic = clientBytes := by
  have opened : isOpened conn.phase = true := by
    rw [ended]
    rfl
  obtain ⟨head, opening⟩ := Option.ne_none_iff_exists'.mp (balanced.opening_some opened)
  have ends := drained.ended up down ended
  have sent := (balanced.opened head opening).aligned opened
  have upstream := balanced.up
  rw [ended] at sent upstream
  simp only [framingLeft, append_nil] at sent
  have whole := upstream.complete (ends .toClient) (drained.source .toClient (ends .toClient))
  have back := balanced.down.complete (ends .toPublic) (drained.source .toPublic (ends .toPublic))
  exact ⟨head, opening, by rw [sent, whole], by rw [balanced.public_eq opening, back]⟩

/-- The peeked bytes are the first record, and they and the source are the whole stream. -/
theorem peeked_exact (balanced : Balanced domain publicBytes clientBytes conn)
    (peeked : Peeked publicBytes conn.phase) {buffered : List UInt8}
    (holds : peekedBuffer conn.phase = some buffered) :
    buffered.length = 5 + recordLen publicBytes ∧ buffered ++ conn.up.source = publicBytes := by
  have read : headLeft conn.phase = buffered ∧ passesOn conn.phase = true ∧
      isRelay conn.phase = false ∧ isUnopened conn.phase = true ∧
      buffered.length = 5 + recordLen publicBytes := by
    unfold peekedBuffer at holds
    split at holds
    · rename_i phase
      subst holds
      rw [phase] at peeked ⊢
      exact ⟨rfl, rfl, rfl, rfl, peeked⟩
    · rename_i phase
      cases holds
      rw [phase] at peeked ⊢
      exact ⟨rfl, rfl, rfl, rfl, peeked⟩
    · cases holds
  obtain ⟨left, passes, notYet, unopened, length⟩ := read
  have whole := balanced.routed notYet passes
  rw [left, (balanced.unopened (balanced.opening_none unopened)).2.1] at whole
  exact ⟨length, whole⟩

/-- Transparency of the three entry paths. -/
theorem routers_transparent (domain : Domain) (path : EntryPath)
    (publicBytes clientBytes : List UInt8) (rate : RateLimitState) (events : List ConnEvent)
    (conn : DataConn)
    (ran : run (DataConn.step domain) (.accept path publicBytes clientBytes rate) events =
      some conn) : (conn.opening = none → conn.toClient = []) ∧
    (∀ head, conn.opening = some head → OpensStream domain head ∧
      conn.toClient <+: head ++ publicBytes ∧ conn.toPublic <+: clientBytes) ∧
    (∀ up down, conn.phase = .ended (.relayed up down) → ∃ head, conn.opening = some head ∧
      conn.toClient = head ++ publicBytes ∧ conn.toPublic = clientBytes) ∧
    (path = .https → ∀ buffered, peekedBuffer conn.phase = some buffered →
      buffered.length = 5 + recordLen publicBytes ∧
      buffered = publicBytes.take (5 + recordLen publicBytes) ∧
      ∀ reads bytes stream,
        (ReplayStream.new buffered conn.up.source).readAll reads = some (bytes, stream) →
        bytes <+: publicBytes ∧
        (∀ space n next, 0 < space → stream.pollRead space n = some ([], next) →
          bytes = publicBytes) ∧
        ∀ space, 0 < space → bytes ≠ publicBytes →
          ∃ n piece next, stream.pollRead space n = some (piece, next) ∧ piece ≠ []) := by
  have balanced := balanced_run ran
  refine ⟨fun none_ => (balanced.unopened none_).1, fun head opening => ?_, fun up down ended =>
    relay_complete balanced (endsDrained_run ran) ended, fun tls buffered holds => ?_⟩
  · refine ⟨(balanced.opened head opening).stream, balanced.client_prefix opening, ?_⟩
    rw [balanced.public_eq opening]
    exact balanced.down.relayed_prefix
  · subst tls
    obtain ⟨length, whole⟩ := peeked_exact balanced (peeked_run ran) holds
    refine ⟨length, ?_, fun reads bytes stream read => ?_⟩
    · rw [← length, ← whole, take_left]
    · have rest := readAll_undelivered read
      have all : undelivered (ReplayStream.new buffered conn.up.source) = publicBytes := whole
      rw [all] at rest
      refine ⟨⟨_, rest⟩, fun space n next room ended => ?_, fun space room part => ?_⟩
      · rwa [(pollRead_undelivered ended).2 room rfl, append_nil] at rest
      · refine pollRead_progress room fun done => part ?_
        rwa [done, append_nil] at rest

end Run

section Example

/-- A shop behind a tunnel for plain HTTP. -/
def shopRequest : List UInt8 := "GET / HTTP/1.1\r\nHost: shop.relay.example\r\n\r\n".toUTF8.toList

/-- As `httparse` answers for this request and the beginnings of it. -/
def parseShopRequest (buf : List UInt8) : RequestParse :=
  if shopRequest.isPrefixOf buf then
    .complete [("Host", "shop.relay.example".toUTF8.toList)] (some "/")
  else .incomplete

def shopDomain : Domain where
  apex := "relay.example"
  challenges := ∅
  registry := (TunnelRegistry.new ⟨7000, 7001⟩).insert
    { id := ⟨1⟩
      owner := ⟨.replicate 32 7⟩
      sessionId := ⟨.replicate 16 1⟩
      kind := .http "shop"
      state := .live ⟨1⟩ none
      tcpListener := none
      rate := ⟨0⟩
      inspect := false }
  peer := none
  parseRequest := parseShopRequest
  parseClientHello := fun _ => .error "not a ClientHello"
  prelude := ⟨fun _ => none, fun _ => none⟩

/-- The head arrives in two reads; one read brings its body, and one the answer. -/
def shopVisit : List ConnEvent :=
  [.read .toClient 20, .read .toClient (shopRequest.length - 20), .opened 0, .wrote .toClient 9,
    .wrote .toClient shopRequest.length, .begin .toClient, .begin .toPublic, .read .toClient 2,
    .charge .toClient 0 0, .wrote .toClient 2, .read .toPublic 3, .charge .toPublic 0 0,
    .wrote .toPublic 1, .wrote .toPublic 2, .read .toPublic 0, .shut .toPublic,
    .read .toClient 0, .shut .toClient]

def shopVisited : DataConn :=
  final (DataConn.step shopDomain)
    (.accept .http (shopRequest ++ [104, 105]) [111, 107, 33] (.fromEntry none none 1 0)) shopVisit

/-- A relay client: two bytes of a hello in one record, and one byte behind it. -/
def muxHello : List UInt8 := [0x16, 3, 1, 0, 2, 9, 9, 7]

/-- Every hello asks for the TCP mux. -/
def muxDomain : Domain :=
  { shopDomain with parseClientHello := fun _ => .ok ("relay.example", [alpnTcp]) }

/-- The record is peeked in three reads. -/
def muxHandedOver : DataConn :=
  final (DataConn.step muxDomain) (.accept .https muxHello [] (.fromEntry none none 1 0))
    [.read .toClient 4, .read .toClient 1, .read .toClient 2]

theorem routers_transparent_visit : (shopVisited.phase = .ended (.relayed 2 3) ∧
    ∃ head, shopVisited.opening = some head ∧
      shopVisited.toClient = head ++ (shopRequest ++ [104, 105]) ∧
      shopVisited.toPublic = [111, 107, 33]) ∧
    muxHandedOver.phase = .ended (.dispatched (muxHello.take 7)) ∧
    ∃ n piece next, (ReplayStream.new (muxHello.take 7) muxHandedOver.up.source).pollRead 16 n =
      some (piece, next) ∧ piece ≠ [] := by
  have ended : shopVisited.phase = .ended (.relayed 2 3) := by decide +kernel
  have handed : muxHandedOver.phase = .ended (.dispatched (muxHello.take 7)) := by decide +kernel
  refine ⟨⟨ended, ?_⟩, handed, ?_⟩
  · exact (routers_transparent shopDomain .http _ _ _ shopVisit shopVisited
      (run_final (by decide +kernel))).2.2.1 2 3 ended
  · have replayed := (routers_transparent muxDomain .https _ _ _ _ muxHandedOver
      (run_final (by decide +kernel))).2.2.2 rfl (muxHello.take 7) (by rw [handed]; rfl)
    exact (replayed.2.2 [] [] _ rfl).2.2 16 (by decide) (by decide)

end Example
end KrotRelay.Guarantees
