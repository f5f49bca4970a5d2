import KrotRelay.Guarantees.DataFlow

/-!
# Where the bytes of a connection are

Every byte taken from a source was relayed, is held, or is lost, in this order; none is
lost while the connection goes on. What the client has received is the opening of the data
stream and then what was relayed.
-/
namespace KrotRelay.Guarantees
open Source Lib List
open DataConn (afterSetup deliver)

variable {head chunk : List UInt8} {phase next : ConnPhase} {after : Except String TunnelId}

/-- The bytes a shovel has read and not written. -/
def held : ShovelStage → List UInt8
  | .throttling chunk => chunk
  | .writing _ rest => rest
  | _ => []

/-- A refused charge has dropped its chunk. -/
def isBroken : ShovelStage → Bool
  | .closing (.error _) => true
  | _ => false

/-- What the parts of one kind still hold. -/
def bytesOf (application : Bool) (parts : List SetupPart) : List UInt8 :=
  (parts.filter (·.application == application)).flatMap (·.bytes)

/-- The bytes a router has read and not replayed. -/
def headLeft : ConnPhase → List UInt8
  | .request buf | .helloHeader buf | .helloBody buf _ => buf
  | .opening _ _ _ _ buffered => buffered.getD []
  | .setup parts _ => bytesOf true parts
  | .ended (.dispatched buffered) => buffered
  | _ => []

/-- The router, or the relay after it, still passes on all it has read. -/
def passesOn : ConnPhase → Bool
  | .setup _ (.error _) | .replying _ => false
  | .ended (.relayed _ _) | .ended (.dispatched _) => true
  | .ended _ => false
  | _ => true

/-- One direction of a connection whose router holds `head` of it. -/
def Conserved (stream : List UInt8) (flow : Flow) (head : List UInt8) (intact : Bool) : Prop :=
  ∃ lost, flow.relayed ++ head ++ held flow.stage ++ lost ++ flow.source = stream ∧
    (intact = true → isBroken flow.stage = false → lost = [])

/-- The two shovels run, or may have run. -/
def isRelay : ConnPhase → Bool
  | .relaying _ | .ended (.relayed _ _) | .ended (.failed _) => true
  | _ => false

/-- The shovel has done nothing. -/
structure Unused (flow : Flow) : Prop where
  stage : flow.stage = .starting
  charged : flow.charged = []

/-- No data stream was opened. -/
def isUnopened : ConnPhase → Bool
  | .request _ | .helloHeader _ | .helloBody _ _ | .opening _ _ _ _ _ | .replying _ => true
  | .ended (.dispatched _) => true
  | _ => false

/-- One was, and no error occurred on it. -/
def isOpened : ConnPhase → Bool
  | .setup _ _ | .relaying _ | .ended (.relayed _ _) => true
  | _ => false

def isOver : ConnPhase → Bool
  | .replying _ | .ended _ => true
  | _ => false

/-- What of the opening of the data stream is still to be written. -/
def framingLeft : ConnPhase → List UInt8
  | .setup parts _ => bytesOf false parts
  | _ => []

/-- The header and the prelude come before the replayed head. -/
def FramingFirst : ConnPhase → Prop
  | .setup parts _ => parts.Pairwise fun first second =>
      first.application = true → second.application = true
  | _ => True

/-- What a data stream opens with: the nine bytes of a header, and the frame of a prelude
if the tunnel is inspected. -/
def OpensStream (domain : Domain) (head : List UInt8) : Prop :=
  ∃ (header : DataHeader) (framing : List UInt8), head = header.toBytes ++ framing ∧
    header.toBytes.length = 9 ∧
    (framing = [] ∨ ∃ prelude size, domain.prelude.encodeFrame prelude [] = (.ok size, framing))

/-- The client has received the opening, as far as it is written, and what was relayed. -/
structure Delivered (domain : Domain) (head : List UInt8) (conn : DataConn) : Prop where
  stream : OpensStream domain head
  phase : isUnopened conn.phase = false
  received : conn.toClient <+: head ++ conn.up.relayed
  aligned : isOpened conn.phase = true →
    conn.toClient ++ framingLeft conn.phase = head ++ conn.up.relayed

/-- The bytes of a connection between a public peer that sends `publicBytes` and a client
that sends `clientBytes`. -/
structure Balanced (domain : Domain) (publicBytes clientBytes : List UInt8) (conn : DataConn) :
    Prop where
  unused : isRelay conn.phase = false → Unused conn.up ∧ Unused conn.down
  up : Conserved publicBytes conn.up (headLeft conn.phase) (passesOn conn.phase)
  down : Conserved clientBytes conn.down [] true
  framed : FramingFirst conn.phase
  unopened : conn.opening = none →
    conn.toClient = [] ∧ conn.up.relayed = [] ∧ isOpened conn.phase = false
  opened : ∀ head, conn.opening = some head → Delivered domain head conn
  back : conn.toPublic = conn.down.relayed ∨ conn.opening = none ∧ isOver conn.phase = true

section Flows
variable {stream : List UInt8} {flow next : Flow} {bytes : List UInt8} {intact : Bool}

theorem FlowMove.relayed_eq (move : FlowMove flow next bytes) :
    next.relayed = flow.relayed ++ bytes := by
  cases move <;> simp only [append_nil]

theorem FlowMove.charged_eq (move : FlowMove flow next bytes) : next.charged = flow.charged := by
  cases move <;> rfl

theorem FlowMove.not_broken (move : FlowMove flow next bytes) : isBroken flow.stage = false := by
  cases move with
  | wait _ idle => obtain idle | ⟨before, idle⟩ := idle <;> rw [idle] <;> rfl
  | eof _ waiting | take _ _ waiting | write _ _ _ waiting | close _ waiting =>
    rw [waiting]
    rfl

/-- Nothing is lost or reordered between a read and the write of its bytes. -/
theorem FlowMove.kept_eq (move : FlowMove flow next bytes) :
    next.relayed ++ held next.stage ++ next.source =
      flow.relayed ++ held flow.stage ++ flow.source := by
  cases move with
  | wait _ idle => obtain idle | ⟨before, idle⟩ := idle <;> simp only [idle, held]
  | eof _ waiting => simp only [waiting, held]
  | take _ _ waiting =>
    simp only [waiting, held, append_assoc, take_append_drop, nil_append]
  | write size n rest writing _ _ =>
    simp only [writing]
    split
    · rename_i whole
      simp only [held, whole, take_length, append_nil]
    · rw [append_assoc flow.relayed, held, take_append_drop, held]
  | close _ shut => simp only [shut, held]

theorem charge_relayed (flow : Flow) (chunk : List UInt8) (outcome : Charge) :
    (flow.charge chunk outcome).relayed = flow.relayed := by
  cases outcome <;> rfl

theorem conserved_of_whole
    (whole : flow.relayed ++ head ++ held flow.stage ++ flow.source = stream) :
    Conserved stream flow head intact :=
  ⟨[], by rwa [append_nil], fun _ _ => rfl⟩

theorem Conserved.whole (conserved : Conserved stream flow head true)
    (sound : isBroken flow.stage = false) :
    flow.relayed ++ head ++ held flow.stage ++ flow.source = stream := by
  obtain ⟨lost, whole, kept⟩ := conserved
  rwa [kept rfl sound, append_nil] at whole

theorem Conserved.unstarted (conserved : Conserved stream flow head true)
    (idle : flow.stage = .starting) : flow.relayed ++ head ++ flow.source = stream := by
  have whole := conserved.whole (by rw [idle]; rfl)
  simpa only [idle, held, append_nil] using whole

theorem Conserved.moved (conserved : Conserved stream flow [] true)
    (move : FlowMove flow next bytes) : Conserved stream next [] true := by
  have whole := conserved.whole move.not_broken
  rw [append_nil] at whole
  refine conserved_of_whole ?_
  rw [append_nil, move.kept_eq, whole]

/-- A refused chunk is lost, and nothing is read after it. -/
theorem Conserved.charge (conserved : Conserved stream flow [] true)
    (waiting : flow.stage = .throttling chunk) (outcome : Charge) :
    Conserved stream (flow.charge chunk outcome) [] true := by
  have whole := conserved.whole (by rw [waiting]; rfl)
  rw [waiting] at whole
  cases outcome with
  | ok => exact conserved_of_whole whole
  | quotaExceeded =>
    refine ⟨chunk, ?_, fun _ sound => nomatch sound⟩
    simpa only [Flow.charge, held, append_nil] using whole

theorem Conserved.relayed_prefix (conserved : Conserved stream flow head intact) :
    flow.relayed <+: stream := by
  obtain ⟨lost, whole, -⟩ := conserved
  simp only [append_assoc] at whole
  exact ⟨_, whole⟩

/-- What was read by this moment, and that it covers what was relayed or is held. -/
theorem Conserved.taken (conserved : Conserved stream flow head intact) :
    ∃ taken, taken ++ flow.source = stream ∧ flow.relayed ++ head ++ held flow.stage <+: taken := by
  obtain ⟨lost, whole, -⟩ := conserved
  exact ⟨_, whole, prefix_append _ _⟩

end Flows

section Parts
variable {parts rest : List SetupPart} {part : SetupPart} {kind : Bool}

theorem bytesOf_cons : bytesOf kind (part :: rest) =
      (if part.application = kind then part.bytes else []) ++ bytesOf kind rest := by
  by_cases same : part.application = kind
  · simp [bytesOf, same]
  · simp [bytesOf, same]

/-- A write moves bytes of the first part only. -/
theorem bytesOf_write (kind : Bool) (part : SetupPart) (rest : List SetupPart) (n : Nat) :
    (if part.application = kind then part.bytes.take n else []) ++
        bytesOf kind ({ part with bytes := part.bytes.drop n } :: rest) =
      bytesOf kind (part :: rest) := by
  rw [bytesOf_cons, bytesOf_cons]
  by_cases same : part.application = kind
  · simp only [same, if_true, ← append_assoc, take_append_drop]
  · simp only [same, if_false, nil_append]

/-- An empty part holds nothing. -/
theorem bytesOf_dropWhile (kind : Bool) (parts : List SetupPart) :
    bytesOf kind (parts.dropWhile (·.bytes.isEmpty)) = bytesOf kind parts := by
  induction parts with
  | nil => rfl
  | cons part rest ih =>
    rw [dropWhile_cons]
    split
    · rename_i empty
      rw [ih, bytesOf_cons, List.isEmpty_iff.mp empty, ite_self, nil_append]
    · rfl

/-- The relay begins, or the error is returned, once no part holds anything. -/
theorem afterSetup_cases (parts : List SetupPart) (after : Except String TunnelId) :
    (∃ tunnelId, after = .ok tunnelId ∧ (∀ kind, bytesOf kind parts = []) ∧
      afterSetup parts after = .relaying tunnelId) ∨
    (∃ detail, after = .error detail ∧ (∀ kind, bytesOf kind parts = []) ∧
      afterSetup parts after = .ended (.failed detail)) ∨
    afterSetup parts after = .setup (parts.dropWhile (·.bytes.isEmpty)) after := by
  have empty : parts.dropWhile (·.bytes.isEmpty) = [] → ∀ kind, bytesOf kind parts = [] := by
    intro nothing kind
    rw [← bytesOf_dropWhile, nothing]
    rfl
  unfold afterSetup
  split
  · rename_i tunnelId nothing
    exact .inl ⟨tunnelId, rfl, empty nothing, rfl⟩
  · rename_i detail nothing
    exact .inr (.inl ⟨detail, rfl, empty nothing, rfl⟩)
  · exact .inr (.inr rfl)

theorem headLeft_afterSetup (parts : List SetupPart) (after : Except String TunnelId) :
    headLeft (afterSetup parts after) = bytesOf true parts := by
  obtain ⟨tunnelId, -, empty, next⟩ | ⟨detail, -, empty, next⟩ | next :=
    afterSetup_cases parts after
  · rw [next, empty]
    rfl
  · rw [next, empty]
    rfl
  · rw [next, headLeft, bytesOf_dropWhile]

theorem framingLeft_afterSetup (parts : List SetupPart) (after : Except String TunnelId) :
    framingLeft (afterSetup parts after) = bytesOf false parts := by
  obtain ⟨tunnelId, -, empty, next⟩ | ⟨detail, -, empty, next⟩ | next :=
    afterSetup_cases parts after
  · rw [next, empty]
    rfl
  · rw [next, empty]
    rfl
  · rw [next, framingLeft, bytesOf_dropWhile]

theorem isUnopened_afterSetup (parts : List SetupPart) (after : Except String TunnelId) :
    isUnopened (afterSetup parts after) = false := by
  obtain ⟨tunnelId, -, -, next⟩ | ⟨detail, -, -, next⟩ | next := afterSetup_cases parts after <;>
    · rw [next]
      rfl

/-- Once the replay has begun no part of the opening is left. -/
theorem bytesOf_framing_nil {part : SetupPart} {rest : List SetupPart}
    (ordered : FramingFirst (.setup (part :: rest) after)) (application : part.application = true) :
    bytesOf false (part :: rest) = [] := by
  obtain ⟨first, -⟩ := pairwise_cons.mp ordered
  have none_ : (part :: rest).filter (·.application == false) = [] := by
    rw [filter_eq_nil_iff]
    intro other mem
    obtain rfl | later := mem_cons.mp mem
    · simp [application]
    · simp [first other later application]
  rw [bytesOf, none_]
  rfl

theorem passesOn_setup (parts : List SetupPart) (after : Except String TunnelId) :
    passesOn (.setup parts after) = after.isOk := by
  cases after <;> rfl

theorem passesOn_afterSetup (parts : List SetupPart) (after : Except String TunnelId) :
    passesOn (afterSetup parts after) = after.isOk := by
  obtain ⟨tunnelId, rfl, -, next⟩ | ⟨detail, rfl, -, next⟩ | next := afterSetup_cases parts after
  · rw [next]
    rfl
  · rw [next]
    rfl
  · rw [next, passesOn_setup]

theorem framingFirst_afterSetup {parts : List SetupPart}
    (ordered : FramingFirst (.setup parts after)) :
    FramingFirst (afterSetup parts after) := by
  obtain ⟨tunnelId, -, -, next⟩ | ⟨detail, -, -, next⟩ | next := afterSetup_cases parts after
  · rw [next]
    trivial
  · rw [next]
    trivial
  · rw [next]
    exact List.Pairwise.sublist (dropWhile_sublist _) ordered

/-- The writes of a stream that was opened: its opening, then the buffered head. -/
theorem bytesOf_opened (header frame : List UInt8) (buffered : Option (List UInt8)) :
    let parts := ⟨false, header⟩ :: ⟨false, frame⟩ ::
      buffered.toList.map fun head => SetupPart.mk true head
    bytesOf false parts = header ++ frame ∧ bytesOf true parts = buffered.getD [] := by
  cases buffered <;> simp [bytesOf]

end Parts

section Heads

/-- A router keeps what it reads, or stops. -/
theorem RouterMove.headLeft_eq (move : RouterMove chunk phase next) :
    headLeft next = headLeft phase ++ chunk ∨ headLeft next = [] ∧ passesOn next = false := by
  cases move with
  | stop _ _ _ stopped => cases stopped <;> exact .inr ⟨rfl, rfl⟩
  | openRequest _ _ opens | openHello _ _ _ _ _ opens =>
    cases opens
    exact .inl rfl
  | _ => exact .inl rfl

theorem RouterMove.not_opened (move : RouterMove chunk phase next) :
    isOpened next = false ∧ FramingFirst next := by
  cases move with
  | stop _ _ _ stopped => cases stopped <;> exact ⟨rfl, trivial⟩
  | openRequest _ _ opens | openHello _ _ _ _ _ opens => cases opens; exact ⟨rfl, trivial⟩
  | _ => exact ⟨rfl, trivial⟩

/-- While a router reads, nothing has happened on the other side. -/
theorem routing_phase (routing : isRouting phase = true) :
    passesOn phase = true ∧ isRelay phase = false ∧ isUnopened phase = true ∧
      isOver phase = false := by
  cases phase <;> first | exact ⟨rfl, rfl, rfl, rfl⟩ | cases routing

end Heads

section Steps
variable {domain : Domain} {publicBytes clientBytes : List UInt8} {conn next : DataConn}
  {event : ConnEvent}

section
variable (balanced : Balanced domain publicBytes clientBytes conn)
include balanced

theorem unused_step (move : ConnMove domain conn event next) (before : isRelay next.phase = false) :
    Unused next.up ∧ Unused next.down := by
  cases move with
  | head _ _ routed =>
    obtain ⟨-, notYet, -⟩ := routing_phase routed.routing
    obtain ⟨up, down⟩ := balanced.unused notYet
    exact ⟨⟨up.stage, up.charged⟩, down⟩
  | fail | finish => cases before
  | opened _ _ _ _ _ _ _ waiting =>
    exact balanced.unused (by rw [waiting]; rfl)
  | unframed _ _ _ _ _ _ _ waiting =>
    exact balanced.unused (by rw [waiting]; rfl)
  | setup _ _ _ _ waiting =>
    obtain ⟨up, down⟩ := balanced.unused (by rw [waiting]; rfl)
    exact ⟨⟨up.stage, up.charged⟩, down⟩
  | reply _ _ waiting => exact balanced.unused (by rw [waiting]; rfl)
  | flow _ _ _ _ _ _ relaying =>
    rw [DataConn.setFlow_phase, DataConn.deliver_phase, relaying] at before
    cases before
  | charge _ _ _ _ _ relaying =>
    rw [DataConn.setFlow_phase, relaying] at before
    cases before
  | other => exact balanced.unused before

/-- Before the relay the router holds all that was read. -/
theorem Balanced.routed (notYet : isRelay conn.phase = false) (passes : passesOn conn.phase = true) :
    conn.up.relayed ++ headLeft conn.phase ++ conn.up.source = publicBytes := by
  have conserved := balanced.up
  rw [passes] at conserved
  exact conserved.unstarted (balanced.unused notYet).1.stage

theorem up_step (move : ConnMove domain conn event next) :
    Conserved publicBytes next.up (headLeft next.phase) (passesOn next.phase) := by
  cases move with
  | head n phase routed =>
    obtain ⟨passes, notYet, -⟩ := routing_phase routed.routing
    have idle := (balanced.unused notYet).1.stage
    have whole := balanced.routed notYet passes
    obtain kept | ⟨gone, stops⟩ := routed.headLeft_eq
    · refine conserved_of_whole ?_
      simp only [kept, idle, held, append_nil, ← append_assoc]
      rw [append_assoc _ (conn.up.source.take n), take_append_drop, whole]
    · refine ⟨headLeft conn.phase ++ conn.up.source.take n, ?_, fun intact => ?_⟩
      · simp only [gone, idle, held, append_nil, ← append_assoc]
        rw [append_assoc _ (conn.up.source.take n), take_append_drop, whole]
      · rw [stops] at intact
        cases intact
  | fail _ _ live =>
    obtain ⟨lost, whole, -⟩ := balanced.up
    cases before : isRelay conn.phase with
    | true =>
      have none_ : headLeft conn.phase = [] := by
        cases phase : conn.phase with
        | relaying => rfl
        | ended => rw [phase] at live; cases live
        | _ => rw [phase] at before; cases before
      rw [none_] at whole
      exact ⟨lost, whole, fun intact => nomatch intact⟩
    | false =>
      have idle := (balanced.unused before).1.stage
      refine ⟨headLeft conn.phase ++ lost, ?_, fun intact => nomatch intact⟩
      simpa only [DataConn.fail, headLeft, idle, held, append_nil, append_assoc] using whole
  | opened _ _ _ _ buffered _ frame waiting =>
    have idle := (balanced.unused (by rw [waiting]; rfl)).1.stage
    have whole := balanced.routed (by rw [waiting]; rfl) (by rw [waiting]; rfl)
    rw [waiting, headLeft] at whole
    refine conserved_of_whole ?_
    rw [headLeft_afterSetup, (bytesOf_opened _ frame buffered).2]
    simpa only [idle, held, append_nil] using whole
  | unframed _ _ _ _ buffered _ _ waiting =>
    have idle := (balanced.unused (by rw [waiting]; rfl)).1.stage
    have whole := balanced.routed (by rw [waiting]; rfl) (by rw [waiting]; rfl)
    rw [waiting, headLeft] at whole
    refine ⟨buffered.getD [], ?_, fun intact => ?_⟩
    · simpa [headLeft_afterSetup, idle, held, bytesOf] using whole
    · rw [passesOn_afterSetup] at intact
      cases intact
  | setup part rest _ n waiting =>
    have idle := (balanced.unused (by rw [waiting]; rfl)).1.stage
    obtain ⟨lost, whole, kept⟩ := balanced.up
    rw [waiting] at whole kept
    refine ⟨lost, ?_, fun intact sound => kept ?_ sound⟩
    · rw [headLeft, ← bytesOf_write true part rest n] at whole
      simpa only [headLeft_afterSetup, append_assoc] using whole
    · rwa [passesOn_afterSetup, ← passesOn_setup (part :: rest)] at intact
  | reply rest _ waiting _ next =>
    have conserved := balanced.up
    rw [waiting] at conserved
    obtain rfl | ⟨rest, rfl⟩ := next <;> exact conserved
  | flow _ _ dir _ _ _ relaying moved =>
    have conserved := balanced.up
    rw [DataConn.setFlow_phase, DataConn.deliver_phase]
    rw [relaying] at conserved ⊢
    cases dir with
    | toClient => exact conserved.moved moved
    | toPublic => exact conserved
  | charge _ dir _ _ _ relaying waiting =>
    have conserved := balanced.up
    rw [DataConn.setFlow_phase]
    rw [relaying] at conserved ⊢
    cases dir with
    | toClient => exact conserved.charge waiting _
    | toPublic => exact conserved
  | finish _ dir total relaying shut _ up =>
    have conserved := balanced.up
    rw [relaying] at conserved
    cases dir with
    | toClient => exact conserved.moved (.close conn.up total shut)
    | toPublic => exact conserved
  | other => exact balanced.up

theorem down_step (move : ConnMove domain conn event next) : Conserved clientBytes next.down [] true := by
  cases move with
  | flow _ _ dir _ _ _ _ moved =>
    cases dir with
    | toClient => exact balanced.down
    | toPublic => exact balanced.down.moved moved
  | charge _ dir _ _ _ _ waiting =>
    cases dir with
    | toClient => exact balanced.down
    | toPublic => exact balanced.down.charge waiting _
  | finish _ dir total _ shut _ _ down =>
    cases dir with
    | toClient => exact balanced.down
    | toPublic => exact balanced.down.moved (.close conn.down total shut)
  | _ => exact balanced.down

theorem framed_step (move : ConnMove domain conn event next) : FramingFirst next.phase := by
  have framed := balanced.framed
  cases move with
  | head _ _ routed => exact routed.not_opened.2
  | opened _ _ _ _ buffered =>
    dsimp only
    refine framingFirst_afterSetup ?_
    cases buffered <;> simp [FramingFirst]
  | unframed =>
    dsimp only
    exact framingFirst_afterSetup (pairwise_singleton _ _)
  | setup _ _ _ _ waiting =>
    rw [waiting] at framed
    dsimp only
    refine framingFirst_afterSetup ?_
    obtain ⟨first, others⟩ := pairwise_cons.mp framed
    exact pairwise_cons.mpr ⟨first, others⟩
  | reply rest n waiting phase next => obtain rfl | ⟨rest, rfl⟩ := next <;> trivial
  | flow =>
    rwa [DataConn.setFlow_phase, DataConn.deliver_phase]
  | charge =>
    rwa [DataConn.setFlow_phase]
  | other => exact framed
  | _ => trivial

/-- Until the stream is opened, none was. -/
theorem Balanced.opening_none (before : isUnopened conn.phase = true) : conn.opening = none := by
  cases opening : conn.opening with
  | none => rfl
  | some head =>
    have after := (balanced.opened head opening).phase
    rw [before] at after
    cases after

theorem Balanced.opening_some (after : isOpened conn.phase = true) : conn.opening ≠ none := by
  intro unopened
  have before := (balanced.unopened unopened).2.2
  rw [after] at before
  cases before

theorem unopened_step (move : ConnMove domain conn event next) (none_ : next.opening = none) :
    next.toClient = [] ∧ next.up.relayed = [] ∧ isOpened next.phase = false := by
  cases move with
  | head _ _ routed =>
    obtain ⟨toClient, relayed, -⟩ := balanced.unopened none_
    exact ⟨toClient, relayed, routed.not_opened.1⟩
  | fail =>
    obtain ⟨toClient, relayed, -⟩ := balanced.unopened none_
    exact ⟨toClient, relayed, rfl⟩
  | opened | unframed => cases none_
  | setup _ _ _ _ waiting =>
    exact absurd none_ (balanced.opening_some (by rw [waiting]; rfl))
  | reply rest _ _ _ next =>
    obtain ⟨toClient, relayed, -⟩ := balanced.unopened none_
    refine ⟨toClient, relayed, ?_⟩
    obtain rfl | ⟨rest, rfl⟩ := next <;> rfl
  | flow _ _ _ _ _ _ relaying =>
    rw [DataConn.setFlow_opening, DataConn.deliver_opening] at none_
    exact absurd none_ (balanced.opening_some (by rw [relaying]; rfl))
  | charge _ _ _ _ _ relaying =>
    rw [DataConn.setFlow_opening] at none_
    exact absurd none_ (balanced.opening_some (by rw [relaying]; rfl))
  | finish _ _ _ relaying =>
    rw [DataConn.setFlow_opening] at none_
    exact absurd none_ (balanced.opening_some (by rw [relaying]; rfl))
  | other => exact balanced.unopened none_

theorem back_step (move : ConnMove domain conn event next) :
    next.toPublic = next.down.relayed ∨ next.opening = none ∧ isOver next.phase = true := by
  have back : isOver conn.phase = false → conn.toPublic = conn.down.relayed := by
    intro goesOn
    obtain same | ⟨-, stopped⟩ := balanced.back
    · exact same
    · rw [goesOn] at stopped
      cases stopped
  cases move with
  | head _ _ routed => exact .inl (back (routing_phase routed.routing).2.2.2)
  | fail =>
    obtain same | ⟨none_, -⟩ := balanced.back
    · exact .inl same
    · exact .inr ⟨none_, rfl⟩
  | opened _ _ _ _ _ _ _ waiting =>
    exact .inl (back (by rw [waiting]; rfl))
  | unframed _ _ _ _ _ _ _ waiting =>
    exact .inl (back (by rw [waiting]; rfl))
  | setup _ _ _ _ waiting => exact .inl (back (by rw [waiting]; rfl))
  | reply rest _ waiting _ next =>
    refine .inr ⟨balanced.opening_none (by rw [waiting]; rfl), ?_⟩
    obtain rfl | ⟨rest, rfl⟩ := next <;> rfl
  | flow _ _ dir _ bytes _ relaying moved =>
    have same := back (by rw [relaying]; rfl)
    refine .inl ?_
    cases dir with
    | toClient => exact same
    | toPublic => exact (congrArg (· ++ bytes) same).trans moved.relayed_eq.symm
  | charge _ dir _ _ _ relaying =>
    have same := back (by rw [relaying]; rfl)
    refine .inl ?_
    cases dir with
    | toClient => exact same
    | toPublic => exact same.trans (charge_relayed _ _ _).symm
  | finish _ dir _ relaying =>
    have same := back (by rw [relaying]; rfl)
    cases dir <;> exact .inl same
  | other => exact balanced.back

end

theorem delivered_of_aligned (stream : OpensStream domain head)
    (phase : isUnopened conn.phase = false)
    (same : conn.toClient ++ framingLeft conn.phase = head ++ conn.up.relayed) :
    Delivered domain head conn :=
  ⟨stream, phase, ⟨_, same⟩, fun _ => same⟩

/-- One write of the setup: of the opening, or of the head after all of it. -/
theorem setup_delivered {part : SetupPart} {rest : List SetupPart} {received relayed : List UInt8}
    (framed : FramingFirst (.setup (part :: rest) after))
    (same : received ++ framingLeft (.setup (part :: rest) after) = head ++ relayed) (n : Nat) :
    received ++ part.bytes.take n ++
        bytesOf false ({ part with bytes := part.bytes.drop n } :: rest) =
      head ++ (relayed ++ if part.application then part.bytes.take n else []) := by
  have moves := bytesOf_write false part rest n
  change received ++ bytesOf false (part :: rest) = head ++ relayed at same
  obtain ⟨application, bytes⟩ := part
  cases application with
  | true =>
    have none_ := bytesOf_framing_nil framed rfl
    rw [none_, append_nil] at same
    rw [none_] at moves
    rw [(append_eq_nil_iff.mp moves).2, same, if_pos rfl, append_nil, append_assoc]
  | false =>
    rw [if_pos rfl] at moves
    rw [append_assoc, moves, same, if_neg Bool.false_ne_true, append_nil]

theorem opened_step (balanced : Balanced domain publicBytes clientBytes conn)
    (move : ConnMove domain conn event next) (head : List UInt8)
    (opening : next.opening = some head) : Delivered domain head next := by
  cases move with
  | head _ _ routed =>
    have none_ := balanced.opening_none (routing_phase routed.routing).2.2.1
    cases none_.symm.trans opening
  | fail =>
    obtain ⟨stream, -, received, -⟩ := balanced.opened head opening
    exact ⟨stream, rfl, received, fun opened => nomatch opened⟩
  | opened kind tunnelId _ _ buffered _ frame waiting framed =>
    cases opening
    obtain ⟨toClient, relayed, -⟩ := balanced.unopened (balanced.opening_none (by rw [waiting]; rfl))
    refine delivered_of_aligned
      ⟨⟨kind, tunnelId⟩, frame, rfl, DataHeader.toBytes_length _, framed⟩ ?_ ?_ <;> dsimp only
    · exact isUnopened_afterSetup _ _
    · rw [framingLeft_afterSetup, (bytesOf_opened _ frame buffered).1, toClient, relayed,
        nil_append, append_nil]
  | unframed kind tunnelId _ _ _ _ _ waiting =>
    cases opening
    obtain ⟨toClient, relayed, -⟩ := balanced.unopened (balanced.opening_none (by rw [waiting]; rfl))
    refine delivered_of_aligned ⟨⟨kind, tunnelId⟩, [], (append_nil _).symm,
      DataHeader.toBytes_length _, .inl rfl⟩ ?_ ?_ <;> dsimp only
    · exact isUnopened_afterSetup _ _
    · rw [framingLeft_afterSetup, toClient, relayed]
      simp [bytesOf]
  | setup _ _ _ n waiting =>
    obtain ⟨stream, -, -, aligned⟩ := balanced.opened head opening
    have same := aligned (by rw [waiting]; rfl)
    have framed := balanced.framed
    rw [waiting] at same framed
    refine delivered_of_aligned stream ?_ ?_ <;> dsimp only [deliver]
    · exact isUnopened_afterSetup _ _
    · rw [framingLeft_afterSetup]
      exact setup_delivered framed same n
  | reply _ _ waiting =>
    have none_ := balanced.opening_none (by rw [waiting]; rfl)
    cases none_.symm.trans opening
  | flow _ _ dir flow bytes _ relaying moved =>
    rw [DataConn.setFlow_opening, DataConn.deliver_opening] at opening
    obtain ⟨stream, phase, -, aligned⟩ := balanced.opened head opening
    have same := aligned (by rw [relaying]; rfl)
    refine delivered_of_aligned stream ?_ ?_ <;> rw [DataConn.setFlow_phase, DataConn.deliver_phase]
    · exact phase
    · rw [relaying] at same ⊢
      simp only [framingLeft, append_nil] at same ⊢
      cases dir with
      | toClient =>
        have relayed : flow.relayed = conn.up.relayed ++ bytes := moved.relayed_eq
        change conn.toClient ++ bytes = head ++ flow.relayed
        rw [same, relayed, append_assoc]
      | toPublic => exact same
  | charge _ dir _ _ chunk relaying =>
    rw [DataConn.setFlow_opening] at opening
    obtain ⟨stream, phase, -, aligned⟩ := balanced.opened head opening
    have same := aligned (by rw [relaying]; rfl)
    refine delivered_of_aligned stream ?_ ?_ <;> rw [DataConn.setFlow_phase]
    · exact phase
    · cases dir with
      | toClient => exact same.trans (congrArg (head ++ ·) (charge_relayed conn.up chunk _).symm)
      | toPublic => exact same
  | finish _ dir _ relaying =>
    rw [DataConn.setFlow_opening] at opening
    obtain ⟨stream, -, -, aligned⟩ := balanced.opened head opening
    have same := aligned (by rw [relaying]; rfl)
    rw [relaying] at same
    refine delivered_of_aligned stream rfl ?_
    cases dir <;> exact same
  | other =>
    obtain ⟨stream, phase, received, aligned⟩ := balanced.opened head opening
    exact ⟨stream, phase, received, aligned⟩

theorem balanced_step (balanced : Balanced domain publicBytes clientBytes conn)
    (step : conn.step domain event = some next) :
    Balanced domain publicBytes clientBytes next where
  unused := unused_step balanced (step_move step)
  up := up_step balanced (step_move step)
  down := down_step balanced (step_move step)
  framed := framed_step balanced (step_move step)
  unopened := unopened_step balanced (step_move step)
  opened := opened_step balanced (step_move step)
  back := back_step balanced (step_move step)

theorem balanced_accept (path : EntryPath) (rate : RateLimitState) :
    Balanced domain publicBytes clientBytes (.accept path publicBytes clientBytes rate) where
  unused _ := ⟨⟨rfl, rfl⟩, ⟨rfl, rfl⟩⟩
  up := by
    refine conserved_of_whole ?_
    cases path <;> rfl
  down := conserved_of_whole rfl
  framed := by cases path <;> trivial
  unopened _ := ⟨rfl, rfl, by cases path <;> rfl⟩
  opened _ opening := nomatch opening
  back := .inl rfl

theorem balanced_run {path : EntryPath} {rate : RateLimitState} {events : List ConnEvent}
    (ran : run (DataConn.step domain) (.accept path publicBytes clientBytes rate) events =
      some conn) : Balanced domain publicBytes clientBytes conn :=
  run_invariant (Balanced domain publicBytes clientBytes)
    (fun _ _ _ balanced step => balanced_step balanced step)
    (balanced_accept path rate) ran

end Steps
end KrotRelay.Guarantees
