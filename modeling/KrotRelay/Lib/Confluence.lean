import KrotRelay.Lib.Program
import KrotRelay.Lib.Run

/-!
Runs whose events commute. Where two different events are enabled, either may come first and
the other still leads to the same state. Then all runs that cannot go on end in one state,
and they are equally long: one run that is followed to its end tells about all schedules.

Two deterministic parties on a reliable ordered stream are such a system.
-/
namespace KrotRelay.Lib
open Option

section Commuting
variable {σ ε : Type*}

/-- Two different enabled events can be taken in either order. -/
def Commutes (step : σ → ε → Option σ) : Prop :=
  ∀ state first second left right, first ≠ second → step state first = some left →
    step state second = some right →
    ∃ joined, step left second = some joined ∧ step right first = some joined

/-- No event is enabled. -/
def Halted (step : σ → ε → Option σ) (state : σ) : Prop :=
  ∀ event, step state event = none

variable [DecidableEq ε] {step : σ → ε → Option σ}

/-- The strip lemma: taking any enabled event first does not change where a run ends. -/
theorem Commutes.strip (commutes : Commutes step) {state last next : σ} {events : List ε}
    {event : ε} (ran : run step state events = some last) (halted : Halted step last)
    (stepped : step state event = some next) :
    ∃ rest, run step next rest = some last ∧ rest.length + 1 = events.length := by
  induction events generalizing state next with
  | nil =>
    cases ran
    rw [halted event] at stepped
    cases stepped
  | cons other rest ih =>
    obtain ⟨after, moved, ran⟩ := (run_cons _ _ _ _ _).mp ran
    by_cases same : other = event
    · subst same
      cases moved.symm.trans stepped
      exact ⟨rest, ran, rfl⟩
    · obtain ⟨joined, left, right⟩ := commutes state other event after next same moved stepped
      obtain ⟨tail, reached, length⟩ := ih ran left
      refine ⟨other :: tail, (run_cons _ _ _ _ _).mpr ⟨joined, right, reached⟩, ?_⟩
      simp [length]

/-- Every schedule can be carried on to where one of them stops, in as many events. -/
theorem Commutes.run_to_end (commutes : Commutes step) {state last : σ} {events : List ε}
    (finished : run step state events = some last) (halted : Halted step last)
    (other : List ε) (reached : σ) (ran : run step state other = some reached) :
    ∃ rest, run step reached rest = some last ∧ other.length + rest.length = events.length := by
  induction other generalizing state events with
  | nil =>
    cases ran
    exact ⟨events, finished, by simp⟩
  | cons event tail ih =>
    obtain ⟨next, stepped, ran⟩ := (run_cons _ _ _ _ _).mp ran
    obtain ⟨rest, finished, length⟩ := commutes.strip finished halted stepped
    obtain ⟨more, ends, total⟩ := ih finished ran
    refine ⟨more, ends, ?_⟩
    rw [List.length_cons]
    omega

end Commuting

section Duplex
variable {S I O : Type*}

/-- A deterministic party: what it does next with what it has received. The flag says that
nothing more will come. `gone` says that it has ended its own direction of the stream. -/
structure Party (S I O : Type*) where
  turn : S → List I → Bool → Option (S × List I × List O)
  gone : S → Bool
  /-- what it can do before the end of the stream, more input does not change -/
  patient : ∀ state inbox next rest said, turn state inbox false = some (next, rest, said) →
    ∀ more ended, turn state (inbox ++ more) ended = some (next, rest ++ more, said)
  finished : ∀ state inbox ended, gone state = true → turn state inbox ended = none

inductive Turn where
  | left
  | right
  deriving DecidableEq

/-- Two parties and the messages under way. `leftSaid` and `rightSaid` only observe. -/
structure Duplex (S T I O : Type*) where
  left : S
  right : T
  toLeft : List I
  toRight : List O
  leftSaid : List O
  rightSaid : List I

variable {T : Type*} (A : Party S I O) (B : Party T O I)

def Duplex.step (link : Duplex S T I O) : Turn → Option (Duplex S T I O)
  | .left =>
    (A.turn link.left link.toLeft (B.gone link.right)).map fun (next, rest, said) =>
      { link with
        left := next
        toLeft := rest
        toRight := link.toRight ++ said
        leftSaid := link.leftSaid ++ said }
  | .right =>
    (B.turn link.right link.toRight (A.gone link.left)).map fun (next, rest, said) =>
      { link with
        right := next
        toRight := rest
        toLeft := link.toLeft ++ said
        rightSaid := link.rightSaid ++ said }

/-- The parties take from one end of a queue and put at the other. -/
private theorem Duplex.left_right (link first second : Duplex S T I O)
    (moved : link.step A B .left = some first) (served : link.step A B .right = some second) :
    ∃ joined, first.step A B .right = some joined ∧ second.step A B .left = some joined := by
  obtain ⟨⟨next, rest, said⟩, own, rfl⟩ := map_eq_some_iff.mp moved
  obtain ⟨⟨other, remains, reply⟩, peer, rfl⟩ := map_eq_some_iff.mp served
  -- both can move, so neither has ended its direction
  have here : A.gone link.left = false := by
    cases gone : A.gone link.left with
    | false => rfl
    | true =>
      rw [A.finished _ _ _ gone] at own
      cases own
  have there : B.gone link.right = false := by
    cases gone : B.gone link.right with
    | false => rfl
    | true =>
      rw [B.finished _ _ _ gone] at peer
      cases peer
  rw [there] at own
  rw [here] at peer
  refine ⟨{ left := next, right := other, toLeft := rest ++ reply, toRight := remains ++ said,
            leftSaid := link.leftSaid ++ said, rightSaid := link.rightSaid ++ reply }, ?_, ?_⟩
  · simp only [Duplex.step, B.patient _ _ _ _ _ peer, map_some]
  · simp only [Duplex.step, A.patient _ _ _ _ _ own, map_some]

theorem Duplex.commutes : Commutes (Duplex.step A B) := by
  intro link first second moved served differ step other
  cases first <;> cases second
  · exact absurd rfl differ
  · exact Duplex.left_right A B link moved served step other
  · obtain ⟨joined, left, right⟩ := Duplex.left_right A B link served moved other step
    exact ⟨joined, right, left⟩
  · exact absurd rfl differ

end Duplex

/-- A program as a party, given what the stream and the stores reply to its calls. -/
def programParty {I : Interface} {α In Out : Type}
    (reply : (call : I.Call) → List In → Bool → Option (I.Reply call × List In × List Out))
    (gone : α → Bool)
    (patient : ∀ call inbox answer rest said, reply call inbox false = some (answer, rest, said) →
      ∀ more ended, reply call (inbox ++ more) ended = some (answer, rest ++ more, said)) :
    Party (Prog I α) In Out where
  turn
    | .ret _, _, _ => none
    | .call call next, inbox, ended =>
      (reply call inbox ended).map fun (answer, rest, said) => (next answer, rest, said)
  gone
    | .ret result => gone result
    | .call _ _ => false
  patient := by
    intro program inbox next rest said moved more ended
    cases program with
    | ret => cases moved
    | call call =>
      obtain ⟨_, replied, same⟩ := map_eq_some_iff.mp moved
      cases same
      exact map_eq_some_iff.mpr ⟨_, patient _ _ _ _ _ replied more ended, rfl⟩
  finished := by
    intro program inbox ended gone
    cases program with
    | ret => rfl
    | call => cases gone

end KrotRelay.Lib
