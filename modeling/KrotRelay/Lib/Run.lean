import Mathlib.Data.List.Basic

/-!
Runs of an event-driven system. A system is a partial step function: an event
that is not enabled in a state has no successor. Everything below is stated for
an arbitrary state type and an arbitrary event type, so one induction over the
event list serves every invariant of the development.
-/
namespace KrotRelay.Lib

variable {σ ε : Type*}

/-- Execute the events left to right; a disabled event ends the attempt. -/
def run (step : σ → ε → Option σ) : σ → List ε → Option σ
  | state, [] => some state
  | state, event :: rest => (step state event).bind fun next => run step next rest

/-- Every event of the run meets `cond` in the state just before it. -/
def Meets (step : σ → ε → Option σ) (cond : σ → ε → Prop) : σ → List ε → Prop
  | _, [] => True
  | state, event :: rest =>
      cond state event ∧ ∀ next, step state event = some next → Meets step cond next rest

/-- The states a run goes through, the first one included. -/
def visited (step : σ → ε → Option σ) : σ → List ε → List σ
  | state, [] => [state]
  | state, event :: rest =>
      state :: (match step state event with
        | none => []
        | some next => visited step next rest)

def Reachable (step : σ → ε → Option σ) (init state : σ) : Prop :=
  ∃ events, run step init events = some state

@[simp] theorem run_nil (step : σ → ε → Option σ) (state : σ) :
    run step state [] = some state := rfl

theorem run_cons (step : σ → ε → Option σ) (state final : σ) (event : ε) (rest : List ε) :
    run step state (event :: rest) = some final ↔
      ∃ next, step state event = some next ∧ run step next rest = some final := by
  simp only [run, Option.bind_eq_some_iff]

theorem run_single (step : σ → ε → Option σ) (state final : σ) (event : ε) :
    run step state [event] = some final ↔ step state event = some final := by
  rw [run_cons]
  constructor
  · rintro ⟨next, stepped, ran⟩
    exact stepped.trans ran
  · exact fun stepped => ⟨final, stepped, rfl⟩

theorem run_append (step : σ → ε → Option σ) (state final : σ) (first second : List ε) :
    run step state (first ++ second) = some final ↔
      ∃ middle, run step state first = some middle ∧ run step middle second = some final := by
  induction first generalizing state with
  | nil => simp
  | cons event rest ih =>
    rw [List.cons_append, run_cons]
    constructor
    · rintro ⟨next, stepped, ran⟩
      obtain ⟨middle, before, after⟩ := (ih next).mp ran
      exact ⟨middle, (run_cons step state middle event rest).mpr ⟨next, stepped, before⟩, after⟩
    · rintro ⟨middle, before, after⟩
      obtain ⟨next, stepped, before⟩ := (run_cons step state middle event rest).mp before
      exact ⟨next, stepped, (ih next).mpr ⟨middle, before, after⟩⟩

theorem meets_append (step : σ → ε → Option σ) (cond : σ → ε → Prop) (state : σ)
    (first second : List ε) :
    Meets step cond state (first ++ second) ↔ Meets step cond state first ∧
      ∀ middle, run step state first = some middle → Meets step cond middle second := by
  induction first generalizing state with
  | nil => simp [Meets]
  | cons _ _ ih =>
    simp only [List.cons_append, Meets, ih, run_cons]
    constructor
    · rintro ⟨now, later⟩
      refine ⟨⟨now, fun next stepped => (later next stepped).1⟩, ?_⟩
      rintro middle ⟨next, stepped, ran⟩
      exact (later next stepped).2 middle ran
    · rintro ⟨⟨now, later⟩, after⟩
      exact ⟨now, fun next stepped =>
        ⟨later next stepped, fun middle ran => after middle ⟨next, stepped, ran⟩⟩⟩

instance (step : σ → ε → Option σ) (cond : σ → ε → Prop)
    [decided : ∀ state event, Decidable (cond state event)] (state : σ) (events : List ε) :
    Decidable (Meets step cond state events) :=
  go state events
where
  go : (state : σ) → (events : List ε) → Decidable (Meets step cond state events)
  | _, [] => isTrue trivial
  | state, event :: rest =>
    match reached : step state event with
    | none => decidable_of_iff (cond state event) (by simp [Meets, reached])
    | some next =>
      let _ := go next rest
      decidable_of_iff (cond state event ∧ Meets step cond next rest) (by simp [Meets, reached])

/-- A condition that looks at the event only. -/
theorem meets_of_mem (step : σ → ε → Option σ) (cond : σ → ε → Prop) (events : List ε)
    (all : ∀ event ∈ events, ∀ state, cond state event) (state : σ) :
    Meets step cond state events := by
  induction events generalizing state with
  | nil => trivial
  | cons event _ ih =>
    have others := ih fun later mem => all later (List.mem_cons_of_mem _ mem)
    exact ⟨all event List.mem_cons_self state, fun next _ => others next⟩

theorem meets_trivial (step : σ → ε → Option σ) (cond : σ → ε → Prop)
    (always : ∀ state event, cond state event) (state : σ) (events : List ε) :
    Meets step cond state events :=
  meets_of_mem step cond events (fun event _ state => always state event) state

theorem meets_and {step : σ → ε → Option σ} {first second : σ → ε → Prop} {state : σ}
    {events : List ε} (left : Meets step first state events)
    (right : Meets step second state events) :
    Meets step (fun state event => first state event ∧ second state event) state events := by
  induction events generalizing state with
  | nil => trivial
  | cons _ _ ih =>
    exact ⟨⟨left.1, right.1⟩, fun next stepped => ih (left.2 next stepped) (right.2 next stepped)⟩

/-- A condition may be checked with the help of an invariant. -/
theorem meets_of_invariant (step : σ → ε → Option σ) (checked cond : σ → ε → Prop) (inv : σ → Prop)
    (preserved : ∀ state event next, inv state → checked state event →
      step state event = some next → inv next)
    (implied : ∀ state event, inv state → checked state event → cond state event)
    (state : σ) (events : List ε) (start : inv state)
    (met : Meets step checked state events) : Meets step cond state events := by
  induction events generalizing state with
  | nil => trivial
  | cons event _ ih =>
    refine ⟨implied state event start met.1, fun next stepped => ?_⟩
    exact ih next (preserved state event next start met.1 stepped) (met.2 next stepped)

/-- The invariant rule: a property kept by every step that meets `cond` is kept by
every run whose steps all meet it. -/
theorem run_meets {step : σ → ε → Option σ} {cond : σ → ε → Prop} (inv : σ → Prop)
    (preserved : ∀ state event next, inv state → cond state event →
      step state event = some next → inv next)
    {state final : σ} {events : List ε} (start : inv state)
    (met : Meets step cond state events) (ran : run step state events = some final) :
    inv final := by
  induction events generalizing state with
  | nil =>
    simp only [run_nil, Option.some.injEq] at ran
    exact ran ▸ start
  | cons event rest ih =>
    obtain ⟨next, stepped, ran⟩ := (run_cons step state final event rest).mp ran
    exact ih (preserved state event next start met.1 stepped) (met.2 next stepped) ran

theorem run_invariant {step : σ → ε → Option σ} (inv : σ → Prop)
    (preserved : ∀ state event next, inv state → step state event = some next → inv next)
    {state final : σ} {events : List ε} (start : inv state)
    (ran : run step state events = some final) : inv final :=
  run_meets inv
    (fun state event next held _ stepped => preserved state event next held stepped)
    start (meets_trivial step _ (fun _ _ => trivial) state events) ran

/-- Where a property that does not hold at the start and holds at the end turned true. -/
theorem run_turns (step : σ → ε → Option σ) (holds : σ → Prop) (state final : σ)
    (events : List ε) (ran : run step state events = some final) (start : ¬ holds state)
    (ends : holds final) : ∃ earlier event later before after, events = earlier ++ event :: later ∧
      run step state earlier = some before ∧ ¬ holds before ∧
      step before event = some after ∧ holds after ∧ run step after later = some final := by
  induction events generalizing state with
  | nil =>
    cases ran
    exact absurd ends start
  | cons event rest ih =>
    obtain ⟨next, stepped, ran⟩ := (run_cons step state final event rest).mp ran
    by_cases turned : holds next
    · exact ⟨[], event, rest, state, next, rfl, rfl, start, stepped, turned, ran⟩
    · obtain ⟨earlier, turning, later, before, after, rfl, reached, turn⟩ :=
        ih next ran turned
      exact ⟨event :: earlier, turning, later, before, after, rfl,
        (run_cons step state before event earlier).mpr ⟨next, stepped, reached⟩, turn⟩

theorem Reachable.invariant {step : σ → ε → Option σ} {init state : σ}
    (reached : Reachable step init state) (inv : σ → Prop) (start : inv init)
    (preserved : ∀ state event next, inv state → step state event = some next → inv next) :
    inv state := by
  obtain ⟨events, ran⟩ := reached
  exact run_invariant inv preserved start ran

theorem Reachable.init (step : σ → ε → Option σ) (init : σ) : Reachable step init init :=
  ⟨[], rfl⟩

theorem Reachable.extend {step : σ → ε → Option σ} {init state final : σ} {events : List ε}
    (reached : Reachable step init state) (ran : run step state events = some final) :
    Reachable step init final := by
  obtain ⟨before, reached⟩ := reached
  exact ⟨before ++ events, (run_append step init final before events).mpr ⟨state, reached, ran⟩⟩

theorem visited_head (step : σ → ε → Option σ) (state : σ) (events : List ε) :
    ∃ rest, visited step state events = state :: rest := by
  cases events with
  | nil => exact ⟨[], rfl⟩
  | cons => exact ⟨_, rfl⟩

theorem visited_cons (step : σ → ε → Option σ) (state next : σ) (event : ε) (rest : List ε)
    (stepped : step state event = some next) :
    visited step state (event :: rest) = state :: visited step next rest := by
  simp only [visited, stepped]

/-- The state a run ends in; the first state if some event is disabled. -/
def final (step : σ → ε → Option σ) (init : σ) (events : List ε) : σ :=
  (run step init events).getD init

theorem run_final {step : σ → ε → Option σ} {init : σ} {events : List ε}
    (enabled : (run step init events).isSome = true) :
    run step init events = some (final step init events) := by
  obtain ⟨state, ran⟩ := Option.isSome_iff_exists.mp enabled
  rw [final, ran, Option.getD_some]

end KrotRelay.Lib
