import KrotRelay.Lib.Program

/-!
One run of a program. A world replies to each call in the light of the exchanges before it,
so that a call made twice need not get the same reply; the run is the log of all exchanges
and the value returned.
-/
namespace KrotRelay.Lib

variable {I : Interface} {α β ε : Type}

/-- A call and the reply it got. -/
structure Answered (I : Interface) where
  call : I.Call
  reply : I.Reply call

def World (I : Interface) := List (Answered I) → (call : I.Call) → I.Reply call

/-- The log, which continues `past`, and the value. -/
def Prog.outcome (world : World I) : List (Answered I) → Prog I α → List (Answered I) × α
  | past, .ret value => (past, value)
  | past, .call request next =>
    outcome world (past ++ [⟨request, world past request⟩]) (next (world past request))

variable (world : World I) (past : List (Answered I))

theorem outcome_bind (prog : Prog I α) (after : α → Prog I β) :
    (prog >>= after).outcome world past =
      (after (prog.outcome world past).2).outcome world (prog.outcome world past).1 := by
  induction prog generalizing past with
  | ret => rfl
  | call request next ih => exact ih _ _

theorem outcome_bind_ok {prog : ExceptT ε (Prog I) α} {log : List (Answered I)} {value : α}
    (first : prog.run.outcome world past = (log, .ok value)) (after : α → ExceptT ε (Prog I) β) :
    (prog >>= after).run.outcome world past = (after value).run.outcome world log := by
  refine (outcome_bind world past prog.run _).trans ?_
  rw [first]
  rfl

/-- What is returned in place of a value does not show in the log. -/
theorem outcome_pure (prog : ExceptT ε (Prog I) α) (value : β) :
    ((prog >>= fun _ => pure value).run.outcome world past).1 =
      (prog.run.outcome world past).1 := by
  refine (congrArg Prod.fst (outcome_bind world past prog.run _)).trans ?_
  cases (prog.run.outcome world past).2 <;> rfl

/-- The discipline that asks for nothing and whose stage is the log. -/
def recording (I : Interface) : Discipline I (List (Answered I)) where
  allowed := fun _ _ => True
  possible := fun _ _ => True
  next := fun log call reply => log ++ [⟨call, reply⟩]

/-- What is acceptable on every path is so on the one this world takes. -/
theorem outcome_accepted {accept : α → List (Answered I) → Prop} (prog : Prog I α)
    (follows : Follows (recording I) accept past prog) :
    accept (prog.outcome world past).2 (prog.outcome world past).1 := by
  induction prog generalizing past with
  | ret => exact follows
  | call request next ih => exact ih _ _ (follows.2 _ trivial)

end KrotRelay.Lib
