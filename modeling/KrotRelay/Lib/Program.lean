import Mathlib.Data.List.Basic

/-!
Programs that talk to a shared world one call at a time. A program is the tree of
its calls: between two calls it computes without being observed, so a call is the
unit of interleaving (one lock acquisition, one awaited operation). A discipline
is a typestate for such programs: which call may be made in which stage, and the
stage its reply leads to. A program that follows a discipline can be run in any
interleaving; only the calls its stage allows will ever be seen.
-/
namespace KrotRelay.Lib

/-- What a program may ask of the world, and the type of each answer. -/
structure Interface where
  Call : Type
  Reply : Call → Type

inductive Prog (I : Interface) (α : Type) where
  | ret (value : α)
  | call (request : I.Call) (next : I.Reply request → Prog I α)

variable {I : Interface} {α β G : Type}

namespace Prog

def bind : Prog I α → (α → Prog I β) → Prog I β
  | .ret value, after => after value
  | .call request next, after => .call request fun reply => (next reply).bind after

instance : Monad (Prog I) where
  pure := .ret
  bind := bind

/-- The program that makes one call and returns its reply. -/
def request (call : I.Call) : Prog I (I.Reply call) :=
  .call call .ret

end Prog

/-- A typestate discipline over stages `G`. `possible` is what the world promises
about a reply; a program need only cope with the replies that are possible. -/
structure Discipline (I : Interface) (G : Type) where
  allowed : G → I.Call → Prop
  possible : (call : I.Call) → I.Reply call → Prop
  next : G → (call : I.Call) → I.Reply call → G

/-- From stage `g` every call of the program is allowed when it is made, and the
value it returns is acceptable in the stage it returns in. -/
def Follows (D : Discipline I G) (accept : α → G → Prop) : G → Prog I α → Prop
  | g, .ret value => accept value g
  | g, .call request next =>
      D.allowed g request ∧
        ∀ reply, D.possible request reply → Follows D accept (D.next g request reply) (next reply)

variable {D : Discipline I G}

@[simp] theorem follows_pure (accept : α → G → Prop) (g : G) (value : α) :
    Follows D accept g (pure value : Prog I α) ↔ accept value g := Iff.rfl

theorem follows_mono {accept weaker : α → G → Prop}
    (weaken : ∀ value g, accept value g → weaker value g) (program : Prog I α) (g : G)
    (follows : Follows D accept g program) : Follows D weaker g program := by
  induction program generalizing g with
  | ret value => exact weaken value g follows
  | call _ _ ih =>
    exact ⟨follows.1, fun reply possible => ih reply _ (follows.2 reply possible)⟩

/-- Sequencing: the first program is followed to a stage from which the rest goes on. -/
theorem follows_bind (accept : β → G → Prop) (program : Prog I α) (after : α → Prog I β) (g : G) :
    Follows D accept g (program >>= after) ↔
      Follows D (fun value stage => Follows D accept stage (after value)) g program := by
  induction program generalizing g with
  | ret => exact Iff.rfl
  | call _ _ ih =>
    constructor
    · intro follows
      exact ⟨follows.1, fun reply possible => (ih reply _).mp (follows.2 reply possible)⟩
    · intro follows
      exact ⟨follows.1, fun reply possible => (ih reply _).mpr (follows.2 reply possible)⟩

/-- An exception-carrying program: an error skips everything that comes after it. -/
theorem follows_except {ε : Type} (accept : Except ε β → G → Prop)
    (prog : ExceptT ε (Prog I) α) (after : α → ExceptT ε (Prog I) β) (g : G) :
    Follows D accept g (prog >>= after).run ↔ Follows D (fun result stage =>
        match result with
        | .ok value => Follows D accept stage (after value).run
        | .error problem => accept (.error problem) stage) g prog.run := by
  refine (follows_bind accept prog.run _ g).trans (Iff.of_eq ?_)
  congr 1
  funext result stage
  cases result <;> rfl

end KrotRelay.Lib
