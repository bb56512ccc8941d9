import Mathlib.Tactic.Common

/-!
# Queue-driven loops

Many graph algorithms are one loop: take the item at the front of a queue,
update a state, and append the items that became due.  `drain` is that loop
with an explicit bound on the number of rounds, so that it is structurally
recursive and can be evaluated.

`drain_induction` is the loop rule.  The invariant speaks about the queue and
the state together.  A budget `μ` that pays for every item appended later
shows that the bound is never what stops the loop, so the invariant holds of
the empty queue at the end.
-/

namespace Worklist

universe u v

variable {α : Type u} {σ : Type v}

/-- Process the queue from the front for at most `fuel` rounds. -/
def drain (step : α → σ → σ × List α) : Nat → List α → σ → σ
  | 0, _, s => s
  | _ + 1, [], s => s
  | fuel + 1, a :: queue, s => drain step fuel (queue ++ (step a s).2) (step a s).1

@[simp] theorem drain_nil (step : α → σ → σ × List α) (fuel : Nat) (s : σ) :
    drain step fuel [] s = s := by
  cases fuel <;> rfl

theorem drain_cons (step : α → σ → σ × List α) (fuel : Nat) (a : α) (queue : List α) (s : σ) :
    drain step (fuel + 1) (a :: queue) s =
      drain step fuel (queue ++ (step a s).2) (step a s).1 := rfl

/-- The loop rule.  Each round keeps the invariant, and the budget pays for
the items it appends. -/
theorem drain_induction {step : α → σ → σ × List α} {I : List α → σ → Prop} {μ : σ → Nat}
    (hbudget : ∀ a queue s, I (a :: queue) s →
      (step a s).2.length + μ (step a s).1 ≤ μ s)
    (hstep : ∀ a queue s, I (a :: queue) s → I (queue ++ (step a s).2) (step a s).1) :
    ∀ (fuel : Nat) (queue : List α) (s : σ),
      queue.length + μ s ≤ fuel → I queue s → I [] (drain step fuel queue s) := by
  intro fuel
  induction fuel with
  | zero =>
    intro queue s hfuel hI
    have hempty : queue = [] := List.length_eq_zero_iff.mp (by omega)
    subst hempty
    exact hI
  | succ fuel ih =>
    intro queue s hfuel hI
    cases queue with
    | nil => exact hI
    | cons a queue =>
      rw [drain_cons]
      refine ih _ _ ?_ (hstep a queue s hI)
      have := hbudget a queue s hI
      rw [List.length_append]
      simp only [List.length_cons] at hfuel
      omega

end Worklist
