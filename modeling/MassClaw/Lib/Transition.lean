import Mathlib.Logic.Relation
import Mathlib.Tactic.Common

/-!
# Runs of a transition system

A system is a predicate on initial states and a step relation.  A state is
reachable when a finite run leads to it.  `Reachable.invariant` is the rule by
which every safety property below is proved: the property holds initially and
each step keeps it.

A machine takes inputs one after the other.  `steps` lists each input of a run
with the state that it meets, so that a condition on the inputs and a property
of the transitions can be stated about the same run.
-/

namespace Transition

universe u

variable {σ : Type u}

/-- A finite run from an initial state leads to `s`. -/
def Reachable (init : σ → Prop) (step : σ → σ → Prop) (s : σ) : Prop :=
  ∃ start, init start ∧ Relation.ReflTransGen step start s

variable {init : σ → Prop} {step : σ → σ → Prop}

theorem Reachable.start {s : σ} (h : init s) : Reachable init step s := ⟨s, h, .refl⟩

theorem Reachable.next {s t : σ} (hs : Reachable init step s) (h : step s t) :
    Reachable init step t := by
  obtain ⟨start, hstart, hrun⟩ := hs
  exact ⟨start, hstart, hrun.tail h⟩

/-- What holds initially and is kept by every step holds of every reachable
state. -/
theorem Reachable.invariant {I : σ → Prop} (hinit : ∀ s, init s → I s)
    (hstep : ∀ s t, I s → step s t → I t) {s : σ} (h : Reachable init step s) : I s := by
  obtain ⟨start, hstart, hrun⟩ := h
  induction hrun with
  | refl => exact hinit start hstart
  | tail _ hlast ih => exact hstep _ _ ih hlast

/-! ## Machines with inputs -/

section Inputs

universe v

variable {ι : Type v} (f : σ → ι → σ)

/-- The state after the inputs. -/
def after (start : σ) (inputs : List ι) : σ := inputs.foldl f start

/-- Each input with the state that it meets. -/
def steps : σ → List ι → List (σ × ι)
  | _, [] => []
  | s, input :: rest => (s, input) :: steps (f s input) rest

variable {f}

@[simp] theorem after_nil (start : σ) : after f start [] = start := rfl

@[simp] theorem after_cons (start : σ) (input : ι) (rest : List ι) :
    after f start (input :: rest) = after f (f start input) rest := rfl

theorem after_append (start : σ) (earlier later : List ι) :
    after f start (earlier ++ later) = after f (after f start earlier) later :=
  List.foldl_append

theorem steps_append (start : σ) (earlier later : List ι) :
    steps f start (earlier ++ later) =
      steps f start earlier ++ steps f (after f start earlier) later := by
  induction earlier generalizing start with
  | nil => rfl
  | cons input rest ih =>
    show (start, input) :: steps f (f start input) (rest ++ later) = _
    rw [ih]
    rfl

theorem input_mem_of_steps {inputs : List ι} {start : σ} {step : σ × ι}
    (h : step ∈ steps f start inputs) : step.2 ∈ inputs := by
  induction inputs generalizing start with
  | nil => cases h
  | cons input rest ih =>
    rcases List.mem_cons.1 h with rfl | hrest
    · exact List.mem_cons_self
    · exact List.mem_cons_of_mem _ (ih hrest)

/-- What the steps of a run keep holds at its end. -/
theorem after_invariant {I : σ → Prop} {P : σ × ι → Prop}
    (hstep : ∀ s input, P (s, input) → I s → I (f s input)) {inputs : List ι} {start : σ}
    (hsteps : ∀ step ∈ steps f start inputs, P step) (h : I start) : I (after f start inputs) := by
  induction inputs generalizing start with
  | nil => exact h
  | cons input rest ih =>
    refine ih (fun step hmem => hsteps step (List.mem_cons_of_mem _ hmem)) ?_
    exact hstep start input (hsteps _ List.mem_cons_self) h

/-- What every input keeps holds of each state that a run meets. -/
theorem steps_invariant {I : σ → Prop} (hstep : ∀ s input, I s → I (f s input))
    {inputs : List ι} {start : σ} (h : I start) : ∀ step ∈ steps f start inputs, I step.1 := by
  induction inputs generalizing start with
  | nil =>
    intro step hmem
    cases hmem
  | cons input rest ih =>
    intro step hmem
    rcases List.mem_cons.1 hmem with rfl | hrest
    · exact h
    · exact ih (hstep start input h) step hrest

/-- What the steps of a run keep holds of each state that it meets. -/
theorem steps_invariant_of {I : σ → Prop} {P : σ × ι → Prop}
    (hstep : ∀ s input, P (s, input) → I s → I (f s input)) {inputs : List ι} {start : σ}
    (hsteps : ∀ step ∈ steps f start inputs, P step) (h : I start) :
    ∀ step ∈ steps f start inputs, I step.1 := by
  induction inputs generalizing start with
  | nil =>
    intro step hmem
    cases hmem
  | cons input rest ih =>
    intro step hmem
    rcases List.mem_cons.1 hmem with rfl | hrest
    · exact h
    · exact ih (fun other hother => hsteps other (List.mem_cons_of_mem _ hother))
        (hstep start input (hsteps _ List.mem_cons_self) h) step hrest

/-- What holds at the end and not at the start came to hold at a step. -/
theorem exists_step_of_after {Q : σ → Prop} {inputs : List ι} {start : σ} (hstart : ¬Q start)
    (hend : Q (after f start inputs)) :
    ∃ step ∈ steps f start inputs, ¬Q step.1 ∧ Q (f step.1 step.2) := by
  induction inputs generalizing start with
  | nil => exact absurd hend hstart
  | cons input rest ih =>
    by_cases hnext : Q (f start input)
    · exact ⟨(start, input), List.mem_cons_self, hstart, hnext⟩
    · obtain ⟨step, hstep, hbefore, hafter⟩ := ih hnext hend
      exact ⟨step, List.mem_cons_of_mem _ hstep, hbefore, hafter⟩

/-- A property of states that is equivalent, along runs, to a condition on the
steps: steps that meet the condition keep an invariant that implies the
property, and the others break it. -/
theorem prefixes_iff_steps {I Q : σ → Prop} {P : σ × ι → Prop} (hsafe : ∀ s, I s → Q s)
    (hkeep : ∀ s input, I s → P (s, input) → I (f s input))
    (hbreak : ∀ s input, I s → ¬P (s, input) → ¬Q (f s input)) {inputs : List ι} {start : σ}
    (h : I start) :
    (∀ earlier, earlier <+: inputs → Q (after f start earlier)) ↔
      ∀ step ∈ steps f start inputs, P step := by
  induction inputs generalizing start with
  | nil =>
    constructor
    · intro _ step hstep
      cases hstep
    · intro _ earlier hprefix
      rw [List.prefix_nil.1 hprefix]
      exact hsafe start h
  | cons input rest ih =>
    constructor
    · intro hall
      have hfirst : P (start, input) := by
        by_contra hnot
        exact hbreak start input h hnot (hall [input] ⟨rest, rfl⟩)
      intro step hstep
      rcases List.mem_cons.1 hstep with heq | hrest
      · rw [heq]
        exact hfirst
      · apply (ih (hkeep start input h hfirst)).1 _ step hrest
        intro earlier hprefix
        exact hall (input :: earlier) (List.cons_prefix_cons.2 ⟨rfl, hprefix⟩)
    · intro hsteps earlier hprefix
      have hfirst : P (start, input) := hsteps _ List.mem_cons_self
      have hlater : ∀ step ∈ steps f (f start input) rest, P step :=
        fun step hstep => hsteps step (List.mem_cons_of_mem _ hstep)
      cases earlier with
      | nil => exact hsafe start h
      | cons first earlier =>
        obtain ⟨hfirst', hprefix⟩ := List.cons_prefix_cons.1 hprefix
        rw [hfirst']
        exact (ih (hkeep start input h hfirst)).2 hlater earlier hprefix

end Inputs

end Transition
