import Mathlib.Logic.Function.Basic
import MassClaw.Lib.Transition

/-!
# A machine for each key

Inputs name the key whose state they change; an input without a key changes
nothing.  What a run does to the state of one key is the run of the inputs
with that key (`steps_keyed`).

Nothing here mentions a particular program.
-/

namespace Transition

universe u v w

variable {σ : Type u} {ι : Type v}

/-- Two machines that agree on the steps of a run make the same run. -/
theorem steps_congr {f g : σ → ι → σ} {inputs : List ι} {start : σ}
    (h : ∀ transition ∈ steps f start inputs,
      f transition.1 transition.2 = g transition.1 transition.2) :
    steps f start inputs = steps g start inputs := by
  induction inputs generalizing start with
  | nil => rfl
  | cons input rest ih =>
    have hhead : f start input = g start input := h (start, input) List.mem_cons_self
    show (start, input) :: steps f (f start input) rest =
      (start, input) :: steps g (g start input) rest
    rw [ih (fun transition hmem => h transition (List.mem_cons_of_mem _ hmem)), hhead]

variable {κ : Type w} [DecidableEq κ]

/-- The step of the machine whose key the input names. -/
def keyed (key : ι → Option κ) (step : σ → ι → σ) (states : κ → σ) (input : ι) : κ → σ :=
  match key input with
  | none => states
  | some k => Function.update states k (step (states k) input)

variable {key : ι → Option κ} {step : σ → ι → σ}

theorem keyed_same (states : κ → σ) {input : ι} {k : κ} (h : key input = some k) :
    keyed key step states input k = step (states k) input := by
  rw [keyed, h]
  exact Function.update_self ..

theorem keyed_other (states : κ → σ) {input : ι} {k : κ} (h : key input ≠ some k) :
    keyed key step states input k = states k := by
  unfold keyed
  cases hkey : key input with
  | none => rfl
  | some other =>
    have hne : k ≠ other := by
      intro heq
      exact h (by rw [hkey, heq])
    exact Function.update_of_ne hne ..

/-- The steps of one key are those of its own run. -/
theorem steps_keyed (states : κ → σ) (inputs : List ι) (k : κ) :
    ((steps (keyed key step) states inputs).filter (fun transition =>
        key transition.2 = some k)).map (fun transition => (transition.1 k, transition.2)) =
      steps step (states k) (inputs.filter (fun input => key input = some k)) := by
  induction inputs generalizing states with
  | nil => rfl
  | cons input rest ih =>
    show (List.filter _ ((states, input) :: steps (keyed key step) _ rest)).map _ = _
    by_cases hkey : key input = some k
    · rw [List.filter_cons_of_pos (by simpa using hkey), List.map_cons, ih,
        List.filter_cons_of_pos (by simpa using hkey), keyed_same states hkey]
      rfl
    · rw [List.filter_cons_of_neg (by simpa using hkey), ih,
        List.filter_cons_of_neg (by simpa using hkey), keyed_other states hkey]

/-- A step of the own run of a key is a step of the whole. -/
theorem exists_step_of_keyed {states : κ → σ} {inputs : List ι} {k : κ} {transition : σ × ι}
    (h : transition ∈ steps step (states k) (inputs.filter (fun input => key input = some k))) :
    ∃ whole ∈ steps (keyed key step) states inputs,
      key whole.2 = some k ∧ transition = (whole.1 k, whole.2) := by
  rw [← steps_keyed states inputs k] at h
  obtain ⟨whole, hwhole, rfl⟩ := List.mem_map.1 h
  rw [List.mem_filter, decide_eq_true_eq] at hwhole
  exact ⟨whole, hwhole.1, hwhole.2, rfl⟩

end Transition
