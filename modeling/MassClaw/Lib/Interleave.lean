import Mathlib.Algebra.BigOperators.Group.List.Basic
import Mathlib.Algebra.GroupWithZero.Nat
import Mathlib.Logic.Function.Iterate
import Mathlib.Tactic.Common

/-!
# Processes that share a state

A process is a value that says what it does next; one of its commands changes
the shared state and the process.  A configuration is a shared state with a
list of processes, and any process can be the next to move.

An assertion is proved in two parts, as in the method of Owicki and Gries: the
shared invariant and the assertion of each process survive its own command,
and the assertions of the others survive that command as well.  What the
processes hold in total changes by what the moving process gives or takes.

Processes that only read the shared state do not notice each other: each of
them has got as far as it has had turns, and every combination of turns is
reached by some schedule.

Nothing here mentions a particular program.
-/

namespace Interleave

universe u v w

/-- A shared state and the processes. -/
structure Config (σ : Type u) (π : Type v) where
  shared : σ
  processes : List π

namespace Config

variable {σ : Type u} {π : Type v} {ι : Type w}

/-- Another process begins. -/
def spawn (c : Config σ π) (p : π) : Config σ π := { c with processes := c.processes ++ [p] }

/-- Something else changes the shared state. -/
def update (c : Config σ π) (f : σ → σ) : Config σ π := { c with shared := f c.shared }

/-- The process with the index performs its next command. -/
def advance (c : Config σ π) (run : σ → π → ι → σ × π) (index : Nat) (input : ι) : Config σ π :=
  match c.processes[index]? with
  | none => c
  | some p =>
    { shared := (run c.shared p input).1
      processes := c.processes.set index (run c.shared p input).2 }

theorem getElem?_spawn (c : Config σ π) (p : π) (j : Nat) :
    (c.spawn p).processes[j]? = if j = c.processes.length then some p else c.processes[j]? := by
  show (c.processes ++ [p])[j]? = _
  by_cases hlast : j = c.processes.length
  · rw [if_pos hlast, hlast, List.getElem?_concat_length]
  · rw [if_neg hlast]
    by_cases hlt : j < c.processes.length
    · exact List.getElem?_append_left hlt
    · have hlength : (c.processes ++ [p]).length = c.processes.length + 1 := List.length_append
      rw [List.getElem?_eq_none (by omega), List.getElem?_eq_none (by omega)]

theorem shared_advance {run : σ → π → ι → σ × π} {c : Config σ π} {index : Nat} {p : π}
    (hp : c.processes[index]? = some p) (input : ι) :
    (c.advance run index input).shared = (run c.shared p input).1 := by
  rw [advance, hp]

theorem getElem?_advance {run : σ → π → ι → σ × π} {c : Config σ π} {index : Nat} {p : π}
    (hp : c.processes[index]? = some p) (input : ι) (j : Nat) :
    (c.advance run index input).processes[j]? =
      if j = index then some (run c.shared p input).2 else c.processes[j]? := by
  rw [advance, hp]
  show (c.processes.set index _)[j]? = _
  by_cases hj : j = index
  · rw [if_pos hj, hj]
    exact List.getElem?_set_self (List.getElem?_eq_some_iff.1 hp).1
  · rw [if_neg hj]
    exact List.getElem?_set_ne (Ne.symm hj)

/-! ## Assertions -/

/-- The shared invariant and the assertions of all processes. -/
structure Holds (I : σ → Prop) (A : σ → π → Prop) (c : Config σ π) : Prop where
  shared : I c.shared
  processes : ∀ p ∈ c.processes, A c.shared p

variable {I : σ → Prop} {A : σ → π → Prop} {run : σ → π → ι → σ × π} {c : Config σ π}

theorem Holds.spawn (h : Holds I A c) {p : π} (hp : A c.shared p) : Holds I A (c.spawn p) := by
  refine ⟨h.shared, fun q hq => ?_⟩
  rcases List.mem_append.1 hq with hold | hnew
  · exact h.processes q hold
  · rw [List.mem_singleton.1 hnew]
    exact hp

theorem Holds.update (h : Holds I A c) {f : σ → σ} (hI : I c.shared → I (f c.shared))
    (hA : ∀ p, A c.shared p → A (f c.shared) p) : Holds I A (c.update f) :=
  ⟨hI h.shared, fun p hp => hA p (h.processes p hp)⟩

/-- A command keeps the invariant, its own assertion, and those of the others. -/
theorem Holds.advance (h : Holds I A c) {index : Nat} {input : ι}
    (hrun : ∀ p, c.processes[index]? = some p → I c.shared → A c.shared p →
      I (run c.shared p input).1 ∧ A (run c.shared p input).1 (run c.shared p input).2 ∧
        ∀ q ∈ c.processes, A c.shared q → A (run c.shared p input).1 q) :
    Holds I A (c.advance run index input) := by
  unfold Config.advance
  split
  · exact h
  · rename_i p hp
    have hmem : p ∈ c.processes := List.mem_of_getElem? hp
    obtain ⟨hI, hown, hothers⟩ := hrun p hp h.shared (h.processes p hmem)
    refine ⟨hI, fun q hq => ?_⟩
    rcases List.mem_or_eq_of_mem_set hq with hold | rfl
    · exact hothers q hold (h.processes q hold)
    · exact hown

/-! ## Totals -/

/-- The sum of a quantity over the processes. -/
def total (f : π → Nat) (c : Config σ π) : Nat := (c.processes.map f).sum

@[simp] theorem total_spawn (f : π → Nat) (c : Config σ π) (p : π) :
    (c.spawn p).total f = c.total f + f p := by
  rw [total, total, spawn, List.map_append, List.sum_append, List.map_singleton,
    List.sum_singleton]

@[simp] theorem total_update (f : π → Nat) (c : Config σ π) (g : σ → σ) :
    (c.update g).total f = c.total f := rfl

private theorem sum_map_set (f : π → Nat) {p q : π} :
    ∀ {l : List π} {index : Nat}, l[index]? = some p →
      ((l.set index q).map f).sum + f p = (l.map f).sum + f q := by
  intro l
  induction l with
  | nil => intro index h; cases h
  | cons head rest ih =>
    intro index h
    cases index with
    | zero =>
      cases h
      rw [List.set_cons_zero, List.map_cons, List.map_cons, List.sum_cons, List.sum_cons]
      omega
    | succ index =>
      rw [List.getElem?_cons_succ] at h
      have hrest := ih h
      rw [List.set_cons_succ, List.map_cons, List.map_cons, List.sum_cons, List.sum_cons]
      omega

/-- The total changes by what the moving process had and has. -/
theorem total_advance (f : π → Nat) {index : Nat} {input : ι} {p : π}
    (hp : c.processes[index]? = some p) :
    (c.advance run index input).total f + f p =
      c.total f + f (run c.shared p input).2 := by
  unfold Config.advance
  rw [hp]
  exact sum_map_set f hp

/-! ## Processes that only read the shared state -/

section Readers

variable (f : σ → π → π)

/-- The processes take turns, in the order of the schedule. -/
def follow (c : Config σ π) (schedule : List Nat) : Config σ π :=
  schedule.foldl (fun c index => c.advance (fun s p (_ : Unit) => (s, f s p)) index ()) c

theorem shared_turn (c : Config σ π) (index : Nat) :
    (c.advance (fun s p (_ : Unit) => (s, f s p)) index ()).shared = c.shared := by
  unfold Config.advance
  split
  · rfl
  · rfl

theorem processes_turn (c : Config σ π) (index j : Nat) :
    (c.advance (fun s p (_ : Unit) => (s, f s p)) index ()).processes[j]? =
      if index = j then c.processes[j]?.map (f c.shared) else c.processes[j]? := by
  unfold Config.advance
  by_cases hindex : index = j
  · rw [if_pos hindex, hindex]
    cases hp : c.processes[j]? with
    | none => exact hp
    | some p =>
      have hlength := (List.getElem?_eq_some_iff.1 hp).1
      exact List.getElem?_set_self hlength
  · rw [if_neg hindex]
    split
    · rfl
    · exact List.getElem?_set_ne hindex

/-- How far a process has come depends on nothing but its own turns. -/
theorem processes_follow (c : Config σ π) (schedule : List Nat) (j : Nat) :
    (c.follow f schedule).processes[j]? =
      c.processes[j]?.map (f c.shared)^[schedule.count j] := by
  induction schedule generalizing c with
  | nil =>
    show c.processes[j]? = c.processes[j]?.map id
    rw [Option.map_id, id_eq]
  | cons index rest ih =>
    show (follow f (c.advance _ index ()) rest).processes[j]? = _
    rw [ih, shared_turn, processes_turn, List.count_cons]
    by_cases hindex : index = j
    · rw [if_pos hindex, if_pos (beq_iff_eq.2 hindex), Option.map_map, Function.iterate_succ]
    · rw [if_neg hindex, if_neg (by simpa using hindex), Nat.add_zero]

end Readers

/-- Every combination of turns is that of some schedule. -/
theorem exists_schedule (turns : Nat → Nat) (n : Nat) :
    ∃ schedule : List Nat, ∀ j, schedule.count j = if j < n then turns j else 0 := by
  induction n with
  | zero => exact ⟨[], fun j => rfl⟩
  | succ n ih =>
    obtain ⟨schedule, hschedule⟩ := ih
    refine ⟨schedule ++ List.replicate (turns n) n, fun j => ?_⟩
    rw [List.count_append, hschedule, List.count_replicate]
    rcases Nat.lt_trichotomy j n with hlt | rfl | hgt
    · rw [if_pos hlt, if_neg (by simpa using Nat.ne_of_gt hlt), if_pos (by omega)]
      rfl
    · rw [if_neg (Nat.lt_irrefl j), if_pos (beq_self_eq_true j), if_pos (Nat.lt_succ_self j)]
      omega
    · rw [if_neg (by omega), if_neg (by simpa using Nat.ne_of_lt hgt), if_neg (by omega)]

end Config

end Interleave
