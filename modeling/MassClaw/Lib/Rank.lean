import Mathlib.Data.List.Perm.Basic
import Mathlib.Order.Basic
import Mathlib.Order.Lattice

/-!
# Ranks in a descending list

Which value stands at a position of a descending list can be read off the
counts of the values above it and of those at least as high, and these do not
depend on the order of the list.

Nothing here mentions a particular program.
-/

namespace Rank

universe u

variable {α : Type u} [LinearOrder α]

/-- The number of elements above a value. -/
def above (t : α) (l : List α) : Nat := l.countP (fun a => t < a)

/-- The number of elements at least as high as a value. -/
def atLeast (t : α) (l : List α) : Nat := l.countP (fun a => t ≤ a)

variable {t : α} {l l' : List α}

theorem above_perm (h : l.Perm l') : above t l = above t l' := h.countP_eq _

theorem atLeast_perm (h : l.Perm l') : atLeast t l = atLeast t l' := h.countP_eq _

theorem above_eq_zero (h : ∀ a ∈ l, a ≤ t) : above t l = 0 := by
  rw [above, List.countP_eq_zero]
  intro a ha
  simpa using h a ha

theorem atLeast_eq_zero (h : ∀ a ∈ l, a < t) : atLeast t l = 0 := by
  rw [atLeast, List.countP_eq_zero]
  intro a ha
  simpa using h a ha

/-- The value at a position: those above it come before, and with its equals they
reach past the position. -/
theorem getElem?_eq_some_iff (h : l.Pairwise (fun a b => b ≤ a)) (i : Nat) :
    l[i]? = some t ↔ above t l ≤ i ∧ i < atLeast t l := by
  induction l generalizing i with
  | nil => simp [above, atLeast]
  | cons a rest ih =>
    obtain ⟨hhead, hrest⟩ := List.pairwise_cons.1 h
    have habove : above t (a :: rest) = above t rest + if t < a then 1 else 0 := by
      simp [above, List.countP_cons]
    have hatLeast : atLeast t (a :: rest) = atLeast t rest + if t ≤ a then 1 else 0 := by
      simp [atLeast, List.countP_cons]
    rw [habove, hatLeast]
    rcases lt_trichotomy t a with hlt | heq | hgt
    · rw [if_pos hlt, if_pos hlt.le]
      cases i with
      | zero => simp [hlt.ne']
      | succ i =>
        rw [List.getElem?_cons_succ, ih hrest]
        omega
    · subst heq
      have hzero := above_eq_zero hhead
      rw [if_neg (lt_irrefl t), if_pos (le_refl t)]
      cases i with
      | zero => simp [hzero]
      | succ i =>
        rw [List.getElem?_cons_succ, ih hrest]
        omega
    · have hzero : atLeast t rest = 0 := atLeast_eq_zero (fun b hb => (hhead b hb).trans_lt hgt)
      rw [if_neg hgt.le.not_gt, if_neg hgt.not_ge]
      cases i with
      | zero => simp [hgt.ne, hzero]
      | succ i =>
        rw [List.getElem?_cons_succ, ih hrest]
        omega

end Rank
