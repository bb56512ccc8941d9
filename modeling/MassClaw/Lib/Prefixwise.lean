import Mathlib.Data.List.Basic
import Mathlib.Tactic.Common

/-!
# Properties of the elements of a list that look at what came before

`Prefixwise P l` says that `P before a` holds of every element `a` of `l`,
where `before` is the part of the list in front of it.  It is how an order
("each vertex after its predecessors") and a sequence of guarded steps ("each
entry allowed by the entries already there") are stated here.
-/

universe u v

variable {α : Type u}

/-- Every element satisfies `P` together with the elements in front of it. -/
def Prefixwise (P : List α → α → Prop) (l : List α) : Prop :=
  ∀ before a after, l = before ++ a :: after → P before a

namespace Prefixwise

variable {P Q : List α → α → Prop} {l : List α} {a : α}

theorem nil : Prefixwise P [] := by
  intro before a after h
  simp at h

theorem mono (h : Prefixwise P l) (hPQ : ∀ before a, a ∈ l → P before a → Q before a) :
    Prefixwise Q l := by
  intro before a after hsplit
  exact hPQ before a (by simp [hsplit]) (h before a after hsplit)

/-- The last element has the whole rest in front of it. -/
theorem concat (h : Prefixwise P l) (ha : P l a) : Prefixwise P (l ++ [a]) := by
  intro before b after hsplit
  rcases List.eq_nil_or_concat' after with rfl | ⟨after, last, rfl⟩
  · obtain ⟨rfl, hba⟩ := List.append_inj' hsplit rfl
    obtain rfl : a = b := by simpa using hba
    exact ha
  · rw [← List.cons_append, ← List.append_assoc] at hsplit
    obtain ⟨hl, -⟩ := List.append_inj' hsplit rfl
    exact h before b after hl

/-- Elements that satisfy the property wherever they stand. -/
theorem append (h : Prefixwise P l) {more : List α} (hmore : ∀ before, ∀ a ∈ more, P before a) :
    Prefixwise P (l ++ more) := by
  induction more generalizing l with
  | nil =>
    rw [List.append_nil]
    exact h
  | cons a rest ih =>
    rw [List.append_cons]
    exact ih (h.concat (hmore l a List.mem_cons_self))
      (fun before b hb => hmore before b (List.mem_cons_of_mem a hb))

/-- What is in front of the image of an element is the image of what is in front
of the element. -/
theorem filterMap {β : Type v} {f : α → Option β} (h : Prefixwise P l) :
    Prefixwise (fun images b => ∃ before a, f a = some b ∧ P before a ∧
      before.filterMap f = images) (l.filterMap f) := by
  intro images b after hsplit
  obtain ⟨front, back, rfl, hfront, hback⟩ := List.filterMap_eq_append_iff.1 hsplit
  obtain ⟨skipped, a, rest, rfl, hskipped, hb, -⟩ := List.filterMap_eq_cons_iff.1 hback
  refine ⟨front ++ skipped, a, hb, h (front ++ skipped) a rest (by simp), ?_⟩
  rw [List.filterMap_append, hfront, List.filterMap_eq_nil_iff.2 hskipped, List.append_nil]

/-- The first element has nothing in front of it, and it stands in front of
all others. -/
theorem cons_iff : Prefixwise P (a :: l) ↔ P [] a ∧ Prefixwise (fun before => P (a :: before)) l := by
  constructor
  · intro h
    refine ⟨h [] a l rfl, ?_⟩
    intro before b after hsplit
    exact h (a :: before) b after (by rw [hsplit, List.cons_append])
  · rintro ⟨ha, hl⟩ before b after hsplit
    cases before with
    | nil =>
      obtain ⟨rfl, -⟩ := List.cons.inj hsplit
      exact ha
    | cons head before =>
      obtain ⟨rfl, hrest⟩ := List.cons.inj hsplit
      exact hl before b after hrest

end Prefixwise
