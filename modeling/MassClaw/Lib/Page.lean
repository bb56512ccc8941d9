import Mathlib.Tactic.Common

/-!
# Pages of a filtered list

A reader that wants one page of the elements with a property can filter a prefix
of the list that is as long as the page reaches.  The page is then complete only
if the prefix holds enough of these elements, or if none are left behind it.

Nothing here mentions a particular program.
-/

namespace Page

universe u

variable {α : Type u}

/-- The elements from position `first` up to `last`. -/
def slice (first last : Nat) (l : List α) : List α := (l.take last).drop first

/-- The prefix of length `last` decides the page: the page is empty, no element
has been left out, or all elements of the prefix belong to it. -/
def Suffices (p : α → Bool) (first last : Nat) (l : List α) : Prop :=
  last ≤ first ∨ (l.filter p).length ≤ first ∨ (∀ a ∈ l.drop last, p a = false) ∨
    ∀ a ∈ l.take last, p a = true

variable {p : α → Bool} {first last : Nat} {l : List α}

theorem filter_eq_append (p : α → Bool) (n : Nat) (l : List α) :
    l.filter p = (l.take n).filter p ++ (l.drop n).filter p := by
  rw [← List.filter_append, List.take_append_drop]

theorem length_filter_take_le (p : α → Bool) (n : Nat) (l : List α) :
    ((l.take n).filter p).length ≤ n := by
  have hfilter := List.length_filter_le p (l.take n)
  have htake := List.length_take_le n l
  omega

/-- The page is what the prefix gives, and what is left out behind it. -/
theorem slice_filter_eq (p : α → Bool) (first last : Nat) (l : List α) :
    slice first last (l.filter p) = ((l.take last).filter p).drop first ++
      (((l.drop last).filter p).take (last - ((l.take last).filter p).length)).drop
        (first - ((l.take last).filter p).length) := by
  rw [slice, filter_eq_append p last l, List.take_append, List.drop_append,
    List.take_of_length_le (length_filter_take_le p last l)]

/-- Filtering the prefix gives the page exactly if the prefix suffices. -/
theorem drop_filter_take_eq_iff :
    ((l.take last).filter p).drop first = slice first last (l.filter p) ↔
      Suffices p first last l := by
  have htotal := congrArg List.length (filter_eq_append p last l)
  have hle := length_filter_take_le p last l
  have hmatches := List.length_filter_eq_length_iff (p := p) (l := l.take last)
  have hnone := List.filter_eq_nil_iff (p := p) (l := l.drop last)
  have hrest := List.length_filter_le p (l.drop last)
  simp only [Bool.not_eq_true] at hnone
  rw [List.length_append] at htotal
  rw [List.length_take] at hmatches
  rw [List.length_drop] at hrest
  rw [slice_filter_eq, List.self_eq_append_right, ← List.length_eq_zero_iff, List.length_drop,
    List.length_take, Suffices, ← hnone, ← hmatches, htotal, ← List.length_eq_zero_iff]
  omega

end Page
