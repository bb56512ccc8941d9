import Mathlib.Data.List.Perm.Basic
import Mathlib.Data.List.Sort

/-!
# Selecting one of several candidates from a list

Replicas that hold the same elements in different orders each take the first
candidate they meet.  What they take has the same value on every replica when
all candidates have that value; and when a replica puts the elements into the
order of a time of its own, the first candidate can be any of them.

A sort by a key keeps the order of the elements with equal keys, so its result
is independent of the order of the list exactly if the keys tell the elements
apart.

Nothing here mentions a particular program.
-/

namespace Selection

universe u v

variable {α : Type u} {β : Type v} {p : α → Bool} {f : α → β} {l l' : List α}

/-- All candidates have one value. -/
def Agree (p : α → Bool) (f : α → β) (l : List α) : Prop :=
  ∀ a ∈ l, ∀ b ∈ l, p a = true → p b = true → f a = f b

theorem Agree.perm (h : Agree p f l) (hperm : l.Perm l') : Agree p f l' :=
  fun a ha b hb => h a (hperm.mem_iff.2 ha) b (hperm.mem_iff.2 hb)

/-- The first candidate has the value of any candidate. -/
theorem find?_map_eq_some (h : Agree p f l) {a : α} (ha : a ∈ l) (hp : p a = true) :
    (l.find? p).map f = some (f a) := by
  cases hfind : l.find? p with
  | none => exact absurd hp (by simpa using List.find?_eq_none.1 hfind a ha)
  | some b =>
    rw [Option.map_some, h b (List.mem_of_find?_eq_some hfind) a ha (List.find?_some hfind) hp]

/-- The value of the first candidate does not depend on the order. -/
theorem find?_map_perm (h : Agree p f l) (hperm : l.Perm l') :
    (l.find? p).map f = (l'.find? p).map f := by
  cases hfind : l'.find? p with
  | none =>
    have hnone : l.find? p = none := by
      rw [List.find?_eq_none]
      intro a ha
      exact List.find?_eq_none.1 hfind a (hperm.mem_iff.1 ha)
    rw [hnone]
  | some b =>
    have hb : b ∈ l := hperm.mem_iff.2 (List.mem_of_find?_eq_some hfind)
    rw [find?_map_eq_some h hb (List.find?_some hfind), Option.map_some]

/-! ## The newest element first -/

/-- The elements by descending time. -/
def newestFirst (time : α → Int) (l : List α) : List α :=
  l.mergeSort (fun a b => decide (time b ≤ time a))

theorem newestFirst_perm (time : α → Int) (l : List α) : (newestFirst time l).Perm l :=
  List.mergeSort_perm l _

@[simp] theorem mem_newestFirst (time : α → Int) {a : α} : a ∈ newestFirst time l ↔ a ∈ l :=
  (newestFirst_perm time l).mem_iff

theorem newestFirst_pairwise (time : α → Int) (l : List α) :
    (newestFirst time l).Pairwise (fun a b => time b ≤ time a) := by
  have hsorted : (newestFirst time l).Pairwise (fun a b => decide (time b ≤ time a)) :=
    List.pairwise_mergeSort (fun a b c hab hbc => by simp_all; omega) (fun a b => by simp; omega) l
  exact hsorted.imp (fun hle => of_decide_eq_true hle)

/-- An element that is newer than all others comes first. -/
theorem newestFirst_eq_cons {time : α → Int} {a : α} (ha : a ∈ l)
    (hnewest : ∀ b ∈ l, b ≠ a → time b < time a) : ∃ rest, newestFirst time l = a :: rest := by
  cases hsorted : newestFirst time l with
  | nil =>
    have hmem := (mem_newestFirst time).2 ha
    rw [hsorted] at hmem
    cases hmem
  | cons first rest =>
    by_cases heq : first = a
    · exact ⟨rest, by rw [heq]⟩
    · have hfirst : first ∈ l := by
        rw [← mem_newestFirst time, hsorted]
        exact List.mem_cons_self
      have hrest : a ∈ rest := by
        have hmem := (mem_newestFirst time).2 ha
        rw [hsorted] at hmem
        exact (List.mem_cons.1 hmem).resolve_left (Ne.symm heq)
      have hpairwise := newestFirst_pairwise time l
      rw [hsorted] at hpairwise
      have hle : time a ≤ time first := (List.pairwise_cons.1 hpairwise).1 a hrest
      have hlt := hnewest first hfirst heq
      omega

/-- Elements of ascending time come in reverse. -/
theorem newestFirst_of_ascending {time : α → Int} (h : l.Pairwise (fun a b => time a < time b)) :
    newestFirst time l = l.reverse := by
  have hinjective : ∀ a ∈ l, ∀ b ∈ l, time a = time b → a = b := by
    apply List.Pairwise.forall_of_forall_of_flip
    · intro a _ _
      rfl
    · apply h.imp
      intro a b hlt heq
      omega
    · apply h.imp
      intro a b hlt heq
      omega
  apply List.Perm.eq_of_pairwise _ (newestFirst_pairwise time l)
  · exact List.pairwise_reverse.2 (h.imp (fun hlt => hlt.le))
  · exact (newestFirst_perm time l).trans l.reverse_perm.symm
  · intro a b ha hb hba hab
    exact hinjective a ((mem_newestFirst time).1 ha) b (List.mem_reverse.1 hb) (by omega)

/-! ## In the order of a key -/

section Key

variable {κ : Type v} [LinearOrder κ] {key : α → κ}

/-- The elements by ascending key; equal keys stay in the order of the list. -/
def byKey (key : α → κ) (l : List α) : List α := l.insertionSort (fun a b => key a ≤ key b)

theorem byKey_perm (key : α → κ) (l : List α) : (byKey key l).Perm l := List.perm_insertionSort _ l

@[simp] theorem mem_byKey {a : α} : a ∈ byKey key l ↔ a ∈ l := (byKey_perm key l).mem_iff

theorem byKey_pairwise (key : α → κ) (l : List α) :
    (byKey key l).Pairwise (fun a b => key a ≤ key b) := by
  have htotal : Std.Total (fun a b : α => key a ≤ key b) := ⟨fun a b => le_total _ _⟩
  have htrans : IsTrans α (fun a b => key a ≤ key b) := ⟨fun a b c => le_trans⟩
  exact List.pairwise_insertionSort _ l

/-- The first element has the least key. -/
theorem key_head_le {first : α} (hfirst : (byKey key l).head? = some first) {a : α}
    (ha : a ∈ l) : key first ≤ key a := by
  have hmem : a ∈ byKey key l := mem_byKey.2 ha
  have hpairwise := byKey_pairwise key l
  cases hsorted : byKey key l with
  | nil =>
    rw [hsorted] at hfirst
    cases hfirst
  | cons b rest =>
    rw [hsorted] at hfirst hmem hpairwise
    cases hfirst
    rcases List.mem_cons.1 hmem with rfl | hrest
    · exact le_refl _
    · exact (List.pairwise_cons.1 hpairwise).1 a hrest

/-- Keys that tell the elements apart make the order of the list irrelevant. -/
theorem byKey_eq_of_perm (hkey : ∀ a ∈ l, ∀ b ∈ l, key a = key b → a = b)
    (hperm : l'.Perm l) : byKey key l' = byKey key l := by
  apply List.Perm.eq_of_pairwise _ (byKey_pairwise key l') (byKey_pairwise key l)
  · exact ((byKey_perm key l').trans hperm).trans (byKey_perm key l).symm
  · intro a b ha hb hab hba
    have ha' : a ∈ l := hperm.mem_iff.1 (mem_byKey.1 ha)
    exact hkey a ha' b (mem_byKey.1 hb) (le_antisymm hab hba)

/-- Two elements stand in one order only. -/
theorem not_sublist_swap {a b : α} (hnodup : l.Nodup) (h : [a, b].Sublist l) :
    ¬[b, a].Sublist l := by
  intro h'
  induction l with
  | nil => cases h
  | cons c rest ih =>
    obtain ⟨hnotmem, hrest⟩ := List.nodup_cons.1 hnodup
    cases h with
    | cons _ hab =>
      cases h' with
      | cons _ hba => exact ih hrest hab hba
      | cons_cons _ hba => exact hnotmem (hab.subset (by simp))
    | cons_cons _ hab =>
      cases h' with
      | cons _ hba => exact hnotmem (hba.subset (by simp))
      | cons_cons _ hba => exact hnotmem (hab.subset (by simp))

/-- Elements with one key show the order of the list. -/
theorem byKey_ne {a b : α} (hnodup : l.Nodup) (hkey : key a = key b) (h : [a, b].Sublist l)
    (h' : [b, a].Sublist l') : byKey key l ≠ byKey key l' := by
  have htotal : Std.Total (fun a b : α => key a ≤ key b) := ⟨fun a b => le_total _ _⟩
  have htrans : IsTrans α (fun a b => key a ≤ key b) := ⟨fun a b c => le_trans⟩
  intro heq
  have hab : [a, b].Sublist (byKey key l) := List.pair_sublist_insertionSort hkey.le h
  have hba : [b, a].Sublist (byKey key l) := by
    rw [heq]
    exact List.pair_sublist_insertionSort hkey.ge h'
  exact not_sublist_swap ((byKey_perm key l).nodup_iff.2 hnodup) hab hba

end Key

end Selection
