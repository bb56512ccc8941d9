import Mathlib.Algebra.BigOperators.Group.List.Basic
import Mathlib.Algebra.GroupWithZero.Nat
import Mathlib.Algebra.Order.BigOperators.Group.List
import Mathlib.Algebra.Order.Group.Nat
import Mathlib.Data.List.Nodup
import MassClaw.Lib.Prefixwise
import MassClaw.Lib.Worklist

/-!
# Kahn's algorithm

The topological sort by in-degrees over an arbitrary vertex type.  The graph
is given by its vertices and by the list of successors of each vertex, with
multiplicity: a successor that is listed twice counts twice in the in-degree.

`run` returns the vertices in the order in which they leave the queue.  With
in-degrees that agree with the successor lists the result is duplicate free
and each vertex stands after all of its predecessors (`run_sorted`).  Every vertex
leaves the queue exactly if some rank grows along every edge
(`run_perm_iff`).  Whatever the in-degrees are, a vertex leaves the queue only
if the edges pay for its in-degree (`inDegree_le_of_mem_run`).
-/

namespace Kahn

universe u

variable {α : Type u} [DecidableEq α]

/-- Take one incoming edge of `child` away; `child` is due when none is left. -/
def relax (acc : (α → Int) × List α) (child : α) : (α → Int) × List α :=
  (Function.update acc.1 child (acc.1 child - 1),
    if acc.1 child - 1 = 0 then acc.2 ++ [child] else acc.2)

/-- What the loop carries: the in-degrees that are left, and the vertices that
have left the queue. -/
structure State (α : Type u) where
  inDegree : α → Int
  order : List α

/-- One round: the vertex leaves the queue and its outgoing edges go away. -/
def visit (succ : α → List α) (v : α) (s : State α) : State α × List α :=
  let relaxed := (succ v).foldl relax (s.inDegree, [])
  ({ inDegree := relaxed.1, order := s.order ++ [v] }, relaxed.2)

/-- The whole loop, started with the vertices without incoming edges. -/
def finish (vertices : List α) (inDegree : α → Int) (succ : α → List α) : State α :=
  Worklist.drain (visit succ) vertices.length
    (vertices.filter (fun v => inDegree v = 0)) { inDegree, order := [] }

/-- The vertices in the order in which they leave the queue. -/
def run (vertices : List α) (inDegree : α → Int) (succ : α → List α) : List α :=
  (finish vertices inDegree succ).order

/-! ## One round -/

/-- Relaxing along a list of successors subtracts their multiplicities, and
appends exactly the vertices whose in-degree reaches zero. -/
theorem foldl_relax (cs : List α) : ∀ (d : α → Int) (r : List α),
    ∃ due : List α, cs.foldl relax (d, r) = (fun v => d v - cs.count v, r ++ due) ∧
      due.Nodup ∧ ∀ v, v ∈ due ↔ 0 < d v ∧ d v ≤ cs.count v := by
  induction cs with
  | nil =>
    intro d r
    refine ⟨[], by simp, List.nodup_nil, fun v => ?_⟩
    simp only [List.not_mem_nil, List.count_nil, false_iff]
    omega
  | cons c cs ih =>
    intro d r
    obtain ⟨due, hfold, hnodup, hdue⟩ := ih (Function.update d c (d c - 1))
      (if d c - 1 = 0 then r ++ [c] else r)
    have hcount : ∀ v, (Function.update d c (d c - 1)) v - (cs.count v : Int)
        = d v - ((c :: cs).count v : Int) := by
      intro v
      rw [Function.update_apply, List.count_cons]
      by_cases hv : v = c
      · subst hv
        simp only [if_pos, BEq.rfl]
        push_cast
        omega
      · have hbeq : (c == v) = false := by simpa using fun h : c = v => hv h.symm
        simp [hv, hbeq]
    have hcnot : d c - 1 = 0 → c ∉ due := by
      intro hzero hmem
      have := (hdue c).1 hmem
      rw [Function.update_self] at this
      omega
    rw [List.foldl_cons]
    by_cases hzero : d c - 1 = 0
    · refine ⟨c :: due, ?_, List.nodup_cons.2 ⟨hcnot hzero, hnodup⟩, fun v => ?_⟩
      · rw [relax, hfold]
        simp only [hzero, if_true, List.append_assoc, List.singleton_append, Prod.mk.injEq,
          and_true]
        funext v
        simpa [hzero] using hcount v
      · by_cases hv : v = c
        · subst hv
          simp only [List.mem_cons, true_or, true_iff, List.count_cons_self]
          push_cast
          omega
        · have hbeq : (c == v) = false := by simpa using fun h : c = v => hv h.symm
          simp [hdue, List.count_cons, hv, hbeq]
    · refine ⟨due, ?_, hnodup, fun v => ?_⟩
      · rw [relax, hfold]
        simp only [hzero, if_false, Prod.mk.injEq, and_true]
        funext v
        exact hcount v
      · rw [hdue]
        by_cases hv : v = c
        · subst hv
          rw [Function.update_self, List.count_cons_self]
          push_cast
          omega
        · have hbeq : (c == v) = false := by simpa using fun h : c = v => hv h.symm
          simp [Function.update_of_ne hv, List.count_cons, hbeq]

/-- A round appends the vertices whose in-degree it uses up. -/
theorem visit_cases (succ : α → List α) (v : α) (s : State α) :
    ∃ due, visit succ v s =
        ({ inDegree := fun w => s.inDegree w - (succ v).count w, order := s.order ++ [v] }, due) ∧
      due.Nodup ∧ ∀ w, w ∈ due ↔ 0 < s.inDegree w ∧ s.inDegree w ≤ (succ v).count w := by
  obtain ⟨due, hfold, hnodup, hdue⟩ := foldl_relax (succ v) s.inDegree []
  refine ⟨due, ?_, hnodup, hdue⟩
  simp [visit, hfold]

/-! ## The loop -/

/-- `l` lists each vertex after all of its predecessors among `vertices`. -/
def Sorted (vertices : List α) (succ : α → List α) (l : List α) : Prop :=
  Prefixwise (fun before v => ∀ u ∈ vertices, v ∈ succ u → u ∈ before) l

/-- The in-degree that the vertices outside `done` contribute to `v`. -/
def remaining (vertices : List α) (succ : α → List α) (done : List α) (v : α) : Nat :=
  ((vertices.filter (· ∉ done)).map (fun u => (succ u).count v)).sum

/-- Taking one more vertex away subtracts its edges. -/
theorem remaining_concat {vertices : List α} {succ : α → List α} {done : List α} {u : α}
    (hnodup : vertices.Nodup) (hu : u ∈ vertices) (hnot : u ∉ done) (v : α) :
    remaining vertices succ done v
      = (succ u).count v + remaining vertices succ (done ++ [u]) v := by
  have hmem : u ∈ vertices.filter (· ∉ done) := List.mem_filter.2 ⟨hu, by simpa using hnot⟩
  have herase : vertices.filter (· ∉ done ++ [u]) = (vertices.filter (· ∉ done)).erase u := by
    rw [(hnodup.filter _).erase_eq_filter, List.filter_filter]
    refine List.filter_congr (fun w _ => ?_)
    by_cases hw : w = u <;> simp [hw]
  unfold remaining
  rw [herase, ← List.sum_cons, ← List.map_cons (f := fun u => (succ u).count v)]
  exact ((List.perm_cons_erase hmem).map _).sum_eq

/-- The loop invariant: the in-degrees are what the vertices still to come
contribute, and the vertices that left or wait in the queue are those without
any. -/
structure Inv (vertices : List α) (succ : α → List α) (queue : List α) (s : State α) :
    Prop where
  nodup : (s.order ++ queue).Nodup
  degree : ∀ v ∈ vertices, s.inDegree v = remaining vertices succ s.order v
  due : ∀ v, v ∈ s.order ++ queue ↔ v ∈ vertices ∧ s.inDegree v = 0
  sorted : Sorted vertices succ s.order

/-- The predecessors of a vertex without remaining in-degree have all left. -/
theorem Inv.preds {vertices : List α} {succ : α → List α} {queue : List α} {s : State α}
    (h : Inv vertices succ queue s) {v : α} (hv : v ∈ vertices) (hzero : s.inDegree v = 0) :
    ∀ u ∈ vertices, v ∈ succ u → u ∈ s.order := by
  intro u hu hsucc
  by_contra hnot
  have hdegree := h.degree v hv
  have hterm : (succ u).count v ≤ remaining vertices succ s.order v :=
    List.single_le_sum (fun _ _ => Nat.zero_le _) _
      (List.mem_map.2 ⟨u, List.mem_filter.2 ⟨hu, by simpa using hnot⟩, rfl⟩)
  have hpos : 0 < (succ u).count v := List.count_pos_iff.2 hsucc
  omega

/-- One round keeps the invariant. -/
theorem Inv.visit {vertices : List α} {succ : α → List α} {queue : List α} {s : State α}
    {v : α} (hnodup : vertices.Nodup) (hclosed : ∀ u ∈ vertices, ∀ w ∈ succ u, w ∈ vertices)
    (h : Inv vertices succ (v :: queue) s) :
    Inv vertices succ (queue ++ (Kahn.visit succ v s).2) (Kahn.visit succ v s).1 := by
  obtain ⟨due, hvisit, hdueNodup, hdue⟩ := visit_cases succ v s
  have hv : v ∈ vertices ∧ s.inDegree v = 0 := (h.due v).1 (by simp)
  have hvnot : v ∉ s.order := by
    intro hmem
    exact (List.nodup_append.1 h.nodup).2.2 v hmem v List.mem_cons_self rfl
  have hsplit : ∀ w ∈ vertices, s.inDegree w
      = (succ v).count w + remaining vertices succ (s.order ++ [v]) w := by
    intro w hw
    rw [h.degree w hw, remaining_concat hnodup hv.1 hvnot w]
    push_cast
    rfl
  have hdueOld : ∀ w, w ∈ due → w ∉ s.order ++ v :: queue := by
    intro w hw hmem
    have := ((h.due w).1 hmem).2
    have := ((hdue w).1 hw).1
    omega
  rw [hvisit]
  have hassoc : s.order ++ [v] ++ (queue ++ due) = (s.order ++ v :: queue) ++ due := by simp
  refine ⟨?_, ?_, ?_, ?_⟩
  · rw [hassoc]
    refine List.nodup_append.2 ⟨h.nodup, hdueNodup, ?_⟩
    rintro a ha b hb rfl
    exact hdueOld a hb ha
  · intro w hw
    have := hsplit w hw
    simp only
    omega
  · intro w
    rw [hassoc, List.mem_append, h.due, hdue]
    simp only
    constructor
    · rintro (⟨hw, hzero⟩ | ⟨hpos, hle⟩)
      · have := hsplit w hw
        exact ⟨hw, by omega⟩
      · have hw : w ∈ vertices := hclosed v hv.1 w (List.count_pos_iff.1 (by omega))
        have := hsplit w hw
        exact ⟨hw, by omega⟩
    · rintro ⟨hw, hzero⟩
      have := hsplit w hw
      by_cases hold : s.inDegree w = 0
      · exact Or.inl ⟨hw, hold⟩
      · exact Or.inr ⟨by omega, by omega⟩
  · exact h.sorted.concat (h.preds hv.1 hv.2)

/-- The vertices that can still become due; each pays for its turn. -/
private def positive (vertices : List α) (s : State α) : List α :=
  vertices.filter (fun v => 0 < s.inDegree v)

private theorem positive_visit {vertices : List α} {succ : α → List α} {v : α} (s : State α)
    (hnodup : vertices.Nodup) (hclosed : ∀ u ∈ vertices, ∀ w ∈ succ u, w ∈ vertices)
    (hv : v ∈ vertices) :
    (visit succ v s).2.length + (positive vertices (visit succ v s).1).length ≤
      (positive vertices s).length := by
  obtain ⟨due, hvisit, hdueNodup, hdue⟩ := visit_cases succ v s
  rw [hvisit, ← List.length_append]
  apply List.Subperm.length_le
  apply List.subperm_of_subset
  · refine List.nodup_append.2 ⟨hdueNodup, hnodup.filter _, ?_⟩
    rintro a ha b hb rfl
    have hle := ((hdue a).1 ha).2
    have hpos := of_decide_eq_true (List.mem_filter.1 hb).2
    dsimp only at hpos
    omega
  · intro w hw
    apply List.mem_filter.2
    rcases List.mem_append.1 hw with hnew | hold
    · obtain ⟨hpos, hle⟩ := (hdue w).1 hnew
      have hmem : w ∈ succ v := List.count_pos_iff.1 (by omega)
      exact ⟨hclosed v hv w hmem, decide_eq_true hpos⟩
    · obtain ⟨hmem, hpos⟩ := List.mem_filter.1 hold
      have hpos := of_decide_eq_true hpos
      dsimp only at hpos
      exact ⟨hmem, decide_eq_true (by omega)⟩

omit [DecidableEq α] in
/-- The queue that the loop starts with leaves enough rounds. -/
private theorem length_due_add_positive {vertices : List α} (hnodup : vertices.Nodup)
    (s : State α) :
    (vertices.filter (fun v => s.inDegree v = 0)).length + (positive vertices s).length ≤
      vertices.length := by
  rw [← List.length_append]
  apply List.Subperm.length_le
  apply List.subperm_of_subset
  · refine List.nodup_append.2 ⟨hnodup.filter _, hnodup.filter _, ?_⟩
    rintro a ha b hb rfl
    have hzero := of_decide_eq_true (List.mem_filter.1 ha).2
    have hpos := of_decide_eq_true (List.mem_filter.1 hb).2
    omega
  · intro w hw
    rcases List.mem_append.1 hw with hzero | hpos
    · exact List.mem_of_mem_filter hzero
    · exact List.mem_of_mem_filter hpos

section Result

variable {vertices : List α} {inDegree : α → Int} {succ : α → List α}

/-- In-degrees that agree with the successor lists. -/
def Counts (vertices : List α) (inDegree : α → Int) (succ : α → List α) : Prop :=
  ∀ v ∈ vertices, inDegree v = ((vertices.map (fun u => (succ u).count v)).sum : Nat)

/-- The loop ends with an empty queue, and the invariant says what was
returned. -/
theorem run_inv (hnodup : vertices.Nodup)
    (hclosed : ∀ u ∈ vertices, ∀ w ∈ succ u, w ∈ vertices)
    (hcounts : Counts vertices inDegree succ) :
    ∃ s, Inv vertices succ [] s ∧ s.order = run vertices inDegree succ := by
  refine ⟨_, ?_, rfl⟩
  refine Worklist.drain_induction (μ := fun s => (positive vertices s).length)
    (fun v queue s h => positive_visit s hnodup hclosed ((h.due v).1 (by simp)).1)
    (fun v queue s h => h.visit hnodup hclosed) _ _ _ ?_ ?_
  · exact length_due_add_positive hnodup { inDegree, order := [] }
  · refine ⟨by simpa using hnodup.filter _, ?_, by simp, ?_⟩
    · intro v hv
      simpa [remaining] using hcounts v hv
    · exact Prefixwise.nil

/-- Every vertex of the result is a vertex of the graph, once, after all of
its predecessors. -/
theorem run_sorted (hnodup : vertices.Nodup)
    (hclosed : ∀ u ∈ vertices, ∀ w ∈ succ u, w ∈ vertices)
    (hcounts : Counts vertices inDegree succ) :
    (run vertices inDegree succ).Nodup ∧ (∀ v ∈ run vertices inDegree succ, v ∈ vertices) ∧
      Sorted vertices succ (run vertices inDegree succ) := by
  obtain ⟨s, hs, horder⟩ := run_inv hnodup hclosed hcounts
  rw [← horder]
  have hdue := hs.due
  simp only [List.append_nil] at hdue
  exact ⟨by simpa using hs.nodup, fun v hv => ((hdue v).1 hv).1, hs.sorted⟩

/-- When every vertex leaves the queue, the position in the result grows along
every edge. -/
theorem rank_lt (hnodup : vertices.Nodup)
    (hclosed : ∀ u ∈ vertices, ∀ w ∈ succ u, w ∈ vertices)
    (hcounts : Counts vertices inDegree succ)
    (hall : (run vertices inDegree succ).length = vertices.length)
    {u v : α} (hu : u ∈ vertices) (hv : v ∈ succ u) :
    (run vertices inDegree succ).idxOf u < (run vertices inDegree succ).idxOf v := by
  obtain ⟨hrunNodup, hsub, hsorted⟩ := run_sorted hnodup hclosed hcounts
  have hperm : (run vertices inDegree succ).Perm vertices :=
    (List.subperm_of_subset hrunNodup hsub).perm_of_length_le hall.ge
  have hvmem : v ∈ run vertices inDegree succ := hperm.mem_iff.2 (hclosed u hu v hv)
  obtain ⟨pre, post, hsplit⟩ := List.append_of_mem hvmem
  have hupre : u ∈ pre := hsorted pre v post hsplit u hu hv
  have hvpre : v ∉ pre := by
    intro hmem
    rw [hsplit] at hrunNodup
    exact (List.nodup_append.1 hrunNodup).2.2 v hmem v List.mem_cons_self rfl
  rw [hsplit, List.idxOf_append_of_mem hupre, List.idxOf_append_of_notMem hvpre,
    List.idxOf_cons_self]
  exact Nat.lt_of_lt_of_le (List.idxOf_lt_length_iff.2 hupre) (Nat.le_add_right _ _)

/-- In a graph with a rank every vertex leaves the queue. -/
theorem mem_run_of_rank (hnodup : vertices.Nodup)
    (hclosed : ∀ u ∈ vertices, ∀ w ∈ succ u, w ∈ vertices)
    (hcounts : Counts vertices inDegree succ) {rank : α → Nat}
    (hrank : ∀ u ∈ vertices, ∀ v ∈ succ u, rank u < rank v) {v : α} (hv : v ∈ vertices) :
    v ∈ run vertices inDegree succ := by
  obtain ⟨s, hs, horder⟩ := run_inv hnodup hclosed hcounts
  rw [← horder]
  have hdue := hs.due
  simp only [List.append_nil] at hdue
  induction hbound : rank v using Nat.strongRecOn generalizing v with
  | ind bound ih =>
    rw [hdue, hs.degree v hv]
    refine ⟨hv, ?_⟩
    have hnone : remaining vertices succ s.order v = 0 := by
      apply List.sum_eq_zero
      intro n hn
      obtain ⟨u, hu, rfl⟩ := List.mem_map.1 hn
      obtain ⟨hmem, hnot⟩ := List.mem_filter.1 hu
      rw [List.count_eq_zero]
      intro hsucc
      have hlt := hrank u hmem v hsucc
      exact absurd (ih (rank u) (by omega) hmem rfl) (by simpa using hnot)
    rw [hnone]
    rfl

/-- Every vertex leaves the queue exactly if the graph has a rank. -/
theorem run_perm_iff (hnodup : vertices.Nodup)
    (hclosed : ∀ u ∈ vertices, ∀ w ∈ succ u, w ∈ vertices)
    (hcounts : Counts vertices inDegree succ) :
    (run vertices inDegree succ).Perm vertices ↔
      ∃ rank : α → Nat, ∀ u ∈ vertices, ∀ v ∈ succ u, rank u < rank v := by
  constructor
  · intro hperm
    refine ⟨(run vertices inDegree succ).idxOf, ?_⟩
    intro u hu v hv
    exact rank_lt hnodup hclosed hcounts hperm.length_eq hu hv
  · rintro ⟨rank, hrank⟩
    obtain ⟨hrunNodup, hsub, -⟩ := run_sorted hnodup hclosed hcounts
    apply (List.perm_ext_iff_of_nodup hrunNodup hnodup).2
    intro v
    exact ⟨hsub v, mem_run_of_rank hnodup hclosed hcounts hrank⟩

end Result

/-! ## In-degrees that count something else -/

/-- What the loop keeps whatever the in-degrees are: a vertex is due once, when
its in-degree has been used up. -/
structure Loose (vertices : List α) (inDegree : α → Int) (succ : α → List α) (queue : List α)
    (s : State α) : Prop where
  nodup : (s.order ++ queue).Nodup
  due : ∀ v ∈ s.order ++ queue, v ∈ vertices ∧ s.inDegree v ≤ 0
  degree : ∀ v, s.inDegree v = inDegree v - ((s.order.map (fun u => (succ u).count v)).sum : Nat)

section Loose

variable {vertices : List α} {inDegree : α → Int} {succ : α → List α} {queue : List α}
  {s : State α} {v : α}

theorem Loose.visit (hclosed : ∀ u ∈ vertices, ∀ w ∈ succ u, w ∈ vertices)
    (h : Loose vertices inDegree succ (v :: queue) s) :
    Loose vertices inDegree succ (queue ++ (Kahn.visit succ v s).2) (Kahn.visit succ v s).1 := by
  obtain ⟨due, hvisit, hnodup, hdue⟩ := visit_cases succ v s
  have hv : v ∈ vertices := (h.due v (by simp)).1
  have hassoc : s.order ++ [v] ++ (queue ++ due) = (s.order ++ v :: queue) ++ due := by simp
  rw [hvisit]
  refine ⟨?_, ?_, ?_⟩
  · rw [hassoc]
    refine List.nodup_append.2 ⟨h.nodup, hnodup, ?_⟩
    rintro a ha b hb rfl
    have hold := (h.due a ha).2
    have hnew := ((hdue a).1 hb).1
    omega
  · intro w hw
    rw [hassoc] at hw
    rcases List.mem_append.1 hw with hold | hnew
    · obtain ⟨hmem, hle⟩ := h.due w hold
      refine ⟨hmem, ?_⟩
      dsimp only
      omega
    · obtain ⟨hpos, hle⟩ := (hdue w).1 hnew
      have hmem : w ∈ succ v := List.count_pos_iff.1 (by omega)
      refine ⟨hclosed v hv w hmem, ?_⟩
      dsimp only
      omega
  · intro w
    dsimp only
    rw [h.degree w, List.map_append, List.sum_append]
    simp only [List.map_cons, List.map_nil, List.sum_cons, List.sum_nil, Nat.add_zero]
    push_cast
    omega

/-- The loop ends with an empty queue whatever the in-degrees are. -/
theorem run_loose (hnodup : vertices.Nodup)
    (hclosed : ∀ u ∈ vertices, ∀ w ∈ succ u, w ∈ vertices) (inDegree : α → Int) :
    ∃ s, Loose vertices inDegree succ [] s ∧ s.order = run vertices inDegree succ := by
  refine ⟨_, ?_, rfl⟩
  refine Worklist.drain_induction (μ := fun s => (positive vertices s).length)
    (fun v queue s h => positive_visit s hnodup hclosed (h.due v (by simp)).1)
    (fun v queue s h => h.visit hclosed) _ _ _ ?_ ?_
  · exact length_due_add_positive hnodup { inDegree, order := [] }
  · refine ⟨by simpa using hnodup.filter _, ?_, by simp⟩
    intro w hw
    obtain ⟨hmem, hzero⟩ := List.mem_filter.1 hw
    have hzero := of_decide_eq_true hzero
    exact ⟨hmem, by dsimp only; omega⟩

/-- A vertex leaves the queue only if the edges pay for its in-degree. -/
theorem inDegree_le_of_mem_run (hnodup : vertices.Nodup)
    (hclosed : ∀ u ∈ vertices, ∀ w ∈ succ u, w ∈ vertices) (h : v ∈ run vertices inDegree succ) :
    inDegree v ≤ ((vertices.map (fun u => (succ u).count v)).sum : Nat) := by
  obtain ⟨s, hs, horder⟩ := run_loose hnodup hclosed inDegree
  rw [← horder] at h
  have hdue := hs.due v (by simpa using h)
  have hdegree := hs.degree v
  have hsubset : s.order ⊆ vertices := fun w hw => (hs.due w (by simpa using hw)).1
  have hsum : (s.order.map (fun u => (succ u).count v)).sum ≤
      (vertices.map (fun u => (succ u).count v)).sum := by
    obtain ⟨list, hperm, hsub⟩ := List.subperm_of_subset
      (by simpa using hs.nodup : s.order.Nodup) hsubset
    rw [← (hperm.map _).sum_eq]
    exact (hsub.map _).sum_le_sum (fun _ _ => Nat.zero_le _)
  omega

end Loose

end Kahn
