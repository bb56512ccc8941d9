import Mathlib.Data.List.Chain
import Mathlib.Data.List.MinMax
import MassClaw.Lib.Kahn

/-!
# Longest paths in topological order

The dynamic program over a graph whose vertices come in topological order.
Every vertex has a label: the length of the longest path to it that has been
found, and the vertex in front of it on that path.  Each vertex in turn raises
the labels of its successors, and the path is read off backwards from the first
vertex with the greatest distance.

The labels are a dictionary over the vertices of the order; a vertex that it
lacks is the error of the lookup.

`run_longest` is the result.  It needs no comparison of paths: at the end the
distances grow along every edge, and by one along the recorded ones (`Tight`),
so no path is longer than the greatest distance allows.
-/

namespace LongestPath

universe u

variable {α : Type u} [DecidableEq α]

/-- What is known of a vertex. -/
structure Label (α : Type u) where
  distance : Nat := 0
  predecessor : Option α := none

/-- The labels of the vertices that have one. -/
abbrev Labels (α : Type u) := α → Option (Label α)

/-- The label of a child, when the path over its parent is longer. -/
def raise (parent : α) (distance : Nat) (old : Label α) : Label α :=
  if old.distance < distance + 1 then { distance := distance + 1, predecessor := some parent }
  else old

/-- One edge: the label of the child is compared with that of its parent. -/
def relaxEdge (parent : α) (labels : Labels α) (child : α) : Option (Labels α) :=
  match labels child, labels parent with
  | some old, some start =>
    some (Function.update labels child (some (raise parent start.distance old)))
  | _, _ => none

/-- All edges of a vertex. -/
def relax (succ : α → List α) (labels : Labels α) (parent : α) : Option (Labels α) :=
  (succ parent).foldlM (relaxEdge parent) labels

/-- The labels before the first edge. -/
def start (order : List α) : Labels α := fun v => if v ∈ order then some {} else none

/-- The labels after the last edge. -/
def label (order : List α) (succ : α → List α) : Option (Labels α) :=
  order.foldlM (relax succ) (start order)

/-- The recorded path to a vertex, backwards. -/
def trace (labels : Labels α) : Nat → Option α → Option (List α)
  | _, none => some []
  | 0, some _ => none
  | fuel + 1, some v => do
    let found ← labels v
    let front ← trace labels fuel found.predecessor
    return v :: front

/-- The distance of a vertex. -/
def distance (labels : Labels α) (v : α) : Nat := ((labels v).map Label.distance).getD 0

/-- The path that ends in the first vertex with the greatest distance. -/
def run (order : List α) (succ : α → List α) : Option (List α) := do
  let labels ← label order succ
  let last ← order.argmax (distance labels)
  let path ← trace labels (order.length + 1) (some last)
  return path.reverse

/-! ## One vertex -/

/-- The labels after all edges of a vertex. -/
def raiseAll (children : List α) (parent : α) (distance : Nat) (labels : Labels α) : Labels α :=
  fun v => if v ∈ children then (labels v).map (raise parent distance) else labels v

omit [DecidableEq α] in
theorem raise_idem (parent : α) (distance : Nat) (old : Label α) :
    raise parent distance (raise parent distance old) = raise parent distance old := by
  by_cases hless : old.distance < distance + 1
  · simp [raise, hless]
  · simp [raise, hless]

omit [DecidableEq α] in
theorem distance_eq {labels : Labels α} {v : α} {found : Label α} (h : labels v = some found) :
    distance labels v = found.distance := by
  rw [distance, h]
  rfl

section Raised

variable {children : List α} {parent v : α} {d : Nat} {labels : Labels α}

theorem isSome_raiseAll : (raiseAll children parent d labels v).isSome = (labels v).isSome := by
  unfold raiseAll
  split
  · rw [Option.isSome_map]
  · rfl

theorem raiseAll_of_not_mem (h : v ∉ children) :
    raiseAll children parent d labels v = labels v := if_neg h

/-- A label is the old one, or that of the new path. -/
theorem raiseAll_eq_some {found : Label α} (h : raiseAll children parent d labels v = some found) :
    labels v = some found ∨
      v ∈ children ∧ found = { distance := d + 1, predecessor := some parent } := by
  by_cases hchild : v ∈ children
  · rw [raiseAll, if_pos hchild] at h
    obtain ⟨old, hold, rfl⟩ := Option.map_eq_some_iff.1 h
    by_cases hless : old.distance < d + 1
    · exact Or.inr ⟨hchild, by rw [raise, if_pos hless]⟩
    · exact Or.inl (by rw [raise, if_neg hless, hold])
  · rw [raiseAll_of_not_mem hchild] at h
    exact Or.inl h

theorem distance_le_raiseAll :
    distance labels v ≤ distance (raiseAll children parent d labels) v := by
  by_cases hchild : v ∈ children
  · unfold distance raiseAll
    rw [if_pos hchild]
    cases labels v with
    | none => simp
    | some old =>
      show old.distance ≤ (raise parent d old).distance
      unfold raise
      split
      · dsimp only
        omega
      · omega
  · rw [distance, distance, raiseAll_of_not_mem hchild]

/-- A successor is at least one further away. -/
theorem lt_distance_raiseAll (hchild : v ∈ children) (hv : (labels v).isSome) :
    d < distance (raiseAll children parent d labels) v := by
  obtain ⟨old, hold⟩ := Option.isSome_iff_exists.1 hv
  have hraised : raiseAll children parent d labels v = some (raise parent d old) := by
    rw [raiseAll, if_pos hchild, hold]
    rfl
  rw [distance_eq hraised]
  unfold raise
  split
  · dsimp only
    omega
  · omega

end Raised

/-- A vertex raises the labels of its successors, which have labels. -/
theorem foldlM_relaxEdge {parent : α} {cs : List α} {labels : Labels α} {own : Label α}
    (hparent : labels parent = some own) (hnot : parent ∉ cs)
    (hknown : ∀ c ∈ cs, (labels c).isSome) :
    cs.foldlM (relaxEdge parent) labels = some (raiseAll cs parent own.distance labels) := by
  induction cs generalizing labels with
  | nil =>
    have hnil : raiseAll [] parent own.distance labels = labels :=
      funext (fun v => raiseAll_of_not_mem List.not_mem_nil)
    rw [hnil]
    rfl
  | cons c cs ih =>
    obtain ⟨old, hold⟩ := Option.isSome_iff_exists.1 (hknown c List.mem_cons_self)
    have hne : parent ≠ c := fun heq => hnot (heq ▸ List.mem_cons_self)
    have hedge : relaxEdge parent labels c =
        some (Function.update labels c (some (raise parent own.distance old))) := by
      rw [relaxEdge, hold, hparent]
    rw [List.foldlM_cons, hedge]
    show cs.foldlM (relaxEdge parent) _ = _
    rw [ih]
    · congr 1
      funext v
      unfold raiseAll
      by_cases hv : v = c
      · subst hv
        simp [hold, raise_idem]
      · simp [hv]
    · rw [Function.update_of_ne hne, hparent]
    · exact fun hmem => hnot (List.mem_cons_of_mem _ hmem)
    · intro other hother
      by_cases hv : other = c
      · subst hv
        simp
      · rw [Function.update_of_ne hv]
        exact hknown other (List.mem_cons_of_mem _ hother)

/-! ## All vertices -/

/-- The labels after the edges of some vertices: the distance is that of the
recorded path, and no path over these vertices is longer. -/
structure Tight (order : List α) (succ : α → List α) (done : List α) (labels : Labels α) :
    Prop where
  known : ∀ v, (labels v).isSome ↔ v ∈ order
  bound : ∀ v found, labels v = some found → found.distance ≤ done.length
  root : ∀ v found, labels v = some found → found.predecessor = none → found.distance = 0
  step : ∀ v found u, labels v = some found → found.predecessor = some u →
    u ∈ done ∧ v ∈ succ u ∧ found.distance = distance labels u + 1
  grown : ∀ u ∈ done, ∀ v ∈ succ u, distance labels u < distance labels v

section Order

variable {order : List α} {succ : α → List α} {labels : Labels α} {done rest : List α} {v : α}

theorem tight_start (order : List α) (succ : α → List α) : Tight order succ [] (start order) where
  known := by
    intro v
    unfold start
    split <;> simp_all
  bound := by
    intro v found hfound
    unfold start at hfound
    split at hfound
    · cases hfound
      exact Nat.le_refl 0
    · cases hfound
  root := by
    intro v found hfound _
    unfold start at hfound
    split at hfound
    · cases hfound
      rfl
    · cases hfound
  step := by
    intro v found u hfound hpredecessor
    unfold start at hfound
    split at hfound
    · cases hfound
      cases hpredecessor
    · cases hfound
  grown := by
    intro u hu
    cases hu

/-- The next vertex of the order: its edges lead to vertices behind it, so the
labels of the vertices in front of them stay. -/
theorem Tight.relax {parent : α} (h : Tight order succ done labels)
    (hsplit : order = done ++ parent :: rest) (hnodup : order.Nodup)
    (hclosed : ∀ u ∈ order, ∀ w ∈ succ u, w ∈ order)
    (hsorted : Kahn.Sorted order succ order) :
    ∃ next, relax succ labels parent = some next ∧ Tight order succ (done ++ [parent]) next := by
  have hmem : parent ∈ order := by simp [hsplit]
  obtain ⟨own, hown⟩ := Option.isSome_iff_exists.1 ((h.known parent).2 hmem)
  have hfresh : parent ∉ done := by
    intro hold
    rw [hsplit] at hnodup
    exact (List.nodup_append.1 hnodup).2.2 parent hold parent List.mem_cons_self rfl
  -- no edge leads back
  have hback : ∀ u ∈ done ++ [parent], u ∉ succ parent := by
    intro u hu hchild
    rcases List.mem_append.1 hu with hold | hself
    · obtain ⟨front, back, rfl⟩ := List.append_of_mem hold
      have hfront := hsorted front u (back ++ parent :: rest) (by simp [hsplit]) parent hmem hchild
      exact hfresh (List.mem_append_left _ hfront)
    · obtain rfl := List.mem_singleton.1 hself
      exact hfresh (hsorted done u rest hsplit u hmem hchild)
  have hrelax : LongestPath.relax succ labels parent =
      some (raiseAll (succ parent) parent own.distance labels) :=
    foldlM_relaxEdge hown (hback parent (by simp))
      (fun c hc => (h.known c).2 (hclosed parent hmem c hc))
  have hkept : ∀ u ∈ done ++ [parent],
      distance (raiseAll (succ parent) parent own.distance labels) u = distance labels u := by
    intro u hu
    rw [distance, distance, raiseAll_of_not_mem (hback u hu)]
  refine ⟨_, hrelax, ?_, ?_, ?_, ?_, ?_⟩
  · intro v
    rw [isSome_raiseAll]
    exact h.known v
  · intro v found hfound
    rw [List.length_append, List.length_singleton]
    have hown := h.bound parent own hown
    rcases raiseAll_eq_some hfound with hold | ⟨-, rfl⟩
    · have hbound := h.bound v found hold
      omega
    · dsimp only
      omega
  · intro v found hfound hnone
    rcases raiseAll_eq_some hfound with hold | ⟨-, rfl⟩
    · exact h.root v found hold hnone
    · cases hnone
  · intro v found u hfound hpredecessor
    rcases raiseAll_eq_some hfound with hold | ⟨hchild, rfl⟩
    · obtain ⟨hdone, hchild, hstep⟩ := h.step v found u hold hpredecessor
      have hu : u ∈ done ++ [parent] := List.mem_append_left _ hdone
      rw [hkept u hu]
      exact ⟨hu, hchild, hstep⟩
    · cases hpredecessor
      refine ⟨by simp, hchild, ?_⟩
      rw [hkept parent (by simp), distance_eq hown]
  · intro u hu v hv
    rw [hkept u hu]
    rcases List.mem_append.1 hu with hold | hself
    · exact Nat.lt_of_lt_of_le (h.grown u hold v hv) distance_le_raiseAll
    · rw [List.mem_singleton.1 hself] at hv ⊢
      rw [distance_eq hown]
      exact lt_distance_raiseAll hv ((h.known v).2 (hclosed parent hmem v hv))

/-- The labels after the last edge. -/
theorem label_tight (hnodup : order.Nodup) (hclosed : ∀ u ∈ order, ∀ w ∈ succ u, w ∈ order)
    (hsorted : Kahn.Sorted order succ order) :
    ∃ labels, label order succ = some labels ∧ Tight order succ order labels := by
  have hrest : ∀ (rest done : List α) (labels : Labels α), order = done ++ rest →
      Tight order succ done labels →
      ∃ next, rest.foldlM (relax succ) labels = some next ∧ Tight order succ order next := by
    intro rest
    induction rest with
    | nil =>
      intro done labels hsplit h
      rw [List.append_nil] at hsplit
      exact ⟨labels, rfl, hsplit ▸ h⟩
    | cons parent rest ih =>
      intro done labels hsplit h
      obtain ⟨next, hrelax, hnext⟩ := h.relax hsplit hnodup hclosed hsorted
      rw [List.foldlM_cons, hrelax]
      exact ih (done ++ [parent]) next (by rw [hsplit, List.append_assoc, List.singleton_append])
        hnext
  exact hrest order [] (start order) rfl (tight_start order succ)

/-! ## The path -/

/-- A path over vertices of the order. -/
def IsPath (order : List α) (succ : α → List α) (path : List α) : Prop :=
  (∀ v ∈ path, v ∈ order) ∧ path.IsChain (fun u v => v ∈ succ u)

omit [DecidableEq α] in
/-- The recorded path, with one vertex more than its distance, begins in a vertex
without a recorded predecessor. -/
theorem Tight.trace (h : Tight order succ order labels) {fuel : Nat} (hv : v ∈ order)
    (hfuel : distance labels v < fuel) :
    ∃ path first, LongestPath.trace labels fuel (some v) = some (path ++ [first]) ∧
      (path ++ [first]).length = distance labels v + 1 ∧
      (path ++ [first]).head? = some v ∧ (∀ w ∈ path ++ [first], w ∈ order) ∧
      (path ++ [first]).IsChain (fun w u => w ∈ succ u) ∧ distance labels first = 0 := by
  induction fuel generalizing v with
  | zero => omega
  | succ fuel ih =>
    obtain ⟨found, hfound⟩ := Option.isSome_iff_exists.1 ((h.known v).2 hv)
    have hdistance := distance_eq hfound
    cases hpredecessor : found.predecessor with
    | none =>
      have hzero := h.root v found hfound hpredecessor
      refine ⟨[], v, ?_, ?_, rfl, ?_, by simp, by omega⟩
      · simp [LongestPath.trace, hfound, hpredecessor]
      · simp only [List.nil_append, List.length_singleton]
        omega
      · intro w hw
        obtain rfl : w = v := by simpa using hw
        exact hv
    | some u =>
      obtain ⟨hu, hchild, hstep⟩ := h.step v found u hfound hpredecessor
      obtain ⟨path, first, htrace, hlength, hhead, hmem, hchain, hzero⟩ := ih hu (by omega)
      refine ⟨v :: path, first, ?_, ?_, rfl, ?_, ?_, hzero⟩
      · simp [LongestPath.trace, hfound, hpredecessor, htrace]
      · rw [List.cons_append, List.length_cons, hlength]
        omega
      · intro w hw
        rcases List.mem_cons.1 hw with rfl | hw
        · exact hv
        · exact hmem w hw
      · rw [List.cons_append, List.isChain_cons]
        refine ⟨?_, hchain⟩
        intro w hw
        rw [hhead] at hw
        cases hw
        exact hchild

omit [DecidableEq α] in
/-- Along a path the distance grows at least by one. -/
theorem Tight.length_le (h : Tight order succ order labels) {path : List α}
    (hpath : IsPath order succ path) {last : α} (hlast : last ∈ path.getLast?) :
    path.length ≤ distance labels last + 1 := by
  obtain ⟨hmem, hchain⟩ := hpath
  induction path using List.reverseRecOn generalizing last with
  | nil => cases hlast
  | append_singleton front v ih =>
    obtain rfl : v = last := by simpa using hlast
    rcases List.eq_nil_or_concat' front with rfl | ⟨before, u, rfl⟩
    · simp
    · obtain ⟨hfront, -, hedges⟩ := List.isChain_append.1 hchain
      have hedge : v ∈ succ u := hedges u (by simp) v (by simp)
      have hu : u ∈ order := hmem u (by simp)
      have hend : u ∈ (before ++ [u]).getLast? := by simp
      have hshort := ih hend (fun w hw => hmem w (List.mem_append_left _ hw)) hfront
      have hgrown := h.grown u hu v hedge
      rw [List.length_append, List.length_singleton]
      omega

/-- The result is a path that begins in a vertex without predecessors, and no
path is longer. -/
theorem run_longest (hne : order ≠ []) (hnodup : order.Nodup)
    (hclosed : ∀ u ∈ order, ∀ w ∈ succ u, w ∈ order) (hsorted : Kahn.Sorted order succ order) :
    ∃ first path, run order succ = some (first :: path) ∧ IsPath order succ (first :: path) ∧
      (∀ u ∈ order, first ∉ succ u) ∧
      ∀ other, IsPath order succ other → other.length ≤ (first :: path).length := by
  obtain ⟨labels, hlabel, htight⟩ := label_tight hnodup hclosed hsorted
  obtain ⟨last, hlast⟩ : ∃ last, order.argmax (distance labels) = some last := by
    cases hmax : order.argmax (distance labels) with
    | none => exact absurd (List.argmax_eq_none.1 hmax) hne
    | some last => exact ⟨last, rfl⟩
  have hlastMem : last ∈ order := List.argmax_mem hlast
  obtain ⟨found, hfound⟩ := Option.isSome_iff_exists.1 ((htight.known last).2 hlastMem)
  have hbound := htight.bound last found hfound
  rw [← distance_eq hfound] at hbound
  obtain ⟨back, first, htrace, hlength, -, hmem, hchain, hzero⟩ :=
    htight.trace hlastMem (Nat.lt_succ_of_le hbound)
  have hreverse : (back ++ [first]).reverse = first :: back.reverse := by simp
  refine ⟨first, back.reverse, ?_, ⟨?_, ?_⟩, ?_, ?_⟩
  · simp [run, hlabel, hlast, htrace]
  · intro v hv
    rw [← hreverse, List.mem_reverse] at hv
    exact hmem v hv
  · rw [← hreverse, List.isChain_reverse]
    exact hchain
  · intro u hu hchild
    have hgrown := htight.grown u hu first hchild
    omega
  · intro other hother
    rw [← hreverse, List.length_reverse, hlength]
    cases hend : other.getLast? with
    | none =>
      rw [List.getLast?_eq_none_iff] at hend
      rw [hend]
      simp
    | some v =>
      have hle := htight.length_le hother hend
      have hv : v ∈ order := hother.1 v (List.mem_of_getLast? hend)
      have hmax := List.le_of_mem_argmax hv hlast
      omega

end Order

end LongestPath
