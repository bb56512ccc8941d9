import Mathlib.Data.List.Basic

/-!
# Conjunctions and disjunctions that stop early

`all` stops at the first item that does not hold, `any` at the first that does.
When the evaluation of an item can fail, the whole fails only on an item that is
reached: one with no item before it that settles the verdict.

Nothing here mentions a particular program.
-/

namespace ShortCircuit

universe u v

variable {α : Type u} {ε : Type v}

/-- Evaluates the items until one has the verdict that settles the whole. -/
def run (eval : α → Except ε Bool) (settles : Bool) : List α → Except ε Bool
  | [] => .ok !settles
  | item :: rest =>
    match eval item with
    | .error error => .error error
    | .ok verdict => if verdict = settles then .ok settles else run eval settles rest

/-- No item before this one settles the verdict. -/
def Reached (meaning : α → Bool) (settles : Bool) (items : List α) (item : α) : Prop :=
  ∃ earlier later, items = earlier ++ item :: later ∧ ∀ other ∈ earlier, meaning other ≠ settles

/-- The evaluation returns on the items that are fine, and what it returns is the
meaning. -/
structure Faithful (eval : α → Except ε Bool) (meaning : α → Bool) (fine : α → Prop)
    (item : α) : Prop where
  sound : ∀ verdict, eval item = .ok verdict → verdict = meaning item
  returns : (∃ verdict, eval item = .ok verdict) ↔ fine item

variable {eval : α → Except ε Bool} {meaning : α → Bool} {fine : α → Prop} {settles : Bool}

/-- On a fine item the evaluation returns the meaning. -/
theorem Faithful.eval_eq {item : α} (h : Faithful eval meaning fine item) (hfine : fine item) :
    eval item = .ok (meaning item) := by
  obtain ⟨verdict, hverdict⟩ := h.returns.2 hfine
  rw [hverdict, h.sound verdict hverdict]

theorem reached_head (item : α) (rest : List α) : Reached meaning settles (item :: rest) item :=
  ⟨[], rest, rfl, by simp⟩

theorem reached_cons_iff {first item : α} {rest : List α} :
    Reached meaning settles (first :: rest) item ↔
      item = first ∨ meaning first ≠ settles ∧ Reached meaning settles rest item := by
  constructor
  · intro ⟨earlier, later, hsplit, hearlier⟩
    cases earlier with
    | nil => exact Or.inl (List.cons.inj hsplit).1.symm
    | cons other earlier =>
      obtain ⟨rfl, hrest⟩ := List.cons.inj hsplit
      exact Or.inr ⟨hearlier first List.mem_cons_self, earlier, later, hrest,
        fun other hother => hearlier other (List.mem_cons_of_mem _ hother)⟩
  · intro h
    rcases h with rfl | ⟨hfirst, earlier, later, rfl, hearlier⟩
    · exact reached_head item rest
    · refine ⟨first :: earlier, later, rfl, ?_⟩
      intro other hother
      rcases List.mem_cons.1 hother with rfl | hother
      · exact hfirst
      · exact hearlier other hother

/-- What is returned is the meaning of the whole. -/
theorem run_sound {items : List α} (h : ∀ item ∈ items, Faithful eval meaning fine item)
    {verdict : Bool} (hrun : run eval settles items = .ok verdict) :
    verdict = if settles ∈ items.map meaning then settles else !settles := by
  induction items with
  | nil =>
    cases hrun
    rfl
  | cons item rest ih =>
    unfold run at hrun
    cases heval : eval item with
    | error error =>
      rw [heval] at hrun
      cases hrun
    | ok found =>
      rw [heval] at hrun
      have hfound := (h item List.mem_cons_self).sound found heval
      subst hfound
      dsimp only at hrun
      rw [List.map_cons]
      split at hrun
      · rename_i hsettles
        cases hrun
        rw [if_pos (by simp [hsettles])]
      · rename_i hsettles
        have hrest := ih (fun other hother => h other (List.mem_cons_of_mem _ hother)) hrun
        rw [hrest]
        simp [Ne.symm hsettles]

/-- The whole returns exactly if every item that is reached is fine. -/
theorem run_returns {items : List α} (h : ∀ item ∈ items, Faithful eval meaning fine item) :
    (∃ verdict, run eval settles items = .ok verdict) ↔
      ∀ item, Reached meaning settles items item → fine item := by
  induction items with
  | nil =>
    constructor
    · intro _ item ⟨earlier, later, hsplit, _⟩
      simp at hsplit
    · intro _
      exact ⟨!settles, rfl⟩
  | cons first rest ih =>
    have hfirst := h first List.mem_cons_self
    have hrest := ih (fun other hother => h other (List.mem_cons_of_mem _ hother))
    unfold run
    constructor
    · intro ⟨verdict, hrun⟩ item hreached
      have hfine : fine first := by
        apply hfirst.returns.1
        cases heval : eval first with
        | error error =>
          rw [heval] at hrun
          cases hrun
        | ok found => exact ⟨found, rfl⟩
      rcases reached_cons_iff.1 hreached with rfl | ⟨hmeaning, hlater⟩
      · exact hfine
      · rw [hfirst.eval_eq hfine] at hrun
        dsimp only at hrun
        rw [if_neg hmeaning] at hrun
        exact hrest.1 ⟨verdict, hrun⟩ item hlater
    · intro hfine
      rw [hfirst.eval_eq (hfine first (reached_head first rest))]
      dsimp only
      split
      · exact ⟨settles, rfl⟩
      · rename_i hmeaning
        apply hrest.2
        intro item hitem
        exact hfine item (reached_cons_iff.2 (Or.inr ⟨hmeaning, hitem⟩))

end ShortCircuit
