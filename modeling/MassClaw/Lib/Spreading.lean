import MassClaw.Lib.Transition
import Mathlib.Data.Set.Basic

/-!
# Knowledge that spreads by pulls

Every node knows a set of items, and in a pull one node takes over what another
one knows.  After a sequence of pulls a node knows what those nodes knew at the
start from which a chain of pulls, in the order of the sequence, leads to it.

When the pulls repeat all links of a network as often as its diameter, every
node knows everything.

Nothing here mentions a particular program.
-/

namespace Spreading

universe u v w

variable {ι : Type u}

/-- The client takes over what the server knows. -/
structure Pull (ι : Type u) where
  client : ι
  server : ι

/-- A chain of pulls leads from one node to the other. -/
def Reaches : List (Pull ι) → ι → ι → Prop
  | [], i, j => i = j
  | p :: rest, i, j => Reaches rest i j ∨ (i = p.server ∧ Reaches rest p.client j)

theorem reaches_self (pulls : List (Pull ι)) (i : ι) : Reaches pulls i i := by
  induction pulls with
  | nil => rfl
  | cons p rest ih => exact Or.inl ih

/-- A chain runs through the one half of the pulls and then the other. -/
theorem reaches_append {earlier later : List (Pull ι)} {i k : ι} :
    Reaches (earlier ++ later) i k ↔ ∃ j, Reaches earlier i j ∧ Reaches later j k := by
  induction earlier generalizing i with
  | nil =>
    constructor
    · intro h
      exact ⟨i, rfl, h⟩
    · rintro ⟨j, rfl, h⟩
      exact h
  | cons p rest ih =>
    show Reaches (rest ++ later) i k ∨ (i = p.server ∧ Reaches (rest ++ later) p.client k) ↔ _
    rw [ih, ih]
    constructor
    · rintro (⟨j, hij, hjk⟩ | ⟨rfl, j, hij, hjk⟩)
      · exact ⟨j, Or.inl hij, hjk⟩
      · exact ⟨j, Or.inr ⟨rfl, hij⟩, hjk⟩
    · rintro ⟨j, hij | ⟨rfl, hij⟩, hjk⟩
      · exact Or.inl ⟨j, hij, hjk⟩
      · exact Or.inr ⟨rfl, j, hij, hjk⟩

/-- One pull is a chain. -/
theorem reaches_of_mem {pulls : List (Pull ι)} {p : Pull ι} (h : p ∈ pulls) :
    Reaches pulls p.server p.client := by
  induction pulls with
  | nil => cases h
  | cons q rest ih =>
    rcases List.mem_cons.1 h with rfl | hrest
    · exact Or.inr ⟨rfl, reaches_self rest _⟩
    · exact Or.inl (ih hrest)

/-! ## What the nodes know -/

/-- What the nodes know after a pull. -/
def pull {κ : Type v} (known : ι → Set κ) (p : Pull ι) (j : ι) : Set κ :=
  {x | x ∈ known j ∨ (j = p.client ∧ x ∈ known p.server)}

section Runs

variable {σ : Type w} {κ : Type v} {ρ : Type u} {f : σ → ρ → σ} {link : ρ → Pull ι}
  (view : σ → ι → Set κ)

/-- Nobody knows more than the chains of pulls explain. -/
theorem known_of_after {inputs : List ρ} {start : σ}
    (hstep : ∀ step ∈ Transition.steps f start inputs, ∀ j,
      view (f step.1 step.2) j ⊆ pull (view step.1) (link step.2) j) {j : ι} {x : κ}
    (h : x ∈ view (Transition.after f start inputs) j) :
    ∃ i, Reaches (inputs.map link) i j ∧ x ∈ view start i := by
  induction inputs generalizing start with
  | nil => exact ⟨j, rfl, h⟩
  | cons input rest ih =>
    have hrest := fun step hmem => hstep step (List.mem_cons_of_mem _ hmem)
    obtain ⟨i, hreaches, hknown⟩ := ih hrest h
    rcases hstep _ List.mem_cons_self i hknown with hown | ⟨hclient, hserver⟩
    · exact ⟨i, Or.inl hreaches, hown⟩
    · rw [hclient] at hreaches
      exact ⟨(link input).server, Or.inr ⟨rfl, hreaches⟩, hserver⟩

/-- Nobody knows less. -/
theorem after_of_known {inputs : List ρ} {start : σ}
    (hstep : ∀ step ∈ Transition.steps f start inputs, ∀ j,
      pull (view step.1) (link step.2) j ⊆ view (f step.1 step.2) j) {i j : ι} {x : κ}
    (hreaches : Reaches (inputs.map link) i j) (h : x ∈ view start i) :
    x ∈ view (Transition.after f start inputs) j := by
  induction inputs generalizing start i with
  | nil =>
    cases hreaches
    exact h
  | cons input rest ih =>
    have hrest := fun step hmem => hstep step (List.mem_cons_of_mem _ hmem)
    have hfirst := hstep _ List.mem_cons_self
    rcases hreaches with hlater | ⟨rfl, hlater⟩
    · exact ih hrest hlater (hfirst i (Or.inl h))
    · exact ih hrest hlater (hfirst _ (Or.inr ⟨rfl, h⟩))

/-- The nodes know exactly what the chains of pulls explain. -/
theorem mem_after_iff {inputs : List ρ} {start : σ}
    (hstep : ∀ step ∈ Transition.steps f start inputs, ∀ j,
      view (f step.1 step.2) j = pull (view step.1) (link step.2) j) {j : ι} {x : κ} :
    x ∈ view (Transition.after f start inputs) j ↔
      ∃ i, Reaches (inputs.map link) i j ∧ x ∈ view start i := by
  constructor
  · intro h
    exact known_of_after view (fun step hmem j => (hstep step hmem j).subset) h
  · rintro ⟨i, hreaches, hknown⟩
    exact after_of_known view (fun step hmem j => (hstep step hmem j).symm.subset) hreaches hknown

end Runs

/-! ## Networks -/

/-- A path of at most so many links. -/
inductive Within (link : ι → ι → Prop) : Nat → ι → ι → Prop
  | here (n : Nat) (i : ι) : Within link n i i
  | step {n : Nat} {i j k : ι} (first : link i j) (rest : Within link n j k) :
    Within link (n + 1) i k

/-- Phases that contain every link carry everything along the paths that are no
longer than there are phases. -/
theorem reaches_of_within {link : ι → ι → Prop} {n : Nat} {i j : ι} (h : Within link n i j)
    {phases : List (List (Pull ι))} (hlength : n ≤ phases.length)
    (hphases : ∀ phase ∈ phases, ∀ s c, link s c → ⟨c, s⟩ ∈ phase) :
    Reaches phases.flatten i j := by
  induction h generalizing phases with
  | here => exact reaches_self _ _
  | @step n i j k hfirst _ ih =>
    cases phases with
    | nil => cases hlength
    | cons phase rest =>
      rw [List.flatten_cons, reaches_append]
      have hpull : (⟨j, i⟩ : Pull ι) ∈ phase := hphases phase List.mem_cons_self i j hfirst
      refine ⟨j, reaches_of_mem hpull, ih ?_ ?_⟩
      · exact Nat.le_of_succ_le_succ hlength
      · exact fun other hother => hphases other (List.mem_cons_of_mem _ hother)

end Spreading
