import Mathlib.Tactic.Common

/-!
# Pre- and postconditions for computations that can stop early

A computation of type `Except ε α` either returns a value or stops with an
error.  When the error carries the state that was reached, an invariant has to
hold on both sides: after a normal return and at the point of an early stop.
`Holds Q E x` states the two postconditions together, and the rules below
follow the shape of a program: sequencing, case analysis, and a fold over a
list of work items.

Nothing here mentions a particular program.
-/

namespace Outcome

universe u v

variable {ε : Type v} {α β σ : Type u}

/-- `x` ends in `Q` when it returns and in `E` when it stops early. -/
def Holds (Q : α → Prop) (E : ε → Prop) : Except ε α → Prop
  | .ok a => Q a
  | .error e => E e

@[simp] theorem holds_ok {Q : α → Prop} {E : ε → Prop} {a : α} :
    Holds Q E (.ok a) ↔ Q a := Iff.rfl

@[simp] theorem holds_error {Q : α → Prop} {E : ε → Prop} {e : ε} :
    Holds Q E (.error e) ↔ E e := Iff.rfl

@[simp] theorem holds_pure {Q : α → Prop} {E : ε → Prop} {a : α} :
    Holds Q E (pure a : Except ε α) ↔ Q a := Iff.rfl

@[simp] theorem holds_throw {Q : α → Prop} {E : ε → Prop} {e : ε} :
    Holds Q E (throw e : Except ε α) ↔ E e := Iff.rfl

/-- Both postconditions can be weakened. -/
theorem Holds.mono {Q Q' : α → Prop} {E E' : ε → Prop} {x : Except ε α}
    (h : Holds Q E x) (hQ : ∀ a, Q a → Q' a) (hE : ∀ e, E e → E' e) :
    Holds Q' E' x := by
  cases x with
  | ok a => exact hQ a h
  | error e => exact hE e h

/-- Two pairs of postconditions hold together. -/
theorem Holds.and {Q Q' : α → Prop} {E E' : ε → Prop} {x : Except ε α}
    (h : Holds Q E x) (h' : Holds Q' E' x) :
    Holds (fun a => Q a ∧ Q' a) (fun e => E e ∧ E' e) x := by
  cases x with
  | ok a => exact ⟨h, h'⟩
  | error e => exact ⟨h, h'⟩

/-- Sequencing: the second computation starts where the first returned. -/
theorem Holds.bind {P : α → Prop} {Q : β → Prop} {E : ε → Prop}
    {x : Except ε α} {f : α → Except ε β}
    (hx : Holds P E x) (hf : ∀ a, P a → Holds Q E (f a)) :
    Holds Q E (x >>= f) := by
  cases x with
  | ok a => exact hf a hx
  | error e => exact hx

/-- A fold over work items.  `I rest s` is the invariant when the items `rest`
are still to be done; each item consumes itself from the front. -/
theorem Holds.foldlM {I : List α → σ → Prop} {E : ε → Prop}
    {f : σ → α → Except ε σ}
    (hstep : ∀ a rest s, I (a :: rest) s → Holds (I rest) E (f s a)) :
    ∀ (items : List α) (s : σ), I items s → Holds (I []) E (items.foldlM f s)
  | [], s, hs => hs
  | a :: rest, s, hs => by
      rw [List.foldlM_cons]
      exact (hstep a rest s hs).bind (fun s' hs' => Holds.foldlM hstep rest s' hs')

/-- A fold with an invariant that does not look at the remaining items. -/
theorem Holds.foldlM_mem {I : σ → Prop} {E : ε → Prop}
    {f : σ → α → Except ε σ} (items : List α) (s : σ)
    (hstep : ∀ a ∈ items, ∀ s, I s → Holds I E (f s a)) (hs : I s) :
    Holds I E (items.foldlM f s) := by
  induction items generalizing s with
  | nil => exact hs
  | cons a rest ih =>
    rw [List.foldlM_cons]
    exact (hstep a List.mem_cons_self s hs).bind fun s' hs' =>
      ih s' (fun b hb => hstep b (List.mem_cons_of_mem a hb)) hs'

/-- A sequence that returns has a first part that returned. -/
theorem bind_eq_ok {x : Except ε α} {f : α → Except ε β} {b : β} (h : x >>= f = .ok b) :
    ∃ a, x = .ok a ∧ f a = .ok b := by
  cases x with
  | ok a => exact ⟨a, rfl, h⟩
  | error e => cases h

/-- Another error in its place does not make a computation return. -/
theorem mapError_eq_ok {ε' : Type v} {f : ε → ε'} {x : Except ε α} {a : α} :
    x.mapError f = .ok a ↔ x = .ok a := by
  cases x with
  | ok b =>
    constructor
    · intro h
      cases h
      rfl
    · intro h
      cases h
      rfl
  | error e =>
    constructor
    · intro h
      cases h
    · intro h
      cases h

/-- The other error is made of the one that was raised. -/
theorem mapError_eq_error {ε' : Type v} {f : ε → ε'} {x : Except ε α} {e' : ε'}
    (h : x.mapError f = .error e') : ∃ e, x = .error e ∧ e' = f e := by
  cases x with
  | ok a => cases h
  | error e =>
    cases h
    exact ⟨e, rfl, rfl⟩

/-- A sequence returns when both of its parts do. -/
theorem exists_bind {x : Except ε α} {f : α → Except ε β} (hx : ∃ a, x = .ok a)
    (hf : ∀ a, x = .ok a → ∃ b, f a = .ok b) : ∃ b, x >>= f = .ok b := by
  obtain ⟨a, rfl⟩ := hx
  exact hf a rfl

/-- A returned value satisfies the normal postcondition. -/
theorem Holds.of_ok {Q : α → Prop} {E : ε → Prop} {x : Except ε α} {a : α}
    (h : Holds Q E x) (hx : x = .ok a) : Q a := by
  subst hx; exact h

/-- An early stop satisfies the error postcondition. -/
theorem Holds.of_error {Q : α → Prop} {E : ε → Prop} {x : Except ε α} {e : ε}
    (h : Holds Q E x) (hx : x = .error e) : E e := by
  subst hx; exact h

/-! ## Two computations side by side -/

section Follows

variable {ε' : Type v} {α' β' σ' : Type u}

/-- Both computations return, with related values, or both stop, with related
errors. -/
def Follows (R : α → α' → Prop) (E : ε → ε' → Prop) : Except ε α → Except ε' α' → Prop
  | .ok a, .ok a' => R a a'
  | .error e, .error e' => E e e'
  | _, _ => False

/-- Sequencing: the second computations start where the first ones returned. -/
theorem Follows.bind {R : α → α' → Prop} {S : β → β' → Prop} {E : ε → ε' → Prop}
    {x : Except ε α} {x' : Except ε' α'} {f : α → Except ε β} {f' : α' → Except ε' β'}
    (hx : Follows R E x x') (hf : ∀ a a', R a a' → Follows S E (f a) (f' a')) :
    Follows S E (x >>= f) (x' >>= f') := by
  cases x with
  | ok a =>
    cases x' with
    | ok a' => exact hf a a' hx
    | error e' => exact hx.elim
  | error e =>
    cases x' with
    | ok a' => exact hx.elim
    | error e' => exact hx

/-- Two folds over the same work items. -/
theorem Follows.foldlM {R : σ → σ' → Prop} {E : ε → ε' → Prop} {f : σ → α → Except ε σ}
    {f' : σ' → α → Except ε' σ'} (items : List α) (s : σ) (s' : σ')
    (hstep : ∀ a ∈ items, ∀ s s', R s s' → Follows R E (f s a) (f' s' a)) (hs : R s s') :
    Follows R E (items.foldlM f s) (items.foldlM f' s') := by
  induction items generalizing s s' with
  | nil => exact hs
  | cons a rest ih =>
    rw [List.foldlM_cons, List.foldlM_cons]
    exact (hstep a List.mem_cons_self s s' hs).bind fun t t' ht =>
      ih t t' (fun b hb => hstep b (List.mem_cons_of_mem a hb)) ht

end Follows

end Outcome
