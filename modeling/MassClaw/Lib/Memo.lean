import MassClaw.Lib.Transition
import Mathlib.Logic.Function.Basic

/-!
# Cached views of a store

A view of a store is computed on demand.  A value that was computed goes into a
cache some time later, under a key, and is handed out from there until the
entry is dropped.  Writers change the store and do not look at the cache.

An entry carries a mark that is not part of the cache: whether a writer has
changed the view since the value was computed.  As long as no marked entry is
read, every value that is handed out is the view of the store at that moment.
-/

universe u v w x

namespace Memo

/-- A store with writers, and its views by key.  `alike` says that two stores
agree on what the view looks at. -/
structure System (σ : Type u) (κ : Type v) (ν : Type w) (ω : Type x) where
  run : σ → ω → σ
  view : κ → σ → ν
  alike : κ → σ → σ → Bool
  view_eq : ∀ {key s t}, alike key s t = true → view key s = view key t

/-- A value that was computed, and whether the view has changed since. -/
structure Entry (ν : Type w) where
  value : ν
  changed : Bool := false

/-- The store, the cache, the values that are computed and not yet cached, and
every value that was handed out, with its key and the store of that moment. -/
structure State (σ : Type u) (κ : Type v) (ν : Type w) where
  store : σ
  cached : κ → Option (Entry ν)
  pending : List (κ × Entry ν)
  returned : List (κ × ν × σ)

/-- What can happen next: a write, a lookup, the computation after a lookup
that found nothing or failed, the caching of a computed value, and the end of
an entry. -/
inductive Step (κ : Type v) (ω : Type x)
  | write (op : ω)
  | read (key : κ)
  | compute (key : κ)
  | fill (index : Nat)
  | drop (key : κ)

variable {σ : Type u} {κ : Type v} {ν : Type w} {ω : Type x}

/-- A store with an empty cache. -/
def State.start (store : σ) : State σ κ ν where
  store := store
  cached := fun _ => none
  pending := []
  returned := []

/-- A lookup finds no marked entry. -/
def ReadsFresh (transition : State σ κ ν × Step κ ω) : Prop :=
  match transition.2 with
  | .read key => ∀ entry, transition.1.cached key = some entry → entry.changed = false
  | _ => True

namespace System

variable (sys : System σ κ ν ω)

/-- The entry after the store has changed from `s` to `t`. -/
def mark (s t : σ) (key : κ) (entry : Entry ν) : Entry ν :=
  { entry with changed := entry.changed || !sys.alike key s t }

variable [DecidableEq κ]

/-- One step. -/
def step (state : State σ κ ν) : Step κ ω → State σ κ ν
  | .write op =>
    let store := sys.run state.store op
    { state with
      store
      cached := fun key => (state.cached key).map (sys.mark state.store store key)
      pending := state.pending.map (fun call =>
        (call.1, sys.mark state.store store call.1 call.2)) }
  | .read key =>
    match state.cached key with
    | none => state
    | some entry => { state with returned := state.returned ++ [(key, entry.value, state.store)] }
  | .compute key =>
    let value := sys.view key state.store
    { state with
      pending := state.pending ++ [(key, { value })]
      returned := state.returned ++ [(key, value, state.store)] }
  | .fill index =>
    match state.pending[index]? with
    | none => state
    | some (key, entry) =>
      { state with
        cached := Function.update state.cached key (some entry)
        pending := state.pending.eraseIdx index }
  | .drop key => { state with cached := Function.update state.cached key none }

/-- An entry without a mark is the view of the store. -/
def Valid (store : σ) (key : κ) (entry : Entry ν) : Prop :=
  entry.changed = false → entry.value = sys.view key store

/-- The entries are valid, and what was handed out was right. -/
structure Sound (state : State σ κ ν) : Prop where
  cached : ∀ key entry, state.cached key = some entry → sys.Valid state.store key entry
  pending : ∀ call ∈ state.pending, sys.Valid state.store call.1 call.2
  returned : ∀ answer ∈ state.returned, answer.2.1 = sys.view answer.1 answer.2.2

variable {sys}

omit [DecidableEq κ] in
theorem Valid.mark {s t : σ} {key : κ} {entry : Entry ν} (h : sys.Valid s key entry) :
    sys.Valid t key (sys.mark s t key entry) := by
  intro hchanged
  rw [System.mark, Bool.or_eq_false_iff, Bool.not_eq_false'] at hchanged
  exact (h hchanged.1).trans (sys.view_eq hchanged.2)

/-- A step keeps the invariant. -/
theorem Sound.step {state : State σ κ ν} {next : Step κ ω} (h : sys.Sound state)
    (hfresh : ReadsFresh (state, next)) : sys.Sound (sys.step state next) := by
  cases next with
  | write op =>
    refine ⟨fun key entry hentry => ?_, fun call hcall => ?_, h.returned⟩
    · obtain ⟨old, hold, rfl⟩ := Option.map_eq_some_iff.1 hentry
      exact (h.cached key old hold).mark
    · obtain ⟨old, hold, rfl⟩ := List.mem_map.1 hcall
      exact (h.pending old hold).mark
  | read key =>
    unfold System.step
    dsimp only
    cases hentry : state.cached key with
    | none => exact h
    | some entry =>
      refine ⟨h.cached, h.pending, fun answer hanswer => ?_⟩
      rcases List.mem_append.1 hanswer with hold | hnew
      · exact h.returned answer hold
      · rw [List.mem_singleton.1 hnew]
        exact h.cached key entry hentry (hfresh entry hentry)
  | compute key =>
    refine ⟨h.cached, fun call hcall => ?_, fun answer hanswer => ?_⟩
    · rcases List.mem_append.1 hcall with hold | hnew
      · exact h.pending call hold
      · rw [List.mem_singleton.1 hnew]
        exact fun _ => rfl
    · rcases List.mem_append.1 hanswer with hold | hnew
      · exact h.returned answer hold
      · rw [List.mem_singleton.1 hnew]
  | fill index =>
    unfold System.step
    dsimp only
    cases hcall : state.pending[index]? with
    | none => exact h
    | some call =>
      obtain ⟨filled, computed⟩ := call
      dsimp only
      refine ⟨fun key entry hentry => ?_,
        fun other hother => h.pending other (List.mem_of_mem_eraseIdx hother), h.returned⟩
      dsimp only at hentry
      by_cases hkey : key = filled
      · subst hkey
        rw [Function.update_self] at hentry
        cases hentry
        exact h.pending _ (List.mem_of_getElem? hcall)
      · rw [Function.update_of_ne hkey] at hentry
        exact h.cached key entry hentry
  | drop key =>
    refine ⟨fun other entry hentry => ?_, h.pending, h.returned⟩
    by_cases hkey : other = key
    · subst hkey
      have hnone : (sys.step state (.drop other)).cached other = none := Function.update_self ..
      rw [hnone] at hentry
      cases hentry
    · have hkept : (sys.step state (.drop key)).cached other = state.cached other :=
        Function.update_of_ne hkey ..
      rw [hkept] at hentry
      exact h.cached other entry hentry

/-- Every value that a run hands out is the view of the store at that moment, as
long as the run reads no entry that a writer has made out of date. -/
theorem returned_eq_view {start : σ} {inputs : List (Step κ ω)}
    (hfresh : ∀ transition ∈ Transition.steps sys.step (State.start start) inputs,
      ReadsFresh transition) :
    ∀ answer ∈ (Transition.after sys.step (State.start start) inputs).returned,
      answer.2.1 = sys.view answer.1 answer.2.2 := by
  have hstart : sys.Sound (State.start start) := by
    refine ⟨fun _ _ h => ?_, fun _ h => ?_, fun _ h => ?_⟩
    · cases h
    · cases h
    · cases h
  have hsound : sys.Sound (Transition.after sys.step (State.start start) inputs) :=
    Transition.after_invariant (fun _ _ hread h => Sound.step h hread) hfresh hstart
  exact hsound.returned

end System

end Memo
