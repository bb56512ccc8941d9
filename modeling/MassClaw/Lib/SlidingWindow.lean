import Mathlib.Algebra.Order.Group.Defs
import Mathlib.Algebra.Order.Group.Basic
import MassClaw.Lib.Assoc
import MassClaw.Lib.Keyed

/-!
# Sliding windows in a sorted set

A limiter keeps the arrivals of the last window in a sorted set: a list of
members, each with the time at which it was added last.  An arrival removes
what has left the window, counts what is there, adds a member of its own and
extends the life of the set.

Members stand for arrivals only as long as they are distinct.  When every
arrival that is let through has found fewer members than the limit and none
that is its own, no window holds more than the limit of them.

Nothing here mentions a particular program.
-/

namespace SlidingWindow

universe u v w

/-- A sorted set, and the time at which it expires. -/
structure Store (μ : Type u) (τ : Type v) where
  entries : List (μ × τ) := []
  expiresAt : Option τ := none

namespace Store

variable {μ : Type u} {τ : Type v} [AddCommGroup τ] [LinearOrder τ]

/-- The members that are in the window at a time: those of a set that has not
expired, without the scores between zero and the start of the window. -/
def current (store : Store μ τ) (window now : τ) : List (μ × τ) :=
  let live := match store.expiresAt with
    | none => store.entries
    | some expiresAt => if expiresAt ≤ now then [] else store.entries
  live.filter (fun entry => ¬(0 ≤ entry.2 ∧ entry.2 ≤ now - window))

/-- The set after a member was added at a time. -/
def add [DecidableEq μ] (store : Store μ τ) (window ttl now : τ) (member : μ) : Store μ τ where
  entries := Assoc.set (store.current window now) member now
  expiresAt := some (now + ttl)

theorem mem_of_mem_current {store : Store μ τ} {window now : τ} {entry : μ × τ}
    (h : entry ∈ store.current window now) : entry ∈ store.entries := by
  unfold current at h
  have hlive := List.mem_of_mem_filter h
  split at hlive
  · exact hlive
  · split at hlive
    · cases hlive
    · exact hlive

end Store

/-- A limiter: the limit, the length of the window, the life of the set after
an arrival, and of an arrival its time, its member, whether it reaches the set,
and whether it is let through. -/
structure Limiter (ι : Type w) (μ : Type u) (τ : Type v) where
  limit : Nat
  window : τ
  ttl : τ
  now : ι → τ
  member : ι → μ
  counts : ι → Bool
  passes : Store μ τ → ι → Bool

/-! ## The members in a window -/

section Members

variable {μ : Type u} {τ : Type v} [LinearOrder τ]

/-- The number of members added after a time. -/
def added (entries : List (μ × τ)) (start : τ) : Nat :=
  entries.countP (fun entry => start < entry.2)

variable [DecidableEq μ]

/-- A new member is one more. -/
theorem added_set_of_not_mem {entries : List (μ × τ)} {member : μ}
    (h : member ∉ Assoc.keys entries) (now start : τ) :
    added (Assoc.set entries member now) start =
      added entries start + if start < now then 1 else 0 := by
  rw [Assoc.set, if_neg h, added, List.countP_append]
  simp [added, List.countP_cons]

/-- A member that is added again does not leave the window. -/
theorem added_le_set {entries : List (μ × τ)} (member : μ) {now : τ}
    (h : ∀ entry ∈ entries, entry.2 ≤ now) (start : τ) :
    added entries start ≤ added (Assoc.set entries member now) start := by
  by_cases hmem : member ∈ Assoc.keys entries
  · rw [Assoc.set, if_pos hmem, added, added, List.countP_map]
    apply List.countP_mono_left
    intro entry hentry hstart
    have hnow := h entry hentry
    simp only [decide_eq_true_eq] at hstart
    by_cases hkey : entry.1 = member
    · simp [hkey, hstart.trans_le hnow]
    · simp [hkey, hstart]
  · rw [added_set_of_not_mem hmem]
    omega

end Members

/-! ## Limiters -/

namespace Limiter

variable {ι : Type w} {μ : Type u} {τ : Type v} [AddCommGroup τ] [LinearOrder τ] [DecidableEq μ]
variable (limiter : Limiter ι μ τ)

/-- The set after an arrival. -/
def step (store : Store μ τ) (arrival : ι) : Store μ τ :=
  if limiter.counts arrival then
    store.add limiter.window limiter.ttl (limiter.now arrival) (limiter.member arrival)
  else store

/-- The arrival is not let through, or it is counted, below the limit, as a new
member. -/
def Counted (transition : Store μ τ × ι) : Prop :=
  limiter.passes transition.1 transition.2 = true →
    let current := transition.1.current limiter.window (limiter.now transition.2)
    limiter.counts transition.2 = true ∧ current.length < limiter.limit ∧
      limiter.member transition.2 ∉ Assoc.keys current

/-- The arrival is let through within the window that ends at `until`. -/
def passedIn (deadline : τ) (transition : Store μ τ × ι) : Bool :=
  limiter.passes transition.1 transition.2 ∧
    deadline - limiter.window < limiter.now transition.2 ∧ limiter.now transition.2 ≤ deadline

/-! ## The invariant -/

/-- The set after the arrivals `passed` were let through, none of them later
than `last`: it holds a member for each of them that a later window can
contain, and no window contains more of them than the limit. -/
structure Covers (limiter : Limiter ι μ τ) (store : Store μ τ) (passed : List τ) (last : τ) :
    Prop where
  entries_le : ∀ entry ∈ store.entries, entry.2 ≤ last
  passed_le : ∀ time ∈ passed, time ≤ last
  expires : ∀ expiresAt ∈ store.expiresAt, ∀ entry ∈ store.entries,
    entry.2 ≤ expiresAt - limiter.window
  covers : ∀ start, last - limiter.window ≤ start →
    passed.countP (fun time => start < time) ≤ added store.entries start
  bounded : ∀ deadline,
    passed.countP (fun time => deadline - limiter.window < time ∧ time ≤ deadline) ≤ limiter.limit

variable {limiter} {store : Store μ τ} {passed : List τ} {last now : τ}

variable [IsOrderedAddMonoid τ]

omit [DecidableEq μ] in
/-- What an arrival removes is not in its window. -/
theorem Covers.added_current (h : limiter.Covers store passed last) {start : τ}
    (hstart : now - limiter.window ≤ start) :
    added (store.current limiter.window now) start = added store.entries start := by
  have hlive : ∀ entries : List (μ × τ), added
      (entries.filter (fun entry => ¬(0 ≤ entry.2 ∧ entry.2 ≤ now - limiter.window))) start =
        added entries start := by
    intro entries
    rw [added, List.countP_filter]
    apply List.countP_congr
    intro entry _
    simp only [decide_not, Bool.and_eq_true, decide_eq_true_eq, Bool.not_eq_true',
      decide_eq_false_iff_not, and_iff_left_iff_imp]
    intro hlater hold
    exact absurd (hlater.trans_le (hold.2.trans hstart)) (lt_irrefl _)
  unfold Store.current
  cases hexpires : store.expiresAt with
  | none => exact hlive _
  | some expiresAt =>
    dsimp only
    split
    · rename_i hexpired
      -- whatever has expired had left the window before
      have hnone : added store.entries start = 0 := by
        rw [added, List.countP_eq_zero]
        intro entry hentry
        have hold := h.expires expiresAt hexpires entry hentry
        have : entry.2 ≤ start :=
          hold.trans ((sub_le_sub_right hexpired _).trans hstart)
        simpa using this
      rw [hnone]
      rfl
    · exact hlive _

omit [DecidableEq μ] in
/-- Time passes. -/
theorem Covers.wait (h : limiter.Covers store passed last) (hlast : last ≤ now) :
    limiter.Covers store passed now where
  entries_le entry hentry := (h.entries_le entry hentry).trans hlast
  passed_le time htime := (h.passed_le time htime).trans hlast
  expires := h.expires
  covers start hstart := h.covers start ((sub_le_sub_right hlast _).trans hstart)
  bounded := h.bounded

/-- A member is added, new or not. -/
theorem Covers.add (h : limiter.Covers store passed now) (member : μ)
    (httl : limiter.window ≤ limiter.ttl) :
    limiter.Covers (store.add limiter.window limiter.ttl now member) passed now := by
  have hcurrent : ∀ entry ∈ store.current limiter.window now, entry.2 ≤ now :=
    fun entry hentry => h.entries_le entry (Store.mem_of_mem_current hentry)
  have hentries : ∀ entry ∈ Assoc.set (store.current limiter.window now) member now, entry.2 ≤ now := by
    intro entry hentry
    rcases Assoc.mem_set hentry with hnew | hold
    · rw [hnew]
    · exact hcurrent entry hold.1
  refine ⟨hentries, h.passed_le, ?_, ?_, h.bounded⟩
  · intro expiresAt hexpires entry hentry
    cases hexpires
    have hnow : now ≤ now + limiter.ttl - limiter.window := by
      rw [add_sub_assoc]
      exact le_add_of_nonneg_right (sub_nonneg.2 httl)
    exact (hentries entry hentry).trans hnow
  · intro start hstart
    calc passed.countP (fun time => start < time)
        ≤ added store.entries start := h.covers start hstart
      _ = added (store.current limiter.window now) start := (h.added_current hstart).symm
      _ ≤ _ := added_le_set member hcurrent start

/-- An arrival that is not let through. -/
theorem Covers.refuse (h : limiter.Covers store passed last) {arrival : ι}
    (hlast : last ≤ limiter.now arrival) (httl : limiter.window ≤ limiter.ttl) :
    limiter.Covers (limiter.step store arrival) passed (limiter.now arrival) := by
  have hwait := h.wait hlast
  unfold step
  split
  · exact hwait.add _ httl
  · exact hwait

/-- An arrival that is counted as a new member and let through. -/
theorem Covers.pass (h : limiter.Covers store passed last) {arrival : ι}
    (hlast : last ≤ limiter.now arrival) (httl : limiter.window ≤ limiter.ttl)
    (hcounted : limiter.Counted (store, arrival)) (hpasses : limiter.passes store arrival = true) :
    limiter.Covers (limiter.step store arrival) (passed ++ [limiter.now arrival])
      (limiter.now arrival) := by
  obtain ⟨hcounts, hcount, hnew⟩ := hcounted hpasses
  have hbelow : (store.current limiter.window (limiter.now arrival)).length < limiter.limit := hcount
  have hwait := h.wait hlast
  have hrefuse := h.refuse hlast httl
  refine ⟨hrefuse.entries_le, ?_, hrefuse.expires, ?_, ?_⟩
  · intro time htime
    rcases List.mem_append.1 htime with hold | hlatest
    · exact hrefuse.passed_le time hold
    · rw [List.mem_singleton.1 hlatest]
  · intro start hstart
    have hcovers := hwait.covers start hstart
    unfold step
    rw [if_pos hcounts, List.countP_append, Store.add, added_set_of_not_mem hnew, hwait.added_current hstart]
    simp only [List.countP_singleton, decide_eq_true_eq]
    omega
  · intro deadline
    rw [List.countP_append, List.countP_singleton]
    by_cases hin : deadline - limiter.window < limiter.now arrival ∧
        limiter.now arrival ≤ deadline
    · -- all that was let through in this window has a member at the arrival
      have hearlier : passed.countP (fun time =>
          deadline - limiter.window < time ∧ time ≤ deadline) ≤
            passed.countP (fun time => limiter.now arrival - limiter.window < time) := by
        apply List.countP_mono_left
        intro time _ htime
        simp only [decide_eq_true_eq] at htime ⊢
        exact lt_of_le_of_lt (sub_le_sub_right hin.2 _) htime.1
      have hcovers := hwait.covers _ (le_refl _)
      have hcurrent : added (store.current limiter.window (limiter.now arrival))
          (limiter.now arrival - limiter.window) =
            added store.entries (limiter.now arrival - limiter.window) :=
        hwait.added_current (le_refl _)
      have hlength : added (store.current limiter.window (limiter.now arrival))
          (limiter.now arrival - limiter.window) ≤
            (store.current limiter.window (limiter.now arrival)).length := List.countP_le_length
      simp only [hin, and_self, decide_true, if_true]
      omega
    · have hold := h.bounded deadline
      simp only [hin, decide_false, if_false, Bool.false_eq_true]
      omega

/-! ## Runs -/

/-- The invariant of a run: the arrivals that are let through, behind those
that were let through before. -/
theorem Covers.run (httl : limiter.window ≤ limiter.ttl) {arrivals : List ι} :
    ∀ {store : Store μ τ} {passed : List τ} {last : τ}, limiter.Covers store passed last →
      (∀ arrival ∈ arrivals, last ≤ limiter.now arrival) →
      arrivals.Pairwise (fun a b => limiter.now a ≤ limiter.now b) →
      (∀ transition ∈ Transition.steps limiter.step store arrivals,
        limiter.Counted transition) → ∀ deadline,
      passed.countP (fun time => deadline - limiter.window < time ∧ time ≤ deadline) +
        (Transition.steps limiter.step store arrivals).countP (limiter.passedIn deadline) ≤
          limiter.limit := by
  induction arrivals with
  | nil =>
    intro store passed last h _ _ _ deadline
    exact h.bounded deadline
  | cons arrival rest ih =>
    intro store passed last h hlast hsorted hcounted deadline
    have hhead := hlast arrival List.mem_cons_self
    have hrest : ∀ later ∈ rest, limiter.now arrival ≤ limiter.now later :=
      (List.pairwise_cons.1 hsorted).1
    have htail : ∀ transition ∈ Transition.steps limiter.step (limiter.step store arrival) rest,
        limiter.Counted transition :=
      fun transition hmem => hcounted transition (List.mem_cons_of_mem _ hmem)
    show _ + List.countP _ ((store, arrival) :: Transition.steps _ _ _) ≤ _
    rw [List.countP_cons]
    cases hpasses : limiter.passes store arrival with
    | false =>
      have hih := ih (h.refuse hhead httl) hrest (List.pairwise_cons.1 hsorted).2 htail deadline
      simp only [passedIn, hpasses, Bool.false_eq_true, false_and, decide_false, if_false]
      exact hih
    | true =>
      have hih := ih (h.pass hhead httl (hcounted _ List.mem_cons_self) hpasses) hrest
        (List.pairwise_cons.1 hsorted).2 htail deadline
      rw [List.countP_append, List.countP_singleton] at hih
      have hpassed : limiter.passedIn deadline (store, arrival) =
          decide (deadline - limiter.window < limiter.now arrival ∧
            limiter.now arrival ≤ deadline) := by
        simp [passedIn, hpasses]
      rw [hpassed]
      omega

/-- When every arrival of a run that is let through is counted as a new member,
no window holds more than the limit of them. -/
theorem passed_le_limit (httl : limiter.window ≤ limiter.ttl) {arrivals : List ι}
    (hsorted : arrivals.Pairwise (fun a b => limiter.now a ≤ limiter.now b))
    (hcounted : ∀ transition ∈ Transition.steps limiter.step {} arrivals,
      limiter.Counted transition) (deadline : τ) :
    (Transition.steps limiter.step {} arrivals).countP (limiter.passedIn deadline) ≤
      limiter.limit := by
  cases arrivals with
  | nil => exact Nat.zero_le _
  | cons first rest =>
    have hstart : limiter.Covers {} [] (limiter.now first) := by
      refine ⟨?_, ?_, ?_, fun _ _ => Nat.zero_le _, fun _ => Nat.zero_le _⟩
      · intro entry hentry
        cases hentry
      · intro time htime
        cases htime
      · intro expiresAt hexpires
        cases hexpires
    have hlast : ∀ arrival ∈ first :: rest, limiter.now first ≤ limiter.now arrival := by
      intro arrival harrival
      rcases List.mem_cons.1 harrival with hfirst | hrest
      · rw [hfirst]
      · exact (List.pairwise_cons.1 hsorted).1 arrival hrest
    have hrun := hstart.run httl hlast hsorted hcounted deadline
    rw [List.countP_nil, Nat.zero_add] at hrun
    exact hrun

/-- With a set for each key, the same holds of the arrivals of every key. -/
theorem keyed_passed_le_limit {κ : Type w} [DecidableEq κ] (key : ι → Option κ)
    (httl : limiter.window ≤ limiter.ttl) {arrivals : List ι}
    (hsorted : arrivals.Pairwise (fun a b => limiter.now a ≤ limiter.now b))
    (hcounted : ∀ transition ∈
      Transition.steps (Transition.keyed key limiter.step) (fun _ => {}) arrivals,
      ∀ k, key transition.2 = some k → limiter.Counted (transition.1 k, transition.2))
    (k : κ) (deadline : τ) :
    (Transition.steps (Transition.keyed key limiter.step) (fun _ => {}) arrivals).countP
        (fun transition => decide (key transition.2 = some k) &&
          limiter.passedIn deadline (transition.1 k, transition.2)) ≤ limiter.limit := by
  let start : κ → Store μ τ := fun _ => {}
  have hown : ∀ transition ∈ Transition.steps limiter.step {}
      (arrivals.filter (fun arrival => key arrival = some k)), limiter.Counted transition := by
    intro transition htransition
    have hstep : transition ∈ Transition.steps limiter.step (start k)
      (arrivals.filter (fun arrival => key arrival = some k)) := htransition
    obtain ⟨whole, hwhole, hkey, heq⟩ := Transition.exists_step_of_keyed hstep
    rw [heq]
    exact hcounted whole hwhole k hkey
  have hbound := passed_le_limit httl (hsorted.filter _) hown deadline
  have hsteps : _ = Transition.steps limiter.step {}
      (arrivals.filter (fun arrival => key arrival = some k)) :=
    Transition.steps_keyed start arrivals k
  rw [← hsteps, List.countP_map, List.countP_filter] at hbound
  refine le_trans (le_of_eq (List.countP_congr ?_)) hbound
  intro transition _
  rw [Function.comp_apply, Bool.and_comm]

end Limiter

end SlidingWindow
