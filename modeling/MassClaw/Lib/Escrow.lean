import Mathlib.Algebra.BigOperators.Group.List.Basic
import Mathlib.Algebra.Group.Basic
import Mathlib.Data.List.Nodup
import Mathlib.Data.List.Perm.Subperm

/-!
# Holds and settlements

An escrow journal is a list of two kinds of entries.  A hold puts an amount
aside on an account under an id; a settlement names the id of a hold and gives
an amount back.  What is outstanding on an account can be computed in two
ways: as the sum of the holds minus the sum of the settlements, and as the sum
of the holds that have not been settled.

The two agree when the journal is `Sound`: hold ids are distinct, a hold is
settled at most once, and a settlement repeats the account and the amount of
its hold.  `Sound.hold` and `Sound.settle` are the two ways to extend a sound
journal, and `Sound.outstanding_eq` is the agreement.

Ids, accounts and amounts are arbitrary types.
-/

namespace Escrow

universe u v w

/-- One entry of the journal. -/
inductive Entry (ι : Type u) (κ : Type v) (M : Type w)
  | hold (id : ι) (account : κ) (amount : M)
  | settle (target : ι) (account : κ) (amount : M)

namespace Entry

variable {ι : Type u} {κ : Type v} {M : Type w}

/-- The id, account and amount of a hold. -/
def asHold? : Entry ι κ M → Option (ι × κ × M)
  | hold id account amount => some (id, account, amount)
  | settle _ _ _ => none

/-- The target, account and amount of a settlement. -/
def asSettle? : Entry ι κ M → Option (ι × κ × M)
  | hold _ _ _ => none
  | settle target account amount => some (target, account, amount)

end Entry

variable {ι : Type u} {κ : Type v} {M : Type w}

/-- The holds of a journal. -/
def holds (journal : List (Entry ι κ M)) : List (ι × κ × M) := journal.filterMap Entry.asHold?

/-- The settlements of a journal. -/
def settles (journal : List (Entry ι κ M)) : List (ι × κ × M) :=
  journal.filterMap Entry.asSettle?

@[simp] theorem holds_append (journal more : List (Entry ι κ M)) :
    holds (journal ++ more) = holds journal ++ holds more := List.filterMap_append

@[simp] theorem settles_append (journal more : List (Entry ι κ M)) :
    settles (journal ++ more) = settles journal ++ settles more := List.filterMap_append

@[simp] theorem holds_singleton_hold (id : ι) (account : κ) (amount : M) :
    holds [Entry.hold id account amount] = [(id, account, amount)] := rfl

@[simp] theorem holds_singleton_settle (id : ι) (account : κ) (amount : M) :
    holds [Entry.settle id account amount] = [] := rfl

@[simp] theorem settles_singleton_hold (id : ι) (account : κ) (amount : M) :
    settles [Entry.hold id account amount] = [] := rfl

@[simp] theorem settles_singleton_settle (id : ι) (account : κ) (amount : M) :
    settles [Entry.settle id account amount] = [(id, account, amount)] := rfl

/-- The sum of the amounts booked on one account. -/
def total [DecidableEq κ] [AddMonoid M] (entries : List (ι × κ × M)) (account : κ) : M :=
  ((entries.filter (fun entry => entry.2.1 = account)).map (fun entry => entry.2.2)).sum

theorem total_append [DecidableEq κ] [AddMonoid M] (entries more : List (ι × κ × M))
    (account : κ) : total (entries ++ more) account = total entries account + total more account := by
  simp [total]

theorem total_perm [DecidableEq κ] [AddCommMonoid M] {entries more : List (ι × κ × M)}
    (h : entries.Perm more) (account : κ) : total entries account = total more account :=
  ((h.filter _).map _).sum_eq

/-- A hold is open while no settlement names it. -/
def IsOpen (journal : List (Entry ι κ M)) (id : ι) : Prop :=
  id ∉ (settles journal).map Prod.fst

/-- The holds that have not been settled. -/
def openHolds [DecidableEq ι] (journal : List (Entry ι κ M)) : List (ι × κ × M) :=
  (holds journal).filter (fun entry => entry.1 ∉ (settles journal).map Prod.fst)

/-- Each hold is settled at most once, on its own account, for its own
amount. -/
structure Sound (journal : List (Entry ι κ M)) : Prop where
  holdsOnce : ((holds journal).map Prod.fst).Nodup
  settlesOnce : ((settles journal).map Prod.fst).Nodup
  matched : ∀ entry ∈ settles journal, entry ∈ holds journal

theorem Sound.nil : Sound ([] : List (Entry ι κ M)) :=
  ⟨List.nodup_nil, List.nodup_nil, by simp [settles]⟩

/-- A new hold needs a new id. -/
theorem Sound.hold {journal : List (Entry ι κ M)} (h : Sound journal) {id : ι} {account : κ}
    {amount : M} (hfresh : id ∉ (holds journal).map Prod.fst) :
    Sound (journal ++ [.hold id account amount]) where
  holdsOnce := by
    rw [holds_append, holds_singleton_hold, List.map_append, List.map_singleton,
      List.nodup_append]
    refine ⟨h.holdsOnce, List.nodup_singleton _, ?_⟩
    rintro a ha b hb rfl
    obtain rfl := List.mem_singleton.1 hb
    exact hfresh ha
  settlesOnce := by simpa using h.settlesOnce
  matched := by
    intro entry hentry
    rw [holds_append, List.mem_append]
    exact Or.inl (h.matched entry (by simpa using hentry))

/-- A settlement needs an open hold, and repeats its account and amount. -/
theorem Sound.settle {journal : List (Entry ι κ M)} (h : Sound journal) {id : ι} {account : κ}
    {amount : M} (hheld : (id, account, amount) ∈ holds journal) (hopen : IsOpen journal id) :
    Sound (journal ++ [.settle id account amount]) where
  holdsOnce := by simpa using h.holdsOnce
  settlesOnce := by
    rw [settles_append, settles_singleton_settle, List.map_append, List.map_singleton,
      List.nodup_append]
    refine ⟨h.settlesOnce, List.nodup_singleton _, ?_⟩
    rintro a ha b hb rfl
    obtain rfl := List.mem_singleton.1 hb
    exact hopen ha
  matched := by
    intro entry hentry
    rw [settles_append, settles_singleton_settle, List.mem_append, List.mem_singleton] at hentry
    rw [holds_append, List.mem_append]
    rcases hentry with hold | rfl
    · exact Or.inl (h.matched entry hold)
    · exact Or.inl hheld

/-- An entry that is neither a hold nor a settlement of the journal it extends
changes nothing; in particular the empty extension. -/
theorem Sound.congr {journal more : List (Entry ι κ M)} (h : Sound journal)
    (hholds : holds more = holds journal) (hsettles : settles more = settles journal) :
    Sound more := by
  refine ⟨?_, ?_, ?_⟩
  · rw [hholds]; exact h.holdsOnce
  · rw [hsettles]; exact h.settlesOnce
  · rw [hholds, hsettles]; exact h.matched

/-- Two holds of a sound journal with one id are the same. -/
theorem Sound.hold_unique {journal : List (Entry ι κ M)} (h : Sound journal)
    {a b : ι × κ × M} (ha : a ∈ holds journal) (hb : b ∈ holds journal) (hid : a.1 = b.1) :
    a = b :=
  List.inj_on_of_nodup_map h.holdsOnce ha hb hid

/-- In a sound journal the holds are the settled ones and the open ones. -/
theorem Sound.holds_perm [DecidableEq ι] {journal : List (Entry ι κ M)} (h : Sound journal) :
    (holds journal).Perm (settles journal ++ openHolds journal) := by
  have hsettled : ((holds journal).filter
      (fun entry => entry.1 ∈ (settles journal).map Prod.fst)).Perm (settles journal) := by
    refine (List.perm_ext_iff_of_nodup (h.holdsOnce.of_map.filter _) h.settlesOnce.of_map).2
      (fun entry => ?_)
    rw [List.mem_filter, decide_eq_true_eq, List.mem_map]
    constructor
    · rintro ⟨hmem, other, hother, hid⟩
      rwa [h.hold_unique hmem (h.matched other hother) hid.symm]
    · intro hmem
      exact ⟨h.matched entry hmem, entry, hmem, rfl⟩
  refine (List.filter_append_perm
    (fun entry => decide (entry.1 ∈ (settles journal).map Prod.fst)) (holds journal)).symm.trans ?_
  refine hsettled.append (List.Perm.of_eq ?_)
  exact List.filter_congr (fun entry _ => by simp)

/-- The two ways to compute what is outstanding agree. -/
theorem Sound.outstanding_eq [DecidableEq ι] [DecidableEq κ] [AddCommGroup M]
    {journal : List (Entry ι κ M)} (h : Sound journal) (account : κ) :
    total (holds journal) account - total (settles journal) account =
      total (openHolds journal) account := by
  rw [total_perm h.holds_perm account, total_append, add_sub_cancel_left]

end Escrow
