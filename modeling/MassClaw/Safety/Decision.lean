import MassClaw.Core.Json
import MassClaw.Lib.Assoc

/-!
# Policy verdicts, `app/safety/decision.py`

A rule returns a `Decision`, and `aggregate` folds the decisions of several
rules into one.  Denials win over escalations, escalations over permissions,
and permissions over abstentions; the first decision of the winning kind gives
its rule and its reason, and every vote is listed.

`upToDenial` is the part of a list of decisions that ends with the first
denial.  `aggregate_upToDenial` says what the part tells about the whole.
-/

namespace MassClaw

namespace Policy

/-- `DecisionAction`. -/
inductive DecisionAction
  | allow | deny | escalateHuman | abstain
  deriving DecidableEq

/-- `Decision`, without the time at which it was made. -/
structure Decision where
  action : DecisionAction
  ruleId : Option String := none
  reason : String := ""
  metadata : List (String × Json) := []
  contributingRuleIds : List String := []

namespace Decision

/-- The rule id of a vote, where it has one that is not empty. -/
def voter? (decision : Decision) : Option String := decision.ruleId.filter (· ≠ "")

/-- A decision other than an abstention. -/
def isVote (decision : Decision) : Bool := decision.action ≠ .abstain

/-- One turn of the loop of `_merged_metadata`. -/
def mergeMetadata (out : List (String × Json)) (decision : Decision) : List (String × Json) :=
  if decision.metadata.isEmpty then out
  else
    match decision.voter? with
    | some ruleId =>
      let byRule := match Assoc.get? out "by_rule" with
        | some (.dict entries) => entries
        | _ => []
      Assoc.set out "by_rule" (.dict (Assoc.set byRule ruleId (.dict decision.metadata)))
    | none =>
      let unattributed := match Assoc.get? out "unattributed" with
        | some (.list items) => items
        | _ => []
      Assoc.set out "unattributed" (.list (unattributed ++ [.dict decision.metadata]))

/-- `_merged_metadata`. -/
def mergedMetadata (decisions : List Decision) : List (String × Json) :=
  decisions.foldl mergeMetadata []

/-- The decisions with an action. -/
def withAction (action : DecisionAction) (decisions : List Decision) : List Decision :=
  decisions.filter (fun decision => decision.action = action)

/-- The decision for an action, whose first vote is `primary`. -/
def combine (action : DecisionAction) (primary : Decision) (nonAbstain : List Decision) :
    Decision where
  action
  ruleId := primary.ruleId
  reason := primary.reason
  metadata := mergedMetadata (withAction action nonAbstain)
  contributingRuleIds := nonAbstain.filterMap voter?

/-- Votes that neither deny nor escalate allow. -/
theorem withAction_allow_ne_nil {votes : List Decision} (hvotes : ∀ vote ∈ votes, vote.isVote)
    (hne : votes ≠ []) (hdeny : withAction .deny votes = [])
    (hescalate : withAction .escalateHuman votes = []) : withAction .allow votes ≠ [] := by
  obtain ⟨vote, rest, rfl⟩ := List.exists_cons_of_ne_nil hne
  have hmem : vote ∈ vote :: rest := List.mem_cons_self
  rw [withAction, List.filter_eq_nil_iff] at hdeny hescalate
  intro hallow
  rw [withAction, List.filter_eq_nil_iff] at hallow
  have h := hvotes vote hmem
  have hdeny := hdeny vote hmem
  have hescalate := hescalate vote hmem
  have hallow := hallow vote hmem
  cases haction : vote.action
  all_goals simp [isVote, haction] at h hdeny hescalate hallow

/-- `aggregate`. -/
def aggregate (decisions : List Decision) : Decision :=
  if decisions.isEmpty then { action := .abstain, reason := "no rules registered" }
  else
    let nonAbstain := decisions.filter isVote
    if hne : nonAbstain = [] then { action := .abstain, reason := "all rules abstained" }
    else if hdeny : withAction .deny nonAbstain ≠ [] then
      combine .deny ((withAction .deny nonAbstain).head hdeny) nonAbstain
    else if hescalate : withAction .escalateHuman nonAbstain ≠ [] then
      combine .escalateHuman ((withAction .escalateHuman nonAbstain).head hescalate) nonAbstain
    else
      have hallow := withAction_allow_ne_nil (fun _ hvote => (List.mem_filter.1 hvote).2) hne
        (not_not.1 hdeny) (not_not.1 hescalate)
      combine .allow ((withAction .allow nonAbstain).head hallow) nonAbstain

/-- The votes are listed, whatever wins. -/
theorem contributingRuleIds_aggregate (decisions : List Decision) :
    (aggregate decisions).contributingRuleIds = (decisions.filter isVote).filterMap voter? := by
  unfold aggregate
  split
  · rename_i hempty
    rw [List.isEmpty_iff.1 hempty]
    rfl
  · dsimp only
    split_ifs with hne
    · rw [hne]
      rfl
    all_goals rfl

/-- A denial among the decisions wins, and the first one is its rule and its
reason. -/
theorem aggregate_denied {decisions : List Decision} {denial : Decision} {rest : List Decision}
    (h : withAction .deny decisions = denial :: rest) :
    (aggregate decisions).action = .deny ∧ (aggregate decisions).ruleId = denial.ruleId ∧
      (aggregate decisions).reason = denial.reason := by
  have hmem : denial ∈ decisions ∧ denial.action = .deny := by
    have : denial ∈ withAction .deny decisions := h ▸ List.mem_cons_self
    simpa [withAction] using this
  have hvotes : withAction .deny (decisions.filter isVote) = denial :: rest := by
    rw [← h, withAction, withAction, List.filter_filter]
    refine List.filter_congr fun decision _ => ?_
    cases haction : decision.action <;> simp [isVote, haction]
  have hempty : ¬decisions.isEmpty := by
    intro hempty
    rw [List.isEmpty_iff.1 hempty] at hmem
    cases hmem.1
  have hne : decisions.filter isVote ≠ [] := by
    intro hnone
    rw [hnone] at hvotes
    cases hvotes
  have hdeny : withAction .deny (decisions.filter isVote) ≠ [] := by simp [hvotes]
  have hhead : (withAction .deny (decisions.filter isVote)).head hdeny = denial := by
    simp only [hvotes, List.head_cons]
  unfold aggregate
  rw [if_neg hempty]
  dsimp only
  rw [dif_neg hne, dif_pos hdeny, hhead]
  exact ⟨rfl, rfl, rfl⟩

/-! ## The decisions up to the first denial -/

/-- The decisions up to the first denial, and it. -/
def upToDenial : List Decision → List Decision
  | [] => []
  | decision :: rest =>
    if decision.action = .deny then [decision] else decision :: upToDenial rest

/-- Decisions without a denial are taken whole. -/
theorem upToDenial_eq_self {decisions : List Decision}
    (h : ∀ decision ∈ decisions, decision.action ≠ .deny) : upToDenial decisions = decisions := by
  induction decisions with
  | nil => rfl
  | cons decision rest ih =>
    rw [upToDenial, if_neg (h decision List.mem_cons_self),
      ih (fun other hother => h other (List.mem_cons_of_mem _ hother))]

/-- With a denial, the part ends with the first one. -/
theorem withAction_upToDenial {decisions : List Decision} {denial : Decision}
    {rest : List Decision} (h : withAction .deny decisions = denial :: rest) :
    withAction .deny (upToDenial decisions) = [denial] := by
  induction decisions with
  | nil => cases h
  | cons decision others ih =>
    by_cases hdeny : decision.action = .deny
    · rw [withAction, List.filter_cons_of_pos (by simpa using hdeny)] at h
      rw [upToDenial, if_pos hdeny, ← (List.cons.inj h).1]
      simp [withAction, hdeny]
    · rw [withAction, List.filter_cons_of_neg (by simpa using hdeny)] at h
      rw [upToDenial, if_neg hdeny, withAction, List.filter_cons_of_neg (by simpa using hdeny)]
      exact ih h

/-- What comes before a denial, and what is before or at the first one, is in
the part. -/
theorem mem_upToDenial {before after : List Decision} {decision : Decision}
    (h : ∀ earlier ∈ before, earlier.action ≠ .deny) :
    decision ∈ upToDenial (before ++ decision :: after) := by
  induction before with
  | nil =>
    rw [List.nil_append, upToDenial]
    split
    · exact List.mem_singleton_self _
    · exact List.mem_cons_self
  | cons earlier rest ih =>
    rw [List.cons_append, upToDenial, if_neg (h earlier List.mem_cons_self)]
    exact List.mem_cons_of_mem _ (ih fun other hother => h other (List.mem_cons_of_mem _ hother))

/-- The part has the action, the rule and the reason of the whole. -/
theorem aggregate_upToDenial (decisions : List Decision) :
    (aggregate (upToDenial decisions)).action = (aggregate decisions).action ∧
      (aggregate (upToDenial decisions)).ruleId = (aggregate decisions).ruleId ∧
      (aggregate (upToDenial decisions)).reason = (aggregate decisions).reason := by
  cases hdenials : withAction .deny decisions with
  | nil =>
    rw [withAction, List.filter_eq_nil_iff] at hdenials
    rw [upToDenial_eq_self (fun decision hmem => by simpa using hdenials decision hmem)]
    exact ⟨rfl, rfl, rfl⟩
  | cons denial rest =>
    obtain ⟨haction, hrule, hreason⟩ := aggregate_denied hdenials
    obtain ⟨haction', hrule', hreason'⟩ := aggregate_denied (withAction_upToDenial hdenials)
    rw [haction, hrule, hreason]
    exact ⟨haction', hrule', hreason'⟩

end Decision

end Policy

end MassClaw
