import MassClaw.Safety.Decision
import Mathlib.Data.List.Sort

/-!
# The registry of policy rules, `app/safety/registry.py`

A rule is a function of the policy context, registered under an id with a
priority.  `evaluate` runs the enabled rules in the order of their priorities
and stops at the first denial; a rule that crashes, or returns something else
than a decision, counts as an abstention.

So the decision is the aggregate of the verdicts up to the first denial: the
same action, rule and reason as that of all verdicts, while the votes behind
the first denial are not listed.
-/

namespace MassClaw

namespace Policy

/-- What the function of a rule does: it returns a decision, returns something
else, or raises. -/
inductive RuleOutcome
  | decision (verdict : Decision)
  | nonDecision
  | crash (error : String)

/-- `PolicyRuleEntry`, for rules that look at a context of type `γ`. -/
structure PolicyRuleEntry (γ : Type) where
  ruleId : String
  function : γ → RuleOutcome
  priority : Int := 0
  enabled : Bool := true

/-- `PolicyRegistry._rules`. -/
abbrev PolicyRegistry (γ : Type) := List (String × PolicyRuleEntry γ)

variable {γ : Type}

namespace PolicyRuleEntry

/-- The sort key `(priority, rule_id)` of `PolicyRegistry.all`. -/
def before (a b : PolicyRuleEntry γ) : Bool :=
  a.priority < b.priority ∨ (a.priority = b.priority ∧ a.ruleId ≤ b.ruleId)

/-- The decision that `evaluate` takes from a rule. -/
def verdict (ctx : γ) (rule : PolicyRuleEntry γ) : Decision :=
  match rule.function ctx with
  | .crash error =>
    { action := .abstain, ruleId := some rule.ruleId, reason := "rule crashed: " ++ error }
  | .nonDecision =>
    { action := .abstain, ruleId := some rule.ruleId, reason := "rule returned non-Decision" }
  | .decision verdict => verdict

end PolicyRuleEntry

namespace PolicyRegistry

/-- `register`. -/
def register (registry : PolicyRegistry γ) (entry : PolicyRuleEntry γ) : PolicyRegistry γ :=
  Assoc.set registry entry.ruleId entry

/-- `all`. -/
def all (registry : PolicyRegistry γ) (includeDisabled : Bool := false) :
    List (PolicyRuleEntry γ) :=
  ((registry.map Prod.snd).filter (fun rule => includeDisabled || rule.enabled)).insertionSort
    (fun a b => a.before b)

/-- The loop of `evaluate`. -/
def decisions (ctx : γ) : List (PolicyRuleEntry γ) → List Decision
  | [] => []
  | rule :: rest =>
    match rule.function ctx with
    | .crash _ => rule.verdict ctx :: decisions ctx rest
    | .nonDecision => rule.verdict ctx :: decisions ctx rest
    | .decision verdict =>
      if verdict.action = .deny then [verdict] else verdict :: decisions ctx rest

/-- `evaluate`. -/
def evaluate (registry : PolicyRegistry γ) (ctx : γ) (ruleIds : Option (List String) := none) :
    Decision :=
  let rules := match ruleIds with
    | none => registry.all
    | some ruleIds => (registry.all true).filter (fun rule => rule.ruleId ∈ ruleIds)
  Decision.aggregate (decisions ctx rules)

/-- The loop collects the verdicts up to the first denial. -/
theorem decisions_eq (ctx : γ) (rules : List (PolicyRuleEntry γ)) :
    decisions ctx rules = Decision.upToDenial (rules.map (·.verdict ctx)) := by
  induction rules with
  | nil => rfl
  | cons rule rest ih =>
    rw [List.map_cons, Decision.upToDenial, decisions, ← ih]
    cases hfunction : rule.function ctx with
    | crash error =>
      have habstain : (rule.verdict ctx).action = .abstain := by
        simp [PolicyRuleEntry.verdict, hfunction]
      simp [habstain]
    | nonDecision =>
      have habstain : (rule.verdict ctx).action = .abstain := by
        simp [PolicyRuleEntry.verdict, hfunction]
      simp [habstain]
    | decision verdict =>
      have hverdict : rule.verdict ctx = verdict := by
        simp [PolicyRuleEntry.verdict, hfunction]
      rw [hverdict]

/-- The decision has the action, the rule and the reason of the aggregate of
the verdicts of all enabled rules.  It is that aggregate when no rule denies.
It lists the votes up to the first denial: those of every enabled rule that no
denying rule comes before, if the vote carries an id. -/
theorem evaluate_eq_aggregate (registry : PolicyRegistry γ) (ctx : γ) :
    let verdicts := registry.all.map (·.verdict ctx)
    registry.evaluate ctx = Decision.aggregate (Decision.upToDenial verdicts) ∧
      (registry.evaluate ctx).action = (Decision.aggregate verdicts).action ∧
      (registry.evaluate ctx).ruleId = (Decision.aggregate verdicts).ruleId ∧
      (registry.evaluate ctx).reason = (Decision.aggregate verdicts).reason ∧
      ((∀ verdict ∈ verdicts, verdict.action ≠ .deny) →
        registry.evaluate ctx = Decision.aggregate verdicts) ∧
      (registry.evaluate ctx).contributingRuleIds =
        ((Decision.upToDenial verdicts).filter Decision.isVote).filterMap Decision.voter? ∧
      ∀ earlier rule later ruleId, registry.all = earlier ++ rule :: later →
        (∀ other ∈ earlier, (other.verdict ctx).action ≠ .deny) →
        (rule.verdict ctx).action ≠ .abstain → (rule.verdict ctx).voter? = some ruleId →
        ruleId ∈ (registry.evaluate ctx).contributingRuleIds := by
  intro verdicts
  have hevaluate : registry.evaluate ctx =
      Decision.aggregate (Decision.upToDenial verdicts) := by
    show Decision.aggregate (decisions ctx registry.all) = _
    rw [decisions_eq]
  obtain ⟨haction, hrule, hreason⟩ := Decision.aggregate_upToDenial verdicts
  rw [hevaluate]
  refine ⟨rfl, haction, hrule, hreason, ?_, Decision.contributingRuleIds_aggregate _, ?_⟩
  · intro hpermits
    rw [Decision.upToDenial_eq_self hpermits]
  · intro earlier rule later ruleId hall hearlier hvote hvoter
    have hverdicts : verdicts =
        earlier.map (·.verdict ctx) ++ rule.verdict ctx :: later.map (·.verdict ctx) := by
      show registry.all.map _ = _
      rw [hall, List.map_append, List.map_cons]
    have hmem : rule.verdict ctx ∈ Decision.upToDenial verdicts := by
      rw [hverdicts]
      apply Decision.mem_upToDenial
      intro decision hdecision
      obtain ⟨other, hother, rfl⟩ := List.mem_map.1 hdecision
      exact hearlier other hother
    rw [Decision.contributingRuleIds_aggregate, List.mem_filterMap]
    exact ⟨rule.verdict ctx, List.mem_filter.2 ⟨hmem, by simpa [Decision.isVote] using hvote⟩,
      hvoter⟩

namespace Example

/-- A rule that denies whatever it is asked. -/
def denies (ruleId : String) (priority : Int) : PolicyRuleEntry Unit where
  ruleId
  priority
  function _ := .decision { action := .deny, ruleId := some ruleId, reason := "no" }

/-- Two rules that deny. -/
def registry : PolicyRegistry Unit := register (register [] (denies "a" 0)) (denies "b" 1)

end Example

open Example in
/-- With two denying rules the second vote is not listed. -/
theorem evaluate_lists_fails :
    ¬∀ (registry : PolicyRegistry Unit) (ctx : Unit),
      (registry.evaluate ctx).contributingRuleIds =
        (Decision.aggregate (registry.all.map (·.verdict ctx))).contributingRuleIds := by
  intro h
  have hone : (registry.evaluate ()).contributingRuleIds = ["a"] := by decide +kernel
  have htwo : (Decision.aggregate
      (registry.all.map (·.verdict ()))).contributingRuleIds = ["a", "b"] := by decide +kernel
  have hsame := h registry ()
  rw [hone, htwo] at hsame
  cases hsame

end PolicyRegistry

end Policy

end MassClaw
