import Mathlib.Data.List.Sort
import MassClaw.Core.Basic
import MassClaw.Safety.Conditions

/-!
# The policy rules and what changes them

The table `policy_rules`, the calls of `app/services/policy_service.py` and
`app/safety/policy_engine.py` that write it, and the evaluation of an action
against a list of active rules.

A call reads the committed rows and leaves a write behind that takes effect when
its session commits.
-/

namespace MassClaw

/-- `PolicyAction`. -/
inductive PolicyAction
  | allow | deny | requireApproval | flag | log
  deriving DecidableEq

/-- A row of `policy_rules`, without the audit columns. -/
structure PolicyRule where
  ruleId : UUID
  name : String
  description : Option String
  ruleType : PolicyRuleType
  condition : Json
  action : PolicyAction
  priority : Int
  enabled : Bool

/-- `PolicyRuleCreate`. -/
structure PolicyRuleCreate where
  name : String
  description : Option String := none
  ruleType : PolicyRuleType
  condition : Json
  action : PolicyAction
  priority : Int
  enabled : Bool := true

/-- `model_dump(exclude_unset=True)` of a `PolicyRuleUpdate`: a field is absent, or
present with a value or `None`.  The `None` of `condition` is the JSON `null`. -/
structure PolicyRuleUpdate where
  name : Option (Option String) := none
  description : Option (Option String) := none
  ruleType : Option (Option PolicyRuleType) := none
  condition : Option Json := none
  action : Option (Option PolicyAction) := none
  priority : Option (Option Int) := none
  enabled : Option (Option Bool) := none

/-- The columns that an `UPDATE` sets. -/
structure RuleColumns where
  name : Option String := none
  description : Option (Option String) := none
  ruleType : Option PolicyRuleType := none
  condition : Option Json := none
  action : Option PolicyAction := none
  priority : Option Int := none
  enabled : Option Bool := none

/-- What a flush sends. -/
inductive RuleWrite
  | insert (rule : PolicyRule)
  | update (ruleId : UUID) (columns : RuleColumns)
  | delete (ruleId : UUID)

/-- What a call raises. -/
inductive RuleError
  | notFound (ruleId : String)
  | condition (error : Conditions.ConditionError)
  | nullColumn

namespace RuleColumns

/-- The row with the columns set. -/
def applyTo (columns : RuleColumns) (rule : PolicyRule) : PolicyRule where
  ruleId := rule.ruleId
  name := columns.name.getD rule.name
  description := columns.description.getD rule.description
  ruleType := columns.ruleType.getD rule.ruleType
  condition := columns.condition.getD rule.condition
  action := columns.action.getD rule.action
  priority := columns.priority.getD rule.priority
  enabled := columns.enabled.getD rule.enabled

/-- The columns that differ from the row that was read, which are those that the
session sends. -/
def changedFrom (columns : RuleColumns) (rule : PolicyRule) : RuleColumns where
  name := columns.name.filter (· ≠ rule.name)
  description := columns.description.filter (· ≠ rule.description)
  ruleType := columns.ruleType.filter (· ≠ rule.ruleType)
  condition := columns.condition.filter (fun condition => !condition.pyEq rule.condition)
  action := columns.action.filter (· ≠ rule.action)
  priority := columns.priority.filter (· ≠ rule.priority)
  enabled := columns.enabled.filter (· ≠ rule.enabled)

end RuleColumns

namespace PolicyRuleUpdate

/-- A column that must not be null. -/
def required {α : Type} : Option (Option α) → Except RuleError (Option α)
  | none => .ok none
  | some none => .error .nullColumn
  | some (some value) => .ok (some value)

/-- The columns of the update; the flush raises when one is null that must not be. -/
def columns (data : PolicyRuleUpdate) : Except RuleError RuleColumns := do
  let name ← required data.name
  let ruleType ← required data.ruleType
  let action ← required data.action
  let priority ← required data.priority
  let enabled ← required data.enabled
  let { description, condition, .. } := data
  return { name, description, ruleType, condition, action, priority, enabled }

/-- `not update_fields`. -/
def isEmpty (data : PolicyRuleUpdate) : Bool :=
  data.name.isNone && data.description.isNone && data.ruleType.isNone && data.condition.isNone &&
    data.action.isNone && data.priority.isNone && data.enabled.isNone

end PolicyRuleUpdate

namespace RuleWrite

/-- The rows after the write. -/
def apply (rows : List PolicyRule) : RuleWrite → List PolicyRule
  | insert rule => rows ++ [rule]
  | update ruleId columns =>
    rows.map (fun rule => if rule.ruleId = ruleId then columns.applyTo rule else rule)
  | delete ruleId => rows.filter (·.ruleId ≠ ruleId)

end RuleWrite

/-- `get_rule`, `_get_rule_or_raise`. -/
def getRule (rows : List PolicyRule) (ruleId : UUID) : Except RuleError PolicyRule :=
  match rows.find? (·.ruleId = ruleId) with
  | some rule => .ok rule
  | none => .error (.notFound ruleId.str)

/-- The row of a new rule; the id is drawn by the database. -/
def PolicyRuleCreate.toRule (data : PolicyRuleCreate) (ruleId : UUID) : PolicyRule where
  ruleId := ruleId
  name := data.name
  description := data.description
  ruleType := data.ruleType
  condition := data.condition
  action := data.action
  priority := data.priority
  enabled := data.enabled

/-! ## `PolicyService` -/

namespace PolicyService

/-- `create_rule`. -/
def createRule (ruleId : UUID) (data : PolicyRuleCreate) : Except RuleError (Option RuleWrite) :=
  .ok (some (.insert (data.toRule ruleId)))

/-- `update_rule`; an update without fields writes nothing. -/
def updateRule (rows : List PolicyRule) (ruleId : UUID) (data : PolicyRuleUpdate) :
    Except RuleError (Option RuleWrite) := do
  let rule ← getRule rows ruleId
  if data.isEmpty then return none
  let columns ← data.columns
  return some (.update ruleId (columns.changedFrom rule))

/-- `delete_rule`. -/
def deleteRule (rows : List PolicyRule) (ruleId : UUID) : Except RuleError (Option RuleWrite) := do
  let _ ← getRule rows ruleId
  return some (.delete ruleId)

/-- `toggle_rule`, which flips the rule. -/
def toggleRule (rows : List PolicyRule) (ruleId : UUID) : Except RuleError (Option RuleWrite) := do
  let rule ← getRule rows ruleId
  return some (.update ruleId { enabled := some !rule.enabled })

end PolicyService

/-! ## `safety.PolicyEngine` -/

namespace PolicyEngine

variable (builtins : Builtins)

/-- `_validate_condition` in a call. -/
def checkCondition (condition : Json) : Except RuleError Unit :=
  match Conditions.validateCondition builtins condition with
  | .ok () => .ok ()
  | .error error => .error (.condition error)

/-- `create_rule`. -/
def createRule (ruleId : UUID) (data : PolicyRuleCreate) : Except RuleError (Option RuleWrite) := do
  checkCondition builtins data.condition
  return some (.insert (data.toRule ruleId))

/-- `update_rule`. -/
def updateRule (rows : List PolicyRule) (ruleId : UUID) (data : PolicyRuleUpdate) :
    Except RuleError (Option RuleWrite) := do
  let rule ← getRule rows ruleId
  if data.isEmpty then return none
  if let some condition := data.condition then checkCondition builtins condition
  let columns ← data.columns
  return some (.update ruleId (columns.changedFrom rule))

/-- `toggle_rule`, which sets the rule. -/
def toggleRule (rows : List PolicyRule) (ruleId : UUID) (enabled : Bool) :
    Except RuleError (Option RuleWrite) := do
  let rule ← getRule rows ruleId
  let columns : RuleColumns := { enabled := some enabled }
  return some (.update ruleId (columns.changedFrom rule))

end PolicyEngine

/-! ## Active rules -/

/-- What is serialised of a rule. -/
structure ActiveRule where
  ruleId : UUID
  name : String
  description : Option String
  ruleType : PolicyRuleType
  condition : Json
  action : PolicyAction
  priority : Int

/-- The serialised form of a row. -/
def PolicyRule.serialised (rule : PolicyRule) : ActiveRule where
  ruleId := rule.ruleId
  name := rule.name
  description := rule.description
  ruleType := rule.ruleType
  condition := rule.condition
  action := rule.action
  priority := rule.priority

/-- The enabled rows by priority; those of one priority come in the order of the table. -/
def activeRules (rows : List PolicyRule) : List ActiveRule :=
  ((rows.filter (·.enabled)).insertionSort (fun a b => a.priority ≤ b.priority)).map
    PolicyRule.serialised

/-! ## The evaluation -/

/-- `PolicyViolationDetail`. -/
structure PolicyViolationDetail where
  ruleName : String
  ruleId : UUID
  action : PolicyAction
  reason : String

/-- `PolicyDecisionResponse`. -/
structure PolicyDecisionResponse where
  approved : Bool
  action : PolicyAction
  matchedRule : Option String := none
  reason : String
  violations : List PolicyViolationDetail := []

/-- The value of a rule type. -/
def PolicyRuleType.value : PolicyRuleType → String
  | content => "content"
  | access => "access"
  | resource => "resource"
  | workflow => "workflow"

namespace ActiveRule

/-- The rule is for the action: its type is the action, or the first part of it. -/
def isFor (rule : ActiveRule) (action : String) : Bool :=
  action == rule.ruleType.value || (rule.ruleType.value ++ ".").toList.isPrefixOf action.toList

/-- `rule.get("description") or ...`. -/
def describe (rule : ActiveRule) (fallback : String) : String :=
  match rule.description with
  | none => fallback
  | some description => if description = "" then fallback else description

end ActiveRule

namespace PolicyEngine

variable (builtins : Builtins) (context : List (String × Json))

/-- The loop over the matching rules, up to the first that denies or requires
approval.  A condition that cannot be evaluated does not match. -/
def evaluateRules (violations : List PolicyViolationDetail) : List ActiveRule → PolicyDecisionResponse
  | [] =>
    { approved := true
      action := .allow
      reason := "No matching policy rules triggered; action allowed by default."
      violations }
  | rule :: rest =>
    match Conditions.evaluateCondition builtins context rule.condition with
    | .ok true =>
      let name := rule.name
      let violations := violations ++ [{
        ruleName := rule.name
        ruleId := rule.ruleId
        action := rule.action
        reason := rule.describe s!"Rule '{name}' triggered." }]
      if rule.action = .deny ∨ rule.action = .requireApproval then
        { approved := false
          action := rule.action
          matchedRule := some rule.name
          reason := rule.describe s!"Action blocked by policy rule '{name}'."
          violations }
      else evaluateRules violations rest
    | _ => evaluateRules violations rest

/-- `evaluate`, once the rules are loaded. -/
def evaluateWith (rules : List ActiveRule) (action : String) : PolicyDecisionResponse :=
  evaluateRules builtins context []
    ((rules.filter (·.isFor action)).insertionSort (fun a b => a.priority ≤ b.priority))

end PolicyEngine

end MassClaw
