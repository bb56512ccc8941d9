import MassClaw.Lib.ShortCircuit
import MassClaw.Safety.PolicyRules

/-!
# Conditions that pass the check and cannot be evaluated

`_validate_condition` asks a leaf for the keys `field`, `op` and `value`, and
looks at the operator only.  A field that is not a text is accepted; when such a
leaf is reached, the evaluation raises, and `evaluate` goes on to the next rule,
whatever the action of this one.
-/

namespace MassClaw

namespace Conditions

open Json

/-! ## What a condition says -/

section Meaning

variable (builtins : Builtins) (context : List (String × Json))

/-- What a leaf says; one that cannot be read says no. -/
def leafHolds (entries : List (String × Json)) : Bool :=
  match get? entries "field", get? entries "op" with
  | some (.str path), some (.str name) =>
    match ConditionOp.ofText name with
    | some op =>
      leafVerdict builtins op (resolveField builtins (.inl (.dict context)) (pathParts path))
        (get? entries "value")
    | none => false
  | _, _ => false

/-- What a condition says, every part of it taken into account. -/
def holds (condition : Json) : Bool :=
  match condition with
  | .dict entries =>
    match _hall : get? entries "all" with
    | some (.list children) => children.attach.all (fun child => holds child.1)
    | some _ => false
    | none =>
      match _hany : get? entries "any" with
      | some (.list children) => children.attach.any (fun child => holds child.1)
      | some _ => false
      | none =>
        match _hnot : get? entries "not" with
        | some (.dict child) => !holds (.dict child)
        | some _ => false
        | none => leafHolds builtins context entries
  | _ => false
termination_by sizeOf condition
decreasing_by
  · exact (List.sizeOf_lt_of_mem child.2).trans (sizeOf_items_lt_dict _hall)
  · exact (List.sizeOf_lt_of_mem child.2).trans (sizeOf_items_lt_dict _hany)
  · exact sizeOf_get?_lt_dict _hnot

end Meaning

/-- The documents that the check accepts. -/
inductive Accepted : Json → Prop
  | all {entries : List (String × Json)} {children : List Json}
      (hall : get? entries "all" = some (.list children))
      (hchildren : ∀ child ∈ children, Accepted child) : Accepted (.dict entries)
  | any {entries : List (String × Json)} {children : List Json}
      (hall : get? entries "all" = none) (hany : get? entries "any" = some (.list children))
      (hchildren : ∀ child ∈ children, Accepted child) : Accepted (.dict entries)
  | not {entries child : List (String × Json)}
      (hall : get? entries "all" = none) (hany : get? entries "any" = none)
      (hnot : get? entries "not" = some (.dict child))
      (hchild : Accepted (.dict child)) : Accepted (.dict entries)
  | leaf {entries : List (String × Json)} {field : Json} {name : String} {op : ConditionOp}
      (hflat : Flat entries) (hfield : get? entries "field" = some field)
      (hname : get? entries "op" = some (.str name)) (hop : ConditionOp.ofText name = some op) :
      Accepted (.dict entries)

/-- Every leaf that is reached has a text for its field. -/
inductive Evaluable (builtins : Builtins) (context : List (String × Json)) : Json → Prop
  | all {entries : List (String × Json)} {children : List Json}
      (hall : get? entries "all" = some (.list children))
      (hchildren : ∀ child, ShortCircuit.Reached (holds builtins context) false children child →
        Evaluable builtins context child) : Evaluable builtins context (.dict entries)
  | any {entries : List (String × Json)} {children : List Json}
      (hall : get? entries "all" = none) (hany : get? entries "any" = some (.list children))
      (hchildren : ∀ child, ShortCircuit.Reached (holds builtins context) true children child →
        Evaluable builtins context child) : Evaluable builtins context (.dict entries)
  | not {entries child : List (String × Json)}
      (hall : get? entries "all" = none) (hany : get? entries "any" = none)
      (hnot : get? entries "not" = some (.dict child))
      (hchild : Evaluable builtins context (.dict child)) : Evaluable builtins context (.dict entries)
  | leaf {entries : List (String × Json)} {path : String} (hflat : Flat entries)
      (hfield : get? entries "field" = some (.str path)) : Evaluable builtins context (.dict entries)

variable {builtins : Builtins} {entries context : List (String × Json)} {children : List Json}

/-! ## The check -/

/-- The children that the check accepts are accepted one by one. -/
theorem validateChildren_ok (h : validateChildren builtins children = .ok ()) :
    ∀ child ∈ children, validateCondition builtins child = .ok () := by
  induction children with
  | nil => exact fun child hchild => absurd hchild List.not_mem_nil
  | cons first rest ih =>
    rw [validateChildren] at h
    cases hfirst : validateCondition builtins first with
    | error error =>
      rw [hfirst] at h
      cases h
    | ok _ =>
      rw [hfirst] at h
      intro child hchild
      rcases List.mem_cons.1 hchild with rfl | hrest
      · exact hfirst
      · exact ih h child hrest

theorem accepted_of_validateCondition {condition : Json}
    (h : validateCondition builtins condition = .ok ()) : Accepted condition := by
  unfold validateCondition at h
  split at h
  · split at h
    · rename_i hall
      apply Accepted.all hall
      intro child hchild
      have hlt := (List.sizeOf_lt_of_mem hchild).trans (sizeOf_items_lt_dict hall)
      exact accepted_of_validateCondition (validateChildren_ok h child hchild)
    · cases h
    rename_i hall
    split at h
    · rename_i hany
      apply Accepted.any hall hany
      intro child hchild
      have hlt := (List.sizeOf_lt_of_mem hchild).trans (sizeOf_items_lt_dict hany)
      exact accepted_of_validateCondition (validateChildren_ok h child hchild)
    · cases h
    rename_i hany
    split at h
    · rename_i hnot
      have hlt := sizeOf_get?_lt_dict hnot
      exact .not hall hany hnot (accepted_of_validateCondition h)
    · cases h
    rename_i hnot
    obtain ⟨field, name, op, hfield, hname, hop, -⟩ := validateLeaf_ok h
    exact .leaf ⟨hall, hany, hnot⟩ hfield hname hop
  · cases h
termination_by sizeOf condition
decreasing_by
  all_goals
    subst_vars
    assumption

/-! ## The evaluation, case by case -/

section All

variable (h : get? entries "all" = some (.list children))

include h

theorem holds_all : holds builtins context (.dict entries) =
    children.all (holds builtins context) := by
  rw [holds, h]
  simp

theorem evaluateCondition_all : evaluateCondition builtins context (.dict entries) =
    evaluateAll builtins context children := by
  rw [evaluateCondition, h]

end All

section Any

variable (hall : get? entries "all" = none) (h : get? entries "any" = some (.list children))

include hall h

theorem holds_any : holds builtins context (.dict entries) =
    children.any (holds builtins context) := by
  rw [holds, hall, h]
  simp

theorem evaluateCondition_any : evaluateCondition builtins context (.dict entries) =
    evaluateAny builtins context children := by
  rw [evaluateCondition, hall, h]

end Any

section Not

variable {child : List (String × Json)} (hall : get? entries "all" = none)
  (hany : get? entries "any" = none) (h : get? entries "not" = some (.dict child))

include hall hany h

theorem holds_not : holds builtins context (.dict entries) =
    !holds builtins context (.dict child) := by
  rw [holds, hall, hany, h]

theorem evaluateCondition_not : evaluateCondition builtins context (.dict entries) =
    (evaluateCondition builtins context (.dict child)).map (fun verdict => !verdict) := by
  rw [evaluateCondition, hall, hany, h]
  dsimp only
  cases evaluateCondition builtins context (.dict child) with
  | error error => rfl
  | ok verdict => rfl

end Not

theorem holds_flat (h : Flat entries) :
    holds builtins context (.dict entries) = leafHolds builtins context entries := by
  rw [holds, h.all, h.any, h.not]

theorem evaluateAll_eq_run (children : List Json) : evaluateAll builtins context children =
    ShortCircuit.run (evaluateCondition builtins context) false children := by
  induction children with
  | nil => rw [evaluateAll, ShortCircuit.run, Bool.not_false]
  | cons child rest ih =>
    rw [evaluateAll, ShortCircuit.run]
    cases evaluateCondition builtins context child with
    | error error => rfl
    | ok verdict =>
      cases verdict with
      | false => rfl
      | true => exact ih

theorem evaluateAny_eq_run (children : List Json) : evaluateAny builtins context children =
    ShortCircuit.run (evaluateCondition builtins context) true children := by
  induction children with
  | nil => rw [evaluateAny, ShortCircuit.run, Bool.not_true]
  | cons child rest ih =>
    rw [evaluateAny, ShortCircuit.run]
    cases evaluateCondition builtins context child with
    | error error => rfl
    | ok verdict =>
      cases verdict with
      | false => exact ih
      | true => rfl

/-! ## When the evaluation returns -/

/-- The evaluation returns exactly on what can be evaluated, with what the
condition says. -/
def Faithful (builtins : Builtins) (context : List (String × Json)) (condition : Json) : Prop :=
  ShortCircuit.Faithful (evaluateCondition builtins context) (holds builtins context)
    (Evaluable builtins context) condition

theorem faithful_all (hall : get? entries "all" = some (.list children))
    (h : ∀ child ∈ children, Faithful builtins context child) :
    Faithful builtins context (.dict entries) := by
  constructor
  · intro verdict hverdict
    rw [evaluateCondition_all hall, evaluateAll_eq_run] at hverdict
    rw [ShortCircuit.run_sound h hverdict, holds_all hall, Bool.eq_iff_iff, List.all_eq_true]
    simp
  · rw [evaluateCondition_all hall, evaluateAll_eq_run, ShortCircuit.run_returns h]
    constructor
    · exact Evaluable.all hall
    · intro hevaluable
      cases hevaluable with
      | all hall' hchildren =>
        cases hall'.symm.trans hall
        exact hchildren
      | any hall' => cases hall'.symm.trans hall
      | not hall' => cases hall'.symm.trans hall
      | leaf hflat => cases hflat.all.symm.trans hall

theorem faithful_any (hall : get? entries "all" = none)
    (hany : get? entries "any" = some (.list children))
    (h : ∀ child ∈ children, Faithful builtins context child) :
    Faithful builtins context (.dict entries) := by
  constructor
  · intro verdict hverdict
    rw [evaluateCondition_any hall hany, evaluateAny_eq_run] at hverdict
    rw [ShortCircuit.run_sound h hverdict, holds_any hall hany, Bool.eq_iff_iff, List.any_eq_true]
    simp
  · rw [evaluateCondition_any hall hany, evaluateAny_eq_run, ShortCircuit.run_returns h]
    constructor
    · exact Evaluable.any hall hany
    · intro hevaluable
      cases hevaluable with
      | all hall' => cases hall'.symm.trans hall
      | any _ hany' hchildren =>
        cases hany'.symm.trans hany
        exact hchildren
      | not _ hany' => cases hany'.symm.trans hany
      | leaf hflat => cases hflat.any.symm.trans hany

theorem faithful_not {child : List (String × Json)} (hall : get? entries "all" = none)
    (hany : get? entries "any" = none) (hnot : get? entries "not" = some (.dict child))
    (h : Faithful builtins context (.dict child)) : Faithful builtins context (.dict entries) := by
  have heval : evaluateCondition builtins context (.dict entries) = _ :=
    evaluateCondition_not hall hany hnot
  constructor
  · intro verdict hverdict
    rw [heval] at hverdict
    rw [holds_not hall hany hnot]
    cases hchild : evaluateCondition builtins context (.dict child) with
    | error error =>
      rw [hchild] at hverdict
      cases hverdict
    | ok found =>
      rw [hchild] at hverdict
      cases hverdict
      rw [h.sound found hchild]
  · rw [heval]
    constructor
    · intro ⟨verdict, hverdict⟩
      apply Evaluable.not hall hany hnot
      apply h.returns.1
      cases hchild : evaluateCondition builtins context (.dict child) with
      | error error =>
        rw [hchild] at hverdict
        cases hverdict
      | ok found => exact ⟨found, rfl⟩
    · intro hevaluable
      cases hevaluable with
      | all hall' => cases hall'.symm.trans hall
      | any _ hany' => cases hany'.symm.trans hany
      | not _ _ hnot' hchild =>
        cases hnot'.symm.trans hnot
        rw [h.eval_eq hchild]
        exact ⟨_, rfl⟩
      | leaf hflat => cases hflat.not.symm.trans hnot

/-- A leaf is evaluated exactly if its field is a text. -/
theorem faithful_leaf {field : Json} {name : String} {op : ConditionOp} (hflat : Flat entries)
    (hfield : get? entries "field" = some field) (hname : get? entries "op" = some (.str name))
    (hop : ConditionOp.ofText name = some op) : Faithful builtins context (.dict entries) := by
  constructor
  · intro verdict hverdict
    rw [evaluateCondition_flat hflat] at hverdict
    rw [holds_flat hflat, leafHolds, hname, hfield]
    cases field with
    | str path =>
      rw [evaluateLeaf_eq hfield hname hop] at hverdict
      cases hverdict
      dsimp only
      rw [hop]
    | null | bool b | int n | float x | list items | dict entries =>
      simp [evaluateLeaf, lookup_eq, hfield, hname, supportedOp, hop] at hverdict
  · rw [evaluateCondition_flat hflat]
    constructor
    · intro hreturns
      obtain ⟨verdict, hverdict⟩ := hreturns
      cases field with
      | str path => exact .leaf hflat hfield
      | null | bool b | int n | float x | list items | dict entries =>
        simp [evaluateLeaf, lookup_eq, hfield, hname, supportedOp, hop] at hverdict
    · intro hevaluable
      cases hevaluable with
      | all hall => cases hflat.all.symm.trans hall
      | any _ hany => cases hflat.any.symm.trans hany
      | not _ _ hnot => cases hflat.not.symm.trans hnot
      | leaf _ hpath =>
        rw [evaluateLeaf_eq hpath hname hop]
        exact ⟨_, rfl⟩

theorem Accepted.faithful {condition : Json} (h : Accepted condition) :
    Faithful builtins context condition := by
  induction h with
  | all hall _ ih => exact faithful_all hall ih
  | any hall hany _ ih => exact faithful_any hall hany ih
  | not hall hany hnot _ ih => exact faithful_not hall hany hnot ih
  | leaf hflat hfield hname hop => exact faithful_leaf hflat hfield hname hop

end Conditions

/-! ## Rules that deny -/

namespace PolicyEngine

open Conditions

variable {builtins : Builtins} {context : List (String × Json)}

/-- A rule that denies and is found to hold blocks the action, unless an earlier
one does. -/
theorem evaluateRules_denies {rules : List ActiveRule} {rule : ActiveRule} (hrule : rule ∈ rules)
    (hdeny : rule.action = .deny)
    (hmet : evaluateCondition builtins context rule.condition = .ok true)
    (violations : List PolicyViolationDetail) :
    (evaluateRules builtins context violations rules).approved = false := by
  induction rules generalizing violations with
  | nil => cases hrule
  | cons first rest ih =>
    unfold evaluateRules
    rcases List.mem_cons.1 hrule with rfl | hlater
    · rw [hmet]
      dsimp only
      rw [if_pos (Or.inl hdeny)]
    · split
      · dsimp only
        split
        · rfl
        · exact ih hlater _
      · exact ih hlater violations

/-- The condition is evaluated without an exception, and a rule that denies on
it blocks every action it is for when it holds. -/
structure Enforced (builtins : Builtins) (context : List (String × Json)) (condition : Json) :
    Prop where
  returns : ∃ verdict, evaluateCondition builtins context condition = .ok verdict
  denies : ∀ rules action, ∀ rule ∈ rules, rule.condition = condition → rule.action = .deny →
    rule.isFor action = true → holds builtins context condition = true →
      (evaluateWith builtins context rules action).approved = false

/-- A condition that passed the check is enforced in a context exactly if every
leaf that is reached has a text for its field. -/
theorem enforced_iff {condition : Json} (h : validateCondition builtins condition = .ok ()) :
    Enforced builtins context condition ↔ Evaluable builtins context condition := by
  have hfaithful : Faithful builtins context condition :=
    (accepted_of_validateCondition h).faithful
  constructor
  · intro henforced
    exact hfaithful.returns.1 henforced.returns
  · intro hevaluable
    refine ⟨hfaithful.returns.2 hevaluable, ?_⟩
    intro rules action rule hrule hcondition hdeny hfor hholds
    have hmem : rule ∈ (rules.filter (·.isFor action)).insertionSort
        (fun a b => a.priority ≤ b.priority) :=
      (List.mem_insertionSort _).2 (List.mem_filter.2 ⟨hrule, hfor⟩)
    apply evaluateRules_denies hmem hdeny
    rw [hcondition, hfaithful.eval_eq hevaluable, hholds]

namespace NumberField

open ConditionExample

/-- `{"field": 5, "op": "eq", "value": 1}`. -/
def numberField : List (String × Json) :=
  [("field", .int 5), ("op", .str "eq"), ("value", .int 1)]

/-- `{"field": "role", "op": "eq", "value": "guest"}`. -/
def isGuest : List (String × Json) :=
  [("field", .str "role"), ("op", .str "eq"), ("value", .str "guest")]

/-- `{"any": [...]}` with these two. -/
def either : List (String × Json) := [("any", .list [.dict numberField, .dict isGuest])]

def denyGuests : ActiveRule where
  ruleId := UUID.ofNat 1
  name := "no guests"
  description := none
  ruleType := .access
  condition := .dict either
  action := .deny
  priority := 0

/-- `{"any": [...]}` with the two in the other order. -/
def guestFirst : List (String × Json) := [("any", .list [.dict isGuest, .dict numberField])]

theorem flat_numberField : Flat numberField := ⟨rfl, rfl, rfl⟩

theorem flat_isGuest : Flat isGuest := ⟨rfl, rfl, rfl⟩

theorem validate_either : validateCondition plain (.dict either) = .ok () := by
  rw [validateCondition]
  show validateChildren plain [.dict numberField, .dict isGuest] = _
  rw [validateChildren, validateCondition_flat flat_numberField]
  show validateChildren plain [.dict isGuest] = _
  rw [validateChildren, validateCondition_flat flat_isGuest]
  show validateChildren plain [] = _
  rw [validateChildren]

theorem validate_guestFirst : validateCondition plain (.dict guestFirst) = .ok () := by
  rw [validateCondition]
  show validateChildren plain [.dict isGuest, .dict numberField] = _
  rw [validateChildren, validateCondition_flat flat_isGuest]
  show validateChildren plain [.dict numberField] = _
  rw [validateChildren, validateCondition_flat flat_numberField]
  show validateChildren plain [] = _
  rw [validateChildren]

theorem holds_isGuest : holds plain guestContext (.dict isGuest) = true := by
  rw [holds_flat flat_isGuest]
  rfl

theorem evaluate_either :
    evaluateCondition plain guestContext (.dict either) = .error .other := by
  rw [evaluateCondition_any rfl rfl]
  rw [evaluateAny, evaluateCondition_flat flat_numberField]
  rfl

end NumberField

open PolicyEngine.NumberField ConditionExample in
/-- With the guest first, the number is not reached. -/
theorem enforced_guestFirst : Enforced plain guestContext (.dict guestFirst) := by
  apply (enforced_iff validate_guestFirst).2
  have hany : Json.get? guestFirst "any" = some (.list [.dict isGuest, .dict numberField]) := rfl
  apply Evaluable.any rfl hany
  intro child hreached
  rcases ShortCircuit.reached_cons_iff.1 hreached with rfl | ⟨hguest, -⟩
  · have hrole : Json.get? isGuest "field" = some (.str "role") := rfl
    exact .leaf flat_isGuest hrole
  · exact absurd holds_isGuest hguest

open PolicyEngine.NumberField ConditionExample in
/-- A rule that denies guests is skipped for a guest, because the other
alternative of its condition cannot be evaluated. -/
theorem enforced_fails :
    validateCondition plain (.dict either) = .ok () ∧
      (¬∃ verdict, evaluateCondition plain guestContext (.dict either) = .ok verdict) ∧
      holds plain guestContext (.dict either) = true ∧
      (evaluateWith plain guestContext [denyGuests] "access").approved = true := by
  refine ⟨validate_either, ?_, ?_, ?_⟩
  · intro hreturns
    obtain ⟨verdict, hverdict⟩ := hreturns
    rw [evaluate_either] at hverdict
    cases hverdict
  · have hany : Json.get? either "any" = some (.list [.dict numberField, .dict isGuest]) := rfl
    rw [holds_any rfl hany, List.any_cons, List.any_cons, holds_isGuest, Bool.true_or,
      Bool.or_true]
  · have hrules : evaluateWith plain guestContext [denyGuests] "access" =
        evaluateRules plain guestContext [] [denyGuests] := rfl
    have hcondition : evaluateCondition plain guestContext denyGuests.condition = .error .other :=
      evaluate_either
    rw [hrules, evaluateRules, hcondition]
    rfl

end PolicyEngine

end MassClaw
