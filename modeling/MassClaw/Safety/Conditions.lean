import MassClaw.Core.Operators

/-!
# The conditions of policy rules

The rows of `policy_rules` are read by two evaluators.  That of
`app/safety/policy_engine.py` knows trees of conditions and ten operators, and
compares values as Python does.  That of `app/services/policy_service.py` knows
one comparison and the name of an action, compares numbers as floats, and takes
a field that is null or not reached through dictionaries for a field that is not
there.

`sameVerdict_iff` says for which conditions and contexts the two agree.
-/

namespace MassClaw

/-- `PolicyRuleType`. -/
inductive PolicyRuleType
  | content | access | resource | workflow
  deriving DecidableEq

/-- `_SUPPORTED_OPS`. -/
inductive ConditionOp
  | eq | ne | order (ordering : Order) | isIn | notIn | contains | exists_
  deriving DecidableEq

namespace ConditionOp

/-- The operator of a name. -/
def ofText : String → Option ConditionOp
  | "eq" => some eq
  | "ne" => some ne
  | "lt" => some (order .lt)
  | "le" => some (order .le)
  | "gt" => some (order .gt)
  | "ge" => some (order .ge)
  | "in" => some isIn
  | "not_in" => some notIn
  | "contains" => some contains
  | "exists" => some exists_
  | _ => none

/-- The names, sorted. -/
def names : List String :=
  ["contains", "eq", "exists", "ge", "gt", "in", "le", "lt", "ne", "not_in"]

/-- `_OP_DISPATCH`, which has no entry for `exists`; `none` is a `TypeError`. -/
def dispatch (op : ConditionOp) (value ref : Json) : Option Bool :=
  match op with
  | eq => some (value.pyEq ref)
  | ne => some !(value.pyEq ref)
  | order ordering => value.ordered ordering ref
  | isIn => value.isIn ref
  | notIn => (value.isIn ref).map not
  | contains => ref.isIn value
  | exists_ => none

end ConditionOp

/-- What the evaluators use of the language beyond JSON values: the attributes of
values that are no dictionaries, the operators on attributes that are no JSON
values, what `float()` reads out of a text, and `repr`. -/
structure Builtins where
  Object : Type
  getattr : Json ⊕ Object → String → Option (Json ⊕ Object)
  dispatch : ConditionOp → Object → Json → Option Bool
  floatOfText : String → Option PyFloat
  repr : Json → String

/-- `field_path.split(".")`. -/
def pathParts (path : String) : List String :=
  (path.toList.splitOn '.').map String.ofList

namespace Conditions

open Json

/-- What is raised: a `ValidationError`, or an exception of the language. -/
inductive ConditionError
  | validation (message : String)
  | other

/-! ## `app/safety/policy_engine.py` -/

/-- The operator of a condition. -/
def supportedOp (builtins : Builtins) (op : Json) : Except ConditionError ConditionOp :=
  let supported := builtins.repr (.list (ConditionOp.names.map .str))
  let name := op.pyStr builtins.repr
  let unsupported : ConditionError :=
    .validation s!"Unsupported operator '{name}'. Supported: {supported}"
  match op with
  | .str text =>
    match ConditionOp.ofText text with
    | some op => .ok op
    | none => .error unsupported
  | .list _ => .error .other
  | .dict _ => .error .other
  | _ => .error unsupported

/-- A leaf of `_validate_condition`. -/
def validateLeaf (builtins : Builtins) (entries : List (String × Json)) :
    Except ConditionError Unit :=
  match get? entries "field", get? entries "op" with
  | some _, some op =>
    match supportedOp builtins op with
    | .error error => .error error
    | .ok .exists_ => .ok ()
    | .ok _ =>
      match get? entries "value" with
      | some _ => .ok ()
      | none =>
        let name := op.pyStr builtins.repr
        .error (.validation s!"Operator '{name}' requires a 'value' key in the condition.")
  | _, _ =>
    let keys := builtins.repr (.list (((entries.map Prod.fst).mergeSort).map .str))
    .error (.validation s!"Leaf condition must include 'field' and 'op' keys. Got: {keys}")

mutual

/-- `_validate_condition`. -/
def validateCondition (builtins : Builtins) (condition : Json) : Except ConditionError Unit :=
  match condition with
  | .dict entries =>
    match _hall : get? entries "all" with
    | some (.list (child :: children)) => validateChildren builtins (child :: children)
    | some _ => .error (.validation "'all' combinator requires a non-empty list.")
    | none =>
      match _hany : get? entries "any" with
      | some (.list (child :: children)) => validateChildren builtins (child :: children)
      | some _ => .error (.validation "'any' combinator requires a non-empty list.")
      | none =>
        match _hnot : get? entries "not" with
        | some (.dict child) => validateCondition builtins (.dict child)
        | some _ => .error (.validation "'not' combinator requires a condition object.")
        | none => validateLeaf builtins entries
  | _ => .error (.validation "Condition must be a JSON object (dict).")
termination_by sizeOf condition
decreasing_by
  · exact sizeOf_items_lt_dict _hall
  · exact sizeOf_items_lt_dict _hany
  · exact sizeOf_get?_lt_dict _hnot

/-- The children of a combinator, in their order. -/
def validateChildren (builtins : Builtins) (children : List Json) : Except ConditionError Unit :=
  match children with
  | [] => .ok ()
  | child :: rest =>
    match validateCondition builtins child with
    | .error error => .error error
    | .ok () => validateChildren builtins rest
termination_by sizeOf children

end

/-- `_resolve_field`. -/
def resolveField (builtins : Builtins) :
    Json ⊕ builtins.Object → List String → Option (Json ⊕ builtins.Object)
  | current, [] => some current
  | .inl (.dict entries), part :: rest =>
    match get? entries part with
    | none => none
    | some value => resolveField builtins (.inl value) rest
  | current, part :: rest =>
    match builtins.getattr current part with
    | none => none
    | some value => resolveField builtins value rest

/-- An operator on what the field has been resolved to.  A `TypeError` counts as
no match. -/
def leafVerdict (builtins : Builtins) (op : ConditionOp)
    (resolved : Option (Json ⊕ builtins.Object)) (value : Option Json) : Bool :=
  if op = .exists_ then resolved.isSome == (value.getD (.bool true)).truthy
  else
    match resolved with
    | none => false
    | some (.inl found) => (op.dispatch found (value.getD .null)).getD false
    | some (.inr found) => (builtins.dispatch op found (value.getD .null)).getD false

/-- A leaf of `_evaluate_condition`. -/
def evaluateLeaf (builtins : Builtins) (context entries : List (String × Json)) :
    Except ConditionError Bool :=
  match lookup entries "field", lookup entries "op" with
  | .null, _ | _, .null =>
    let keys := builtins.repr (.list ((entries.map Prod.fst).map .str))
    .error (.validation
      s!"Invalid condition structure; expected 'field' and 'op', got keys: {keys}")
  | field, op =>
    match supportedOp builtins op with
    | .error error => .error error
    | .ok op =>
      match field with
      | .str path =>
        let resolved := resolveField builtins (.inl (.dict context)) (pathParts path)
        .ok (leafVerdict builtins op resolved (get? entries "value"))
      | _ => .error .other

mutual

/-- `_evaluate_condition`. -/
def evaluateCondition (builtins : Builtins) (context : List (String × Json)) (condition : Json) :
    Except ConditionError Bool :=
  match condition with
  | .dict entries =>
    match _hall : get? entries "all" with
    | some (.list children) => evaluateAll builtins context children
    | some _ => .error (.validation "'all' combinator must contain a list of conditions.")
    | none =>
      match _hany : get? entries "any" with
      | some (.list children) => evaluateAny builtins context children
      | some _ => .error (.validation "'any' combinator must contain a list of conditions.")
      | none =>
        match _hnot : get? entries "not" with
        | some (.dict child) =>
          match evaluateCondition builtins context (.dict child) with
          | .error error => .error error
          | .ok verdict => .ok !verdict
        | some _ => .error (.validation "'not' combinator must contain a single condition dict.")
        | none => evaluateLeaf builtins context entries
  | _ => .error .other
termination_by sizeOf condition
decreasing_by
  · exact sizeOf_items_lt_dict _hall
  · exact sizeOf_items_lt_dict _hany
  · exact sizeOf_get?_lt_dict _hnot

/-- `all(...)`, up to the first child that does not hold. -/
def evaluateAll (builtins : Builtins) (context : List (String × Json)) (children : List Json) :
    Except ConditionError Bool :=
  match children with
  | [] => .ok true
  | child :: rest =>
    match evaluateCondition builtins context child with
    | .ok true => evaluateAll builtins context rest
    | verdict => verdict
termination_by sizeOf children

/-- `any(...)`, up to the first child that holds. -/
def evaluateAny (builtins : Builtins) (context : List (String × Json)) (children : List Json) :
    Except ConditionError Bool :=
  match children with
  | [] => .ok false
  | child :: rest =>
    match evaluateCondition builtins context child with
    | .ok false => evaluateAny builtins context rest
    | verdict => verdict
termination_by sizeOf children

end

/-! ## `app/services/policy_service.py` -/

/-- What the loop over the parts of a field path leaves in `actual`. -/
def walk : Json → List String → Json
  | actual, [] => actual
  | .dict entries, part :: rest => walk (lookup entries part) rest
  | _, _ :: _ => .null

/-- `float(actual) < float(expected)`, or another of the orderings.  Only an
`OverflowError` is not caught. -/
def compareFloats (builtins : Builtins) (ordering : Order) (actual expected : Json) :
    Except ConditionError Bool :=
  match actual.toFloat builtins.floatOfText with
  | .error .overflow => .error .other
  | .error .typeOrValue => .ok false
  | .ok x =>
    match expected.toFloat builtins.floatOfText with
    | .error .overflow => .error .other
    | .error .typeOrValue => .ok false
    | .ok y => .ok (ordering.numbers x y)

/-- The operators, in the order of the source.  The other two end in the last
`return False`, as the condition has a field. -/
def compareOp (builtins : Builtins) (op : ConditionOp) (actual expected : Json) :
    Except ConditionError Bool :=
  match op with
  | .eq => .ok (actual.pyEq expected)
  | .ne => .ok !(actual.pyEq expected)
  | .order ordering => compareFloats builtins ordering actual expected
  | .isIn => .ok ((actual.isIn expected).getD false)
  | .contains => .ok ((expected.isIn actual).getD false)
  | .notIn => .ok false
  | .exists_ => .ok false

/-- The condition has no `action`, or the one that is evaluated. -/
def actionPasses (entries : List (String × Json)) (action : String) : Bool :=
  match get? entries "action" with
  | none => true
  | some named => named.pyEq (.str action)

/-- `_matches`, on the type and the condition of a rule. -/
def matchesRule (builtins : Builtins) (ruleType : PolicyRuleType) (condition : Json)
    (action : String) (context : List (String × Json)) : Except ConditionError Bool :=
  match condition with
  | .dict entries =>
    if !actionPasses entries action then .ok false
    else if ruleType = .content ∧ get? context "content" = none then .ok false
    else
      match get? entries "field", get? entries "op", get? entries "value" with
      | some (.str path), some op, some expected =>
        let actual := walk (.dict context) (pathParts path)
        if actual.isNull then .ok false
        else
          match op.asString?.bind ConditionOp.ofText with
          | some op => compareOp builtins op actual expected
          | none => .ok false
      | some _, some _, some _ => .error .other
      | field, _, _ => .ok ((get? entries "action").isSome && field.isNone)
  | _ => .error .other

/-! ## What the two have in common -/

/-- Both evaluators return, and return the same. -/
def SameVerdict (builtins : Builtins) (ruleType : PolicyRuleType)
    (entries : List (String × Json)) (action : String) (context : List (String × Json)) : Prop :=
  ∃ verdict, matchesRule builtins ruleType (.dict entries) action context = .ok verdict ∧
    evaluateCondition builtins context (.dict entries) = .ok verdict

/-- The condition has no combinator. -/
structure Flat (entries : List (String × Json)) : Prop where
  all : get? entries "all" = none
  any : get? entries "any" = none
  not : get? entries "not" = none

instance (entries : List (String × Json)) : Decidable (Flat entries) :=
  decidable_of_iff ((get? entries "all").isNone ∧ (get? entries "any").isNone ∧
      (get? entries "not").isNone) (by
    simp only [Option.isNone_iff_eq_none]
    exact ⟨fun h => ⟨h.1, h.2.1, h.2.2⟩, fun h => ⟨h.all, h.any, h.not⟩⟩)

/-- What the service compares: the operator, what it finds, and the value of the
condition.  It compares when the condition is for the action and the field leads
through dictionaries to something, and it lacks two of the operators. -/
def compared? (entries : List (String × Json)) (action : String)
    (context : List (String × Json)) : Option (ConditionOp × Json × Json) :=
  match get? entries "field", get? entries "op", get? entries "value" with
  | some (.str path), some (.str name), some expected =>
    match ConditionOp.ofText name with
    | none => none
    | some op =>
      let actual := walk (.dict context) (pathParts path)
      if actionPasses entries action ∧ op ≠ .exists_ ∧ op ≠ .notIn ∧ !actual.isNull then
        some (op, actual, expected)
      else none
  | _, _, _ => none

/-- The condition names the action and has no field. -/
def namesOnly (entries : List (String × Json)) (action : String) : Bool :=
  (get? entries "action").isSome && actionPasses entries action && (get? entries "field").isNone

/-- The values and their floats are ordered alike, where neither being ordered
counts as no match. -/
def OrderedAlike (builtins : Builtins) (ordering : Order) (actual expected : Json) : Prop :=
  compareFloats builtins ordering actual expected =
    .ok ((actual.ordered ordering expected).getD false)

/-- Where the service compares, and the condition is flat, the floats are ordered
as the values are; elsewhere the tree says what the service makes of the rest. -/
def Alike (builtins : Builtins) (entries : List (String × Json)) (action : String)
    (context : List (String × Json)) : Prop :=
  match compared? entries action context with
  | some (op, actual, expected) =>
    if Flat entries then
      ∀ ordering, op = .order ordering → OrderedAlike builtins ordering actual expected
    else
      evaluateCondition builtins context (.dict entries) =
        compareOp builtins op actual expected
  | none =>
    evaluateCondition builtins context (.dict entries) = .ok (namesOnly entries action)

/-! ## The flat conditions -/

variable {builtins : Builtins} {entries context : List (String × Json)} {action : String}

/-- Without a combinator the condition is a leaf. -/
theorem evaluateCondition_flat (h : Flat entries) :
    evaluateCondition builtins context (.dict entries) =
      evaluateLeaf builtins context entries := by
  rw [evaluateCondition, h.all, h.any, h.not]

theorem validateCondition_flat (h : Flat entries) :
    validateCondition builtins (.dict entries) = validateLeaf builtins entries := by
  rw [validateCondition, h.all, h.any, h.not]

theorem supportedOp_ok {json : Json} {op : ConditionOp}
    (h : supportedOp builtins json = .ok op) :
    ∃ name, json = .str name ∧ ConditionOp.ofText name = some op := by
  cases json with
  | str name =>
    rw [supportedOp] at h
    cases hop : ConditionOp.ofText name with
    | none =>
      rw [hop] at h
      cases h
    | some found =>
      rw [hop] at h
      cases h
      exact ⟨name, rfl, hop⟩
  | null => cases h
  | bool b => cases h
  | int n => cases h
  | float x => cases h
  | list items => cases h
  | dict entries => cases h

/-- What the check of a leaf finds. -/
theorem validateLeaf_ok (h : validateLeaf builtins entries = .ok ()) :
    ∃ field name op, get? entries "field" = some field ∧ get? entries "op" = some (.str name) ∧
      ConditionOp.ofText name = some op ∧
        (op = .exists_ ∨ ∃ value, get? entries "value" = some value) := by
  unfold validateLeaf at h
  cases hfield : get? entries "field" with
  | none =>
    rw [hfield] at h
    cases h
  | some field =>
    cases hjson : get? entries "op" with
    | none =>
      rw [hfield, hjson] at h
      cases h
    | some json =>
      rw [hfield, hjson] at h
      dsimp only at h
      cases hsupported : supportedOp builtins json with
      | error error =>
        rw [hsupported] at h
        cases h
      | ok op =>
        obtain ⟨name, rfl, hop⟩ := supportedOp_ok hsupported
        refine ⟨field, name, op, rfl, rfl, hop, ?_⟩
        by_cases hexists : op = .exists_
        · exact Or.inl hexists
        · right
          rw [hsupported] at h
          cases hvalue : get? entries "value" with
          | some value => exact ⟨value, rfl⟩
          | none =>
            rw [hvalue] at h
            cases op <;> first | exact absurd rfl hexists | cases h

/-- A leaf whose field is a text gives a verdict. -/
theorem evaluateLeaf_eq {path name : String} {op : ConditionOp}
    (hfield : get? entries "field" = some (.str path))
    (hname : get? entries "op" = some (.str name)) (hop : ConditionOp.ofText name = some op) :
    evaluateLeaf builtins context entries =
      .ok (leafVerdict builtins op
        (resolveField builtins (.inl (.dict context)) (pathParts path)) (get? entries "value")) := by
  simp only [evaluateLeaf, lookup_eq, hfield, hname, Option.getD_some, supportedOp, hop]

/-- A flat condition that the check accepts, and whose field is a text, is
evaluated without an exception. -/
theorem evaluateCondition_returns (hflat : Flat entries)
    (haccepted : validateCondition builtins (.dict entries) = .ok ())
    (htext : ∀ field, get? entries "field" = some field → ∃ path, field = .str path) :
    ∃ verdict, evaluateCondition builtins context (.dict entries) = .ok verdict := by
  rw [validateCondition_flat hflat] at haccepted
  obtain ⟨field, name, op, hfield, hname, hop, -⟩ := validateLeaf_ok haccepted
  obtain ⟨path, rfl⟩ := htext field hfield
  rw [evaluateCondition_flat hflat, evaluateLeaf_eq hfield hname hop]
  exact ⟨_, rfl⟩

/-! ## The two ways to follow a path -/

theorem walk_null (parts : List String) : walk .null parts = .null := by
  cases parts with
  | nil => rfl
  | cons part rest => rfl

/-- What the service finds and is not null, the other evaluator finds as well. -/
theorem resolveField_of_walk {value : Json} {parts : List String} (h : walk value parts ≠ .null) :
    resolveField builtins (.inl value) parts = some (.inl (walk value parts)) := by
  induction parts generalizing value with
  | nil => rfl
  | cons part rest ih =>
    cases value with
    | dict entries =>
      have hwalk : walk (.dict entries) (part :: rest) = walk (lookup entries part) rest := rfl
      rw [hwalk] at h ⊢
      cases hpart : get? entries part with
      | none =>
        rw [lookup_eq, hpart, Option.getD_none, walk_null] at h
        exact absurd rfl h
      | some value =>
        rw [lookup_eq, hpart, Option.getD_some] at h ⊢
        simp only [resolveField, hpart]
        exact ih h
    | null => exact absurd rfl h
    | bool b => exact absurd rfl h
    | int n => exact absurd rfl h
    | float x => exact absurd rfl h
    | str s => exact absurd rfl h
    | list items => exact absurd rfl h

/-! ## The service -/

theorem compared?_eq_some {op : ConditionOp} {actual expected : Json}
    (h : compared? entries action context = some (op, actual, expected)) :
    ∃ path name, get? entries "field" = some (.str path) ∧ get? entries "op" = some (.str name) ∧
      ConditionOp.ofText name = some op ∧ get? entries "value" = some expected ∧
        actual = walk (.dict context) (pathParts path) ∧ actual ≠ .null ∧
          op ≠ .exists_ ∧ op ≠ .notIn := by
  unfold compared? at h
  split at h
  · rename_i path name value hfield hname hvalue
    split at h
    · cases h
    · rename_i found hop
      dsimp only at h
      split_ifs at h with hcompares
      cases h
      obtain ⟨-, hexists, hnotIn, hnull⟩ := hcompares
      refine ⟨path, name, hfield, hname, hop, hvalue, rfl, ?_, hexists, hnotIn⟩
      intro heq
      rw [heq] at hnull
      cases hnull
  · cases h

theorem compared?_of_not_passes (h : actionPasses entries action = false) :
    compared? entries action context = none := by
  unfold compared?
  split
  · split
    · rfl
    · exact if_neg (by simp [h])
  · rfl

/-- The verdict of the service, for a rule that is not about content. -/
theorem matchesRule_eq {ruleType : PolicyRuleType} (hrule : ruleType ≠ .content)
    (htext : ∀ field, get? entries "field" = some field → ∃ path, field = .str path) :
    matchesRule builtins ruleType (.dict entries) action context =
      match compared? entries action context with
      | some (op, actual, expected) => compareOp builtins op actual expected
      | none => .ok (namesOnly entries action) := by
  cases hpasses : actionPasses entries action with
  | false =>
    rw [matchesRule, compared?_of_not_passes hpasses, namesOnly, hpasses]
    simp
  | true =>
    rw [matchesRule, compared?, namesOnly, hpasses]
    cases hfield : get? entries "field" with
    | none => simp [hrule]
    | some field =>
      obtain ⟨path, rfl⟩ := htext field hfield
      cases hop : get? entries "op" with
      | none => simp [hrule]
      | some json =>
        cases hvalue : get? entries "value" with
        | none => simp [hrule]
        | some expected =>
          cases json with
          | str name =>
            cases hname : ConditionOp.ofText name with
            | none => simp [hrule, hname, asString?]
            | some op =>
              by_cases hnull : (walk (.dict context) (pathParts path)).isNull
              · simp [hrule, hname, hnull]
              · cases op <;> simp [hrule, hname, hnull, asString?, compareOp]
          | null => simp [hrule, asString?]
          | bool b => simp [hrule, asString?]
          | int n => simp [hrule, asString?]
          | float x => simp [hrule, asString?]
          | list items => simp [hrule, asString?]
          | dict others => simp [hrule, asString?]

/-! ## The agreement -/

/-- `float()` of the value raises no `OverflowError`. -/
def InRange (builtins : Builtins) (value : Json) : Prop :=
  value.toFloat builtins.floatOfText ≠ .error .overflow

theorem compareFloats_ok {ordering : Order} {actual expected : Json}
    (hactual : InRange builtins actual) (hexpected : InRange builtins expected) :
    ∃ verdict, compareFloats builtins ordering actual expected = .ok verdict := by
  unfold InRange at hactual hexpected
  unfold compareFloats
  cases hx : actual.toFloat builtins.floatOfText with
  | error error =>
    cases error with
    | overflow => exact absurd hx hactual
    | typeOrValue => exact ⟨false, rfl⟩
  | ok x =>
    cases hy : expected.toFloat builtins.floatOfText with
    | error error =>
      cases error with
      | overflow => exact absurd hy hexpected
      | typeOrValue => exact ⟨false, rfl⟩
    | ok y => exact ⟨_, rfl⟩

/-- Numbers that are their own floats are ordered alike. -/
theorem orderedAlike_of_exact {ordering : Order} {actual expected : Json}
    (hactual : actual.Exact) (hexpected : expected.Exact) :
    OrderedAlike builtins ordering actual expected := by
  obtain ⟨x, hx, hfloatX⟩ : ∃ x, actual.numeric? = some x ∧
      actual.toFloat builtins.floatOfText = .ok x := hactual.toFloat
  obtain ⟨y, hy, hfloatY⟩ : ∃ y, expected.numeric? = some y ∧
      expected.toFloat builtins.floatOfText = .ok y := hexpected.toFloat
  simp only [OrderedAlike, compareFloats, hfloatX, hfloatY, ordered_of_numeric hx hy,
    Option.getD_some]

/-- The operators that the service has are those of the other evaluator, up to the
orderings. -/
theorem compareOp_eq_iff {op : ConditionOp} {actual expected : Json} (hnotIn : op ≠ .notIn) :
    compareOp builtins op actual expected = .ok ((op.dispatch actual expected).getD false) ↔
      ∀ ordering, op = .order ordering → OrderedAlike builtins ordering actual expected := by
  cases op with
  | order ordering =>
    constructor
    · intro h other hother
      cases hother
      exact h
    · intro h
      exact h ordering rfl
  | notIn => exact absurd rfl hnotIn
  | eq => simp [compareOp, ConditionOp.dispatch]
  | ne => simp [compareOp, ConditionOp.dispatch]
  | isIn => simp [compareOp, ConditionOp.dispatch]
  | contains => simp [compareOp, ConditionOp.dispatch]
  | exists_ => simp [compareOp, ConditionOp.dispatch]

/-- On a flat condition both evaluators look at the same values. -/
theorem evaluateCondition_compared {op : ConditionOp} {actual expected : Json}
    (hflat : Flat entries)
    (h : compared? entries action context = some (op, actual, expected)) :
    evaluateCondition builtins context (.dict entries) =
      .ok ((op.dispatch actual expected).getD false) := by
  obtain ⟨path, name, hfield, hname, hop, hvalue, rfl, hnull, hexists, -⟩ := compared?_eq_some h
  rw [evaluateCondition_flat hflat, evaluateLeaf_eq hfield hname hop,
    resolveField_of_walk hnull, hvalue]
  simp [leafVerdict, hexists]

/-- The service raises only where `float()` is out of range. -/
theorem compareOp_ok {op : ConditionOp} {actual expected : Json}
    (hrange : ∀ ordering, op = .order ordering →
      InRange builtins actual ∧ InRange builtins expected) :
    ∃ verdict, compareOp builtins op actual expected = .ok verdict := by
  cases op with
  | order ordering =>
    obtain ⟨hactual, hexpected⟩ := hrange ordering rfl
    exact compareFloats_ok hactual hexpected
  | eq => exact ⟨_, rfl⟩
  | ne => exact ⟨_, rfl⟩
  | isIn => exact ⟨_, rfl⟩
  | notIn => exact ⟨_, rfl⟩
  | contains => exact ⟨_, rfl⟩
  | exists_ => exact ⟨_, rfl⟩

/-- The evaluators agree on a condition whose field is a text and whose numbers
have floats exactly when the condition and the context are `Alike`. -/
theorem sameVerdict_iff {ruleType : PolicyRuleType} (hrule : ruleType ≠ .content)
    (htext : ∀ field, get? entries "field" = some field → ∃ path, field = .str path)
    (hrange : ∀ ordering actual expected,
      compared? entries action context = some (.order ordering, actual, expected) →
        InRange builtins actual ∧ InRange builtins expected) :
    SameVerdict builtins ruleType entries action context ↔
      Alike builtins entries action context := by
  unfold SameVerdict Alike
  rw [matchesRule_eq hrule htext]
  cases hcompared : compared? entries action context with
  | none =>
    dsimp only
    constructor
    · intro h
      obtain ⟨verdict, hservice, hother⟩ := h
      rw [hother, hservice]
    · intro h
      exact ⟨_, rfl, h⟩
  | some found =>
    obtain ⟨op, actual, expected⟩ := found
    dsimp only
    by_cases hflat : Flat entries
    · rw [if_pos hflat, evaluateCondition_compared hflat hcompared]
      obtain ⟨-, -, -, -, -, -, -, -, -, hnotIn⟩ := compared?_eq_some hcompared
      rw [← compareOp_eq_iff hnotIn]
      constructor
      · intro h
        obtain ⟨verdict, hservice, hother⟩ := h
        rw [hservice, hother]
      · intro h
        exact ⟨_, h, rfl⟩
    · rw [if_neg hflat]
      obtain ⟨verdict, hverdict⟩ : ∃ verdict, compareOp builtins op actual expected = .ok verdict := by
        apply compareOp_ok
        intro ordering hop
        exact hrange ordering actual expected (hop ▸ hcompared)
      constructor
      · intro h
        obtain ⟨verdict', hservice, hother⟩ := h
        rw [hother, hservice]
      · intro h
        exact ⟨verdict, hverdict, h.trans hverdict⟩

namespace ConditionExample

/-- No attributes, no numbers in texts. -/
def plain : Builtins where
  Object := Empty
  getattr := fun _ _ => none
  dispatch := fun _ _ _ => none
  floatOfText := fun _ => none
  repr := fun _ => ""

def guestContext : List (String × Json) :=
  [("cost", .int 150), ("role", .str "guest"), ("note", .null)]

/-- `{"field": "cost", "op": "gt", "value": 100}`. -/
def costly : List (String × Json) :=
  [("field", .str "cost"), ("op", .str "gt"), ("value", .int 100)]

/-- `{"all": [{"field": "cost", "op": "gt", "value": 100}]}`. -/
def allCostly : List (String × Json) := [("all", .list [.dict costly])]

/-- Conditions without a combinator: an operator that the service lacks, a field
that is null, and texts in order. -/
def unlike : List (List (String × Json)) :=
  [[("field", .str "role"), ("op", .str "exists")],
    [("field", .str "role"), ("op", .str "not_in"), ("value", .list [.str "admin"])],
    [("field", .str "note"), ("op", .str "ne"), ("value", .int 0)],
    [("field", .str "role"), ("op", .str "gt"), ("value", .str "admin")]]

end ConditionExample

open ConditionExample in
theorem sameVerdict_costly : SameVerdict plain .access costly "access" guestContext := by
  have hcompared : compared? costly "access" guestContext =
      some (.order .gt, .int 150, .int 100) := rfl
  have hexact : ∀ n : Int, n.natAbs < 2 ^ 53 → InRange plain (.int n) := by
    intro n hn
    rw [InRange, toFloat_int hn]
    exact nofun
  refine (sameVerdict_iff (by decide) ?_ ?_).2 ?_
  · intro field hfield
    cases hfield
    exact ⟨_, rfl⟩
  · intro ordering actual expected h
    rw [hcompared] at h
    cases h
    exact ⟨hexact 150 (by decide), hexact 100 (by decide)⟩
  · rw [Alike, hcompared]
    dsimp only
    rw [if_pos ⟨rfl, rfl, rfl⟩]
    intro ordering _
    exact orderedAlike_of_exact (by show Int.natAbs 150 < 2 ^ 53; decide)
      (by show Int.natAbs 100 < 2 ^ 53; decide)

open ConditionExample in
/-- The check accepts a tree that holds and is not enforced by the service, and
flat conditions of the same kind. -/
theorem sameVerdict_fails :
    (validateCondition plain (.dict allCostly) = .ok () ∧
      ¬SameVerdict plain .access allCostly "access" guestContext) ∧
    ∀ entries ∈ unlike, validateCondition plain (.dict entries) = .ok () ∧
      ¬SameVerdict plain .access entries "access" guestContext := by
  have hdiffer : ∀ entries, matchesRule plain .access (.dict entries) "access"
      guestContext = .ok false →
      evaluateCondition plain guestContext (.dict entries) = .ok true →
      ¬SameVerdict plain .access entries "access" guestContext := by
    intro entries hservice hother hsame
    obtain ⟨verdict, h, h'⟩ := hsame
    rw [hservice] at h
    rw [hother] at h'
    cases h
    cases h'
  constructor
  · constructor
    · rw [validateCondition]
      show validateChildren plain [.dict costly] = _
      rw [validateChildren, validateCondition_flat ⟨rfl, rfl, rfl⟩]
      show validateChildren plain [] = _
      rw [validateChildren]
    · refine hdiffer _ rfl ?_
      rw [evaluateCondition]
      show evaluateAll plain _ [.dict costly] = _
      rw [evaluateAll, evaluateCondition_flat ⟨rfl, rfl, rfl⟩]
      show evaluateAll plain _ [] = _
      rw [evaluateAll]
  · intro entries hentries
    have hflat : Flat entries := by
      revert entries
      decide +kernel
    rw [validateCondition_flat hflat]
    simp only [unlike, List.mem_cons, List.not_mem_nil, or_false] at hentries
    rcases hentries with rfl | rfl | rfl | rfl
    all_goals
      refine ⟨rfl, hdiffer _ rfl ?_⟩
      rw [evaluateCondition_flat hflat]
      rfl

end Conditions

end MassClaw
