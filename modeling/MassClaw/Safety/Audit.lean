import MassClaw.Core.Operators
import MassClaw.Lib.Page
import MassClaw.Safety.Decision
import MassClaw.Safety.Federated

/-!
# The list of policy decisions, `app/safety/audit.py`

Policy decisions are META records with a marker in their metadata.
`list_decisions` has the database return the newest META records, as many as
the page reaches, and picks the decisions with the requested action out of
these.  Records of other kinds take the place of decisions in what the database
returns.
-/

namespace MassClaw

namespace Policy

/-- The value of an action. -/
def DecisionAction.value : DecisionAction → String
  | allow => "allow"
  | deny => "deny"
  | escalateHuman => "escalate_human"
  | abstain => "abstain"

/-- `is_policy_decision_record`. -/
def isPolicyDecisionRecord (record : MemoryRecord) : Bool :=
  record.hasMarker "policy_decision" && record.memoryType = .metaType

/-- `metadata.get("decision") or {}`; what is not a dictionary has no `get`. -/
def decisionPayload? (record : MemoryRecord) : Option (List (String × Json)) :=
  let payload := Json.lookup record.metadata "decision"
  if payload.truthy then
    match payload with
    | .dict entries => some entries
    | _ => none
  else some []

/-- The test of the action; `none` is the `AttributeError`. -/
def hasAction? (action : Option DecisionAction) (record : MemoryRecord) : Option Bool :=
  match action with
  | none => some true
  | some action =>
    (decisionPayload? record).map (fun payload =>
      (Json.lookup payload "action").pyEq (.str action.value))

/-- The loop over the rows. -/
def listLoop (action : Option DecisionAction) (limit offset : Int) :
    List MemoryRecord → Nat → List MemoryRecord → Option (List MemoryRecord)
  | [], _, out => some out
  | row :: rest, skipped, out =>
    if !isPolicyDecisionRecord row then listLoop action limit offset rest skipped out
    else
      match hasAction? action row with
      | none => none
      | some false => listLoop action limit offset rest skipped out
      | some true =>
        if skipped < offset then listLoop action limit offset rest (skipped + 1) out
        else
          let out := out ++ [row]
          if out.length ≥ limit then some out else listLoop action limit offset rest skipped out

/-- The META records of the workflow, or all of them, newest first. -/
def metaRecords (records : MemoryTable) (workflowId : Option UUID) : List MemoryRecord :=
  Selection.newestFirst MemoryRecord.createdAt (records.rows.filter (fun row =>
    row.memoryType = .metaType && workflowId.all (fun id => row.workflowId = some id)))

/-- A `LIMIT` that the database takes, which is a `bigint` and not negative. -/
def sqlLimit? (limit : Int) : Option Nat :=
  if 0 ≤ limit ∧ limit < 2 ^ 63 then some limit.toNat else none

/-- `list_decisions`; `none` is an exception. -/
def listDecisions (records : MemoryTable) (workflowId : Option UUID)
    (action : Option DecisionAction) (limit offset : Int) : Option (List MemoryRecord) :=
  (sqlLimit? (limit + offset)).bind (fun fetched =>
    listLoop action limit offset ((metaRecords records workflowId).take fetched) 0 [])

/-! ## The page of decisions -/

/-- A decision with the action, if one is asked for. -/
def isMatch (action : Option DecisionAction) (record : MemoryRecord) : Bool :=
  isPolicyDecisionRecord record && (hasAction? action record).getD false

/-- The matching decisions at the positions from `offset` up to `offset + limit`. -/
def decisionPage (records : MemoryTable) (workflowId : Option UUID)
    (action : Option DecisionAction) (limit offset : Int) : List MemoryRecord :=
  Page.slice offset.toNat (limit + offset).toNat
    ((metaRecords records workflowId).filter (isMatch action))

/-- The action of a decision can be tested, if one is asked for. -/
def isReadable (action : Option DecisionAction) (record : MemoryRecord) : Bool :=
  !isPolicyDecisionRecord record || (hasAction? action record).isSome

variable {action : Option DecisionAction} {limit offset : Int}

/-- The loop drops the matches that are skipped.  The rows that are left and the
matches that have been seen are at most as many as the page reaches, so the limit
is not met before the last row. -/
theorem listLoop_eq (rows : List MemoryRecord) (skipped : Nat) (out : List MemoryRecord)
    (hskipped : skipped ≤ offset.toNat) (hout : skipped < offset.toNat → out = [])
    (hfetched : skipped + out.length + rows.length ≤ limit + offset) :
    listLoop action limit offset rows skipped out =
      if rows.all (isReadable action) then
        some (out ++ (rows.filter (isMatch action)).drop (offset.toNat - skipped))
      else none := by
  induction rows generalizing skipped out with
  | nil => simp [listLoop]
  | cons row rest ih =>
    rw [List.length_cons] at hfetched
    have hrest := ih skipped out hskipped hout (by omega)
    unfold listLoop
    by_cases hdecision : isPolicyDecisionRecord row = true
    · rw [hdecision, Bool.not_true, if_neg Bool.false_ne_true]
      cases hhas : hasAction? action row with
      | none =>
        have hunreadable : isReadable action row = false := by simp [isReadable, hdecision, hhas]
        rw [List.all_cons, hunreadable, Bool.false_and, if_neg Bool.false_ne_true]
      | some matching =>
        have hreadable : isReadable action row = true := by simp [isReadable, hhas]
        have hmatch : isMatch action row = matching := by simp [isMatch, hdecision, hhas]
        rw [List.all_cons, hreadable, Bool.true_and]
        cases matching with
        | false =>
          rw [List.filter_cons_of_neg (by simp [hmatch])]
          exact hrest
        | true =>
          rw [List.filter_cons_of_pos hmatch]
          dsimp only
          split
          · rename_i hskip
            have hnil := hout (by omega)
            subst hnil
            rw [ih (skipped + 1) [] (by omega) (fun _ => rfl) (by simp at hfetched ⊢; omega),
              show offset.toNat - skipped = offset.toNat - (skipped + 1) + 1 by omega,
              List.drop_succ_cons]
          · rename_i hskip
            have hreached : offset.toNat - skipped = 0 := by omega
            rw [hreached, List.drop_zero]
            split
            · rename_i hlimit
              rw [List.length_append, List.length_singleton] at hlimit
              have hnil : rest = [] := List.eq_nil_of_length_eq_zero (by omega)
              subst hnil
              rfl
            · rw [ih skipped (out ++ [row]) hskipped (by omega) (by
                rw [List.length_append, List.length_singleton]
                omega), hreached, List.drop_zero, List.append_assoc, List.singleton_append]
    · rw [Bool.not_eq_true] at hdecision
      have hmatch : ¬isMatch action row = true := by simp [isMatch, hdecision]
      have hreadable : isReadable action row = true := by simp [isReadable, hdecision]
      rw [hdecision, Bool.not_false, if_pos rfl, List.filter_cons_of_neg hmatch, List.all_cons,
        hreadable, Bool.true_and]
      exact hrest

theorem sqlLimit?_eq_some {limit : Int} {fetched : Nat} (h : sqlLimit? limit = some fetched) :
    (fetched : Int) = limit := by
  unfold sqlLimit? at h
  split at h
  · rename_i hrange
    cases h
    omega
  · cases h

/-- What the fetched records give. -/
theorem listDecisions_eq (records : MemoryTable) (workflowId : Option UUID)
    (action : Option DecisionAction) {limit offset : Int} {fetched : Nat}
    (h : sqlLimit? (limit + offset) = some fetched) :
    listDecisions records workflowId action limit offset =
      if ((metaRecords records workflowId).take fetched).all (isReadable action) then
        some ((((metaRecords records workflowId).take fetched).filter (isMatch action)).drop
          offset.toNat)
      else none := by
  have hlength := List.length_take_le fetched (metaRecords records workflowId)
  have hfetched := sqlLimit?_eq_some h
  rw [listDecisions, h, Option.bind_some, listLoop_eq _ 0 [] (Nat.zero_le _) (fun _ => rfl) (by
    rw [List.length_nil]
    omega), Nat.sub_zero, List.nil_append]

/-- The fetched records decide the page. -/
structure Covered (records : MemoryTable) (workflowId : Option UUID)
    (action : Option DecisionAction) (limit offset : Int) : Prop where
  nonneg : 0 ≤ limit + offset
  bigint : limit + offset < 2 ^ 63
  readable : ∀ record ∈ (metaRecords records workflowId).take (limit + offset).toNat,
    isReadable action record = true
  decided : Page.Suffices (isMatch action) offset.toNat (limit + offset).toNat
    (metaRecords records workflowId)

/-- The page is returned exactly if the fetched records decide it. -/
theorem listDecisions_eq_page_iff (records : MemoryTable) (workflowId : Option UUID)
    (action : Option DecisionAction) (limit offset : Int) :
    listDecisions records workflowId action limit offset =
        some (decisionPage records workflowId action limit offset) ↔
      Covered records workflowId action limit offset := by
  by_cases hrange : 0 ≤ limit + offset ∧ limit + offset < 2 ^ 63
  · have hlimit : sqlLimit? (limit + offset) = some (limit + offset).toNat := if_pos hrange
    rw [listDecisions_eq records workflowId action hlimit, decisionPage]
    constructor
    · intro h
      split at h
      · rename_i hreadable
        exact ⟨hrange.1, hrange.2, List.all_eq_true.1 hreadable,
          Page.drop_filter_take_eq_iff.1 (Option.some.inj h)⟩
      · cases h
    · intro h
      rw [if_pos (List.all_eq_true.2 h.readable), Page.drop_filter_take_eq_iff.2 h.decided]
  · constructor
    · intro h
      rw [listDecisions, sqlLimit?, if_neg hrange] at h
      cases h
    · intro h
      exact absurd ⟨h.nonneg, h.bigint⟩ hrange

/-! ## A decision behind another record -/

namespace Interleaved

/-- A denial. -/
def denial : MemoryRecord where
  workflowId := none
  sourceAgentId := none
  memoryType := .metaType
  content := "policy.deny: too costly"
  metadata := [("policy_decision", .bool true), ("decision", .dict [("action", .str "deny")])]
  confidence := .finite 1
  createdAt := 0

/-- A newer record that is no decision. -/
def request : MemoryRecord where
  memoryId := 1
  workflowId := none
  sourceAgentId := none
  memoryType := .metaType
  content := "approval.request:r"
  metadata := [("approval_marker", .bool true)]
  confidence := .finite 1
  createdAt := 1

def store : MemoryTable :=
  (Table.empty.push denial (by decide)).push request (by decide)

theorem metaRecords_store : metaRecords store none = [request, denial] := by
  have hrows : store.rows.filter (fun row =>
      row.memoryType = .metaType && (none : Option UUID).all (fun id => row.workflowId = some id)) =
        [denial, request] := rfl
  rw [metaRecords, hrows, Selection.newestFirst_of_ascending]
  · rfl
  · rw [List.pairwise_pair]
    exact Int.zero_lt_one

end Interleaved

open Interleaved in
/-- The first page of one decision is empty while a newer record is no decision. -/
theorem listDecisions_eq_page_fails :
    listDecisions store none none 1 0 = some [] ∧ decisionPage store none none 1 0 = [denial] := by
  constructor
  · rw [listDecisions, metaRecords_store]
    rfl
  · rw [decisionPage, metaRecords_store]
    rfl

end Policy

end MassClaw
