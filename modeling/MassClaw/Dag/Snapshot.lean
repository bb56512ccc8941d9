import MassClaw.Core.Json
import MassClaw.Dag.Basic
import MassClaw.Lib.Outcome

/-!
# Stored DAGs, `DAG.to_dict` and `DAG.from_dict`

A workflow row and a checkpoint hold the DAG as a JSON document with one
object for each node.  Reading a document back builds the nodes and runs the
constructor on them, which validates again.
-/

namespace MassClaw

/-- What `DAG.from_dict` raises. -/
inductive SnapshotError
  | missingKey (key : String)
  /-- `ValueError`: an unknown status or a malformed UUID. -/
  | invalidValue (key : String)
  /-- A field of another type than its annotation. -/
  | wrongType (key : String)
  | validation (error : DAGValidationError)

namespace DAGNode

/-- The entry of a node in `to_dict`. -/
def toDict (node : DAGNode) : List (String × Json) :=
  [ ("node_id", .str node.nodeId)
  , ("capability", .str node.capability)
  , ("description", .str node.description)
  , ("depends_on", .list (node.dependsOn.map .str))
  , ("estimated_complexity", .str node.estimatedComplexity)
  , ("assigned_agent_id", (node.assignedAgentId.map (fun id => Json.str id.str)).getD .null)
  , ("task_id", (node.taskId.map (fun id => Json.str id.str)).getD .null)
  , ("status", .str node.status.value)
  , ("output", (node.output.map .str).getD .null)
  , ("error", (node.error.map .str).getD .null) ]

section Fields

variable (nd : List (String × Json)) (key : String)

/-- `nd[key]`, a text. -/
def textField : Except SnapshotError String :=
  match nd.find? (fun entry => entry.1 == key) with
  | none => .error (.missingKey key)
  | some (_, .str s) => .ok s
  | some _ => .error (.wrongType key)

/-- `nd.get(key)`, a text or nothing. -/
def optionalText : Except SnapshotError (Option String) :=
  match Json.lookup nd key with
  | .null => .ok none
  | .str s => .ok (some s)
  | _ => .error (.wrongType key)

/-- `nd.get(key, default)`, a text. -/
def textOr (default : String) : Except SnapshotError String :=
  match Json.getD nd key (.str default) with
  | .str s => .ok s
  | _ => .error (.wrongType key)

/-- `uuid.UUID(nd[key]) if nd.get(key) else None`. -/
def optionalUuid : Except SnapshotError (Option UUID) :=
  match Json.lookup nd key with
  | .str s =>
    if s = "" then .ok none
    else
      match UUID.parse? s with
      | some id => .ok (some id)
      | none => .error (.invalidValue key)
  | value => if value.truthy then .error (.wrongType key) else .ok none

/-- `nd.get(key, [])`, a list of texts. -/
def textList : Except SnapshotError (List String) :=
  match Json.getD nd key (.list []) with
  | .list items =>
    match items.mapM Json.asString? with
    | some texts => .ok texts
    | none => .error (.wrongType key)
  | _ => .error (.wrongType key)

end Fields

/-- The node of an entry. -/
def fromDict (nd : List (String × Json)) : Except SnapshotError DAGNode := do
  let nodeId ← textField nd "node_id"
  let capability ← textField nd "capability"
  let description ← textField nd "description"
  let dependsOn ← textList nd "depends_on"
  let estimatedComplexity ← textOr nd "estimated_complexity" "medium"
  let assignedAgentId ← optionalUuid nd "assigned_agent_id"
  let taskId ← optionalUuid nd "task_id"
  let statusValue ← textOr nd "status" "pending"
  let status ← match TaskStatus.ofValue? statusValue with
    | some status => pure status
    | none => throw (.invalidValue "status")
  let output ← optionalText nd "output"
  let error ← optionalText nd "error"
  return { nodeId, capability, description, dependsOn, estimatedComplexity, assignedAgentId,
           taskId, status, output, error }

end DAGNode

namespace DAG

/-- `to_dict`. -/
def toDict (dag : DAG) : Json :=
  .dict [("nodes", .list (dag.nodes.map (fun node => .dict node.toDict)))]

/-- One element of `data["nodes"]`. -/
def nodeOfJson : Json → Except SnapshotError DAGNode
  | .dict nd => DAGNode.fromDict nd
  | _ => .error (.wrongType "nodes")

/-- `from_dict`. -/
def fromDict : Json → Except SnapshotError DAG
  | .dict data =>
    match data.find? (fun entry => entry.1 == "nodes") with
    | none => .error (.missingKey "nodes")
    | some (_, .list items) => do
      let nodes ← items.mapM nodeOfJson
      match DAG.new nodes with
      | .ok dag => return dag
      | .error error => throw (.validation error)
    | some _ => .error (.wrongType "nodes")
  | _ => .error (.wrongType "nodes")

/-! ## Round trip -/

private theorem mapM_asString?_str (texts : List String) :
    (texts.map Json.str).mapM Json.asString? = some texts := by
  induction texts with
  | nil => rfl
  | cons text rest ih =>
    rw [List.map_cons, List.mapM_cons, ih]
    rfl

private theorem optionalUuid_toDict (key : String) (nd : List (String × Json)) (id : Option UUID)
    (h : Json.lookup nd key = (id.map (fun id => Json.str id.str)).getD .null) :
    DAGNode.optionalUuid nd key = .ok id := by
  unfold DAGNode.optionalUuid
  rw [h]
  cases id with
  | none => rfl
  | some id =>
    have hne : id.str ≠ "" := by
      intro hempty
      have hparse := UUID.parse?_str id
      rw [hempty] at hparse
      have hnone : UUID.parse? "" = none := by decide +kernel
      rw [hnone] at hparse
      cases hparse
    simp [hne]

private theorem optionalText_toDict (key : String) (nd : List (String × Json))
    (text : Option String) (h : Json.lookup nd key = (text.map Json.str).getD .null) :
    DAGNode.optionalText nd key = .ok text := by
  unfold DAGNode.optionalText
  rw [h]
  cases text with
  | none => rfl
  | some text => rfl

/-- A stored node is read back as it was. -/
@[simp] theorem fromDict_toDict_node (node : DAGNode) :
    DAGNode.fromDict node.toDict = .ok node := by
  have htextField : ∀ key s, node.toDict.find? (fun entry => entry.1 == key) = some (key, .str s) →
      DAGNode.textField node.toDict key = .ok s := by
    intro key s hfind
    rw [DAGNode.textField, hfind]
  have hid := htextField "node_id" node.nodeId rfl
  have hcapability := htextField "capability" node.capability rfl
  have hdescription := htextField "description" node.description rfl
  have hdeps : DAGNode.textList node.toDict "depends_on" = .ok node.dependsOn := by
    have hget : Json.getD node.toDict "depends_on" (.list []) =
        .list (node.dependsOn.map .str) := rfl
    unfold DAGNode.textList
    rw [hget]
    simp only [mapM_asString?_str]
  have hcomplexity : DAGNode.textOr node.toDict "estimated_complexity" "medium" =
      .ok node.estimatedComplexity := rfl
  have hstatus : DAGNode.textOr node.toDict "status" "pending" = .ok node.status.value := rfl
  have hagent := optionalUuid_toDict "assigned_agent_id" node.toDict node.assignedAgentId rfl
  have htask := optionalUuid_toDict "task_id" node.toDict node.taskId rfl
  have houtput := optionalText_toDict "output" node.toDict node.output rfl
  have herror := optionalText_toDict "error" node.toDict node.error rfl
  unfold DAGNode.fromDict
  simp only [hid, hcapability, hdescription, hdeps, hcomplexity, hstatus, hagent, htask, houtput,
    herror, TaskStatus.ofValue?_value, bind, Except.bind, pure, Except.pure]

/-- Reading a stored DAG runs the constructor on its nodes. -/
theorem fromDict_toDict (dag : DAG) :
    fromDict dag.toDict = (DAG.new dag.nodes).mapError SnapshotError.validation := by
  have hnodes : ∀ nodes : List DAGNode,
      (nodes.map (fun node : DAGNode => Json.dict node.toDict)).mapM nodeOfJson = .ok nodes := by
    intro nodes
    induction nodes with
    | nil => rfl
    | cons node rest ih =>
      rw [List.map_cons, List.mapM_cons, ih]
      simp [nodeOfJson, bind, Except.bind, pure, Except.pure]
  show (do
    let nodes ← (dag.nodes.map (fun node : DAGNode => Json.dict node.toDict)).mapM nodeOfJson
    match DAG.new nodes with
    | .ok dag => return dag
    | .error error => throw (SnapshotError.validation error)) = _
  rw [hnodes]
  simp only [bind, Except.bind]
  cases DAG.new dag.nodes with
  | ok rebuilt => rfl
  | error error => rfl

end DAG

end MassClaw
