import Mathlib.Data.List.Nodup
import MassClaw.Dag.Acyclic
import MassClaw.Workflows.Restore

/-!
# The task rows of a restored workflow

`restore` keys the task rows of a workflow by their step number and takes the
first row of a number for the row of every node with that number.  The rows
carry the statuses of the snapshot if the buckets of the checkpoint keep them
and no two nodes have a number in common; a later restore has nothing to do if
it finds rows with these statuses under its own numbers.
-/

namespace MassClaw

/-- The row that `restore` finds for a step of a workflow. -/
def Db.rowAt (db : Db) (workflowId : UUID) (step : Nat) : Option Task :=
  db.tasks.find? (fun task => task.workflowId = workflowId ∧ task.stepNumber = step)

theorem Db.mem_of_rowAt {db : Db} {workflowId : UUID} {step : Nat} {task : Task}
    (h : db.rowAt workflowId step = some task) :
    task ∈ db.tasks ∧ task.workflowId = workflowId ∧ task.stepNumber = step :=
  ⟨List.mem_of_find?_eq_some h, by simpa using List.find?_some h⟩

/-- The keys of the task rows are distinct. -/
def Db.TasksKeyed (db : Db) : Prop := (db.tasks.map Task.taskId).Nodup

theorem Db.TasksKeyed.eq_of_taskId {db : Db} (h : db.TasksKeyed) {task other : Task}
    (htask : task ∈ db.tasks) (hother : other ∈ db.tasks) (hid : task.taskId = other.taskId) :
    task = other :=
  List.inj_on_of_nodup_map h htask hother hid

theorem Db.TasksKeyed.task?_of_mem {db : Db} (h : db.TasksKeyed) {task : Task}
    (hmem : task ∈ db.tasks) : db.task? task.taskId = some task := by
  cases hfound : db.task? task.taskId with
  | none =>
    have hnot := List.find?_eq_none.1 hfound task hmem
    exact absurd (decide_eq_true rfl) hnot
  | some found =>
    have hid : found.taskId = task.taskId := by simpa using List.find?_some hfound
    rw [h.eq_of_taskId (List.mem_of_find?_eq_some hfound) hmem hid]

/-- The status of a row is assigned. -/
theorem Db.rowAt_updateTask {db : Db} (hkeyed : db.TasksKeyed) {workflowId : UUID} {step : Nat}
    {task : Task} (hrow : db.rowAt workflowId step = some task) (status : TaskStatus)
    (other : Nat) :
    (db.updateTask task.taskId (fun task => { task with status })).rowAt workflowId other =
      if other = step then some { task with status } else db.rowAt workflowId other := by
  have hmap : (db.updateTask task.taskId (fun task => { task with status })).rowAt workflowId
      other = (db.rowAt workflowId other).map (fun found =>
        if found.taskId = task.taskId then { found with status } else found) := by
    unfold rowAt updateTask
    rw [List.find?_map]
    congr 2
    funext found
    rw [Function.comp_apply]
    split
    · rfl
    · rfl
  rw [hmap]
  split
  · rename_i heq
    rw [heq, hrow, Option.map_some, if_pos rfl]
  · rename_i hne
    cases hfound : db.rowAt workflowId other with
    | none => rfl
    | some found =>
      obtain ⟨hmem, -, hstep⟩ := mem_of_rowAt hrow
      obtain ⟨hmem', -, hstep'⟩ := mem_of_rowAt hfound
      have hid : found.taskId ≠ task.taskId := by
        intro hid
        rw [hkeyed.eq_of_taskId hmem' hmem hid] at hstep'
        exact hne (hstep'.symm.trans hstep)
      rw [Option.map_some, if_neg hid]

theorem Db.TasksKeyed.updateTask {db : Db} (h : db.TasksKeyed) (taskId : UUID)
    (status : TaskStatus) :
    (db.updateTask taskId (fun task => { task with status })).TasksKeyed := by
  have hids : (db.updateTask taskId (fun task => { task with status })).tasks.map Task.taskId =
      db.tasks.map Task.taskId := by
    unfold Db.updateTask
    rw [List.map_map]
    refine List.map_congr_left (fun task _ => ?_)
    rw [Function.comp_apply]
    split
    · rfl
    · rfl
  unfold TasksKeyed
  rw [hids]
  exact h

/-- A row is added. -/
theorem Db.rowAt_append (db : Db) (task : Task) (other : Nat) :
    { db with tasks := db.tasks ++ [task] }.rowAt task.workflowId other =
      (db.rowAt task.workflowId other).or
        (if other = task.stepNumber then some task else none) := by
  unfold rowAt
  rw [List.find?_append, List.find?_singleton]
  congr 1
  by_cases heq : other = task.stepNumber
  · simp [heq]
  · simp [heq, Ne.symm heq]

/-- What `restore` reports about the task rows. -/
def ResumeOutcome.changes (outcome : ResumeOutcome) : List String :=
  outcome.createdTaskIds ++ outcome.updatedTaskIds

namespace WorkflowResumer

section Rows

variable {input : ResumeInput} {checkpoint : WorkflowCheckpoint}

/-- `restore` looks for the rows among those the workflow had before. -/
theorem find?_existing (db : Db) (step : Nat) :
    (db.tasks.filter (fun task => task.workflowId = checkpoint.workflowId)).find?
        (fun task => task.stepNumber = step) = db.rowAt checkpoint.workflowId step := by
  rw [List.find?_filter]
  unfold Db.rowAt
  congr 1
  funext task
  simp

/-- The row of the node has the status of its bucket, and the other rows are as
they were. -/
structure Placed (input : ResumeInput) (checkpoint : WorkflowCheckpoint) (node : DAGNode)
    (db db' : Db) : Prop where
  row : (db'.rowAt checkpoint.workflowId (stepNumber input node.nodeId)).map Task.status =
    some (targetStatus checkpoint node.nodeId)
  others : ∀ step, step ≠ stepNumber input node.nodeId →
    db'.rowAt checkpoint.workflowId step = db.rowAt checkpoint.workflowId step
  keyed : db'.TasksKeyed
  ids : ∀ taskId ∈ db'.tasks.map Task.taskId,
    taskId ∈ db.tasks.map Task.taskId ∨ taskId = input.newTaskId node.nodeId

theorem restoreTask_placed {existing : List Task} {outcome : ResumeOutcome} {db : Db}
    {node : DAGNode} (hkeyed : db.TasksKeyed)
    (hexisting : existing.find? (fun task => task.stepNumber = stepNumber input node.nodeId) =
      db.rowAt checkpoint.workflowId (stepNumber input node.nodeId))
    (hfresh : input.newTaskId node.nodeId ∉ db.tasks.map Task.taskId) :
    Placed input checkpoint node db
      (restoreTask input checkpoint existing (outcome, db) node).2 := by
  unfold restoreTask
  dsimp only
  rw [hexisting]
  cases hrow : db.rowAt checkpoint.workflowId (stepNumber input node.nodeId) with
  | none =>
    have happend : ∀ step,
        { db with tasks := db.tasks ++ [newTask input checkpoint node] }.rowAt
          checkpoint.workflowId step = (db.rowAt checkpoint.workflowId step).or
            (if step = stepNumber input node.nodeId then some (newTask input checkpoint node)
              else none) := Db.rowAt_append db (newTask input checkpoint node)
    refine ⟨?_, fun step hne => ?_, ?_, fun taskId hmem => ?_⟩
    · rw [happend, hrow, Option.none_or, if_pos rfl]
      rfl
    · rw [happend, if_neg hne, Option.or_none]
    · show ((db.tasks ++ [newTask input checkpoint node]).map Task.taskId).Nodup
      rw [List.map_append]
      refine hkeyed.append (List.nodup_singleton _) ?_
      intro taskId hold hnew
      rw [List.map_singleton, List.mem_singleton] at hnew
      rw [hnew] at hold
      exact hfresh hold
    · rw [List.map_append, List.mem_append, List.map_singleton, List.mem_singleton] at hmem
      exact hmem
  | some task =>
    obtain ⟨hmem, -, -⟩ := Db.mem_of_rowAt hrow
    dsimp only
    rw [hkeyed.task?_of_mem hmem, Option.map_some]
    split
    · rename_i hstatus
      refine ⟨?_, fun _ _ => rfl, hkeyed, fun _ hid => Or.inl hid⟩
      rw [hrow, Option.map_some, hstatus]
    · have hupdate := Db.rowAt_updateTask hkeyed hrow (targetStatus checkpoint node.nodeId)
      refine ⟨?_, fun step hne => ?_, hkeyed.updateTask _ _, fun taskId hid => Or.inl ?_⟩
      · rw [hupdate, if_pos rfl]
        rfl
      · rw [hupdate, if_neg hne]
      · unfold Db.updateTask at hid
        rw [List.map_map] at hid
        obtain ⟨row, hrow', rfl⟩ := List.mem_map.1 hid
        refine List.mem_map.2 ⟨row, hrow', ?_⟩
        rw [Function.comp_apply]
        split
        · rfl
        · rfl

/-- The new keys are distinct and not taken, as random keys are. -/
structure Fresh (input : ResumeInput) (nodes : List DAGNode) (db : Db) : Prop where
  distinct : (nodes.map (fun node => input.newTaskId node.nodeId)).Nodup
  unused : ∀ node ∈ nodes, input.newTaskId node.nodeId ∉ db.tasks.map Task.taskId

/-- With a number for each node, every node gets the status of its bucket, and
rows of other numbers stay. -/
theorem restoreTasks_placed {existing : List Task} (nodes : List DAGNode)
    (outcome : ResumeOutcome) (db : Db) (hkeyed : db.TasksKeyed) (hfresh : Fresh input nodes db)
    (hsteps : (nodes.map (fun node => stepNumber input node.nodeId)).Nodup)
    (hexisting : ∀ node ∈ nodes,
      existing.find? (fun task => task.stepNumber = stepNumber input node.nodeId) =
        db.rowAt checkpoint.workflowId (stepNumber input node.nodeId)) :
    (∀ node ∈ nodes,
      ((nodes.foldl (restoreTask input checkpoint existing) (outcome, db)).2.rowAt
        checkpoint.workflowId (stepNumber input node.nodeId)).map Task.status =
          some (targetStatus checkpoint node.nodeId)) ∧
    (∀ step, (∀ node ∈ nodes, step ≠ stepNumber input node.nodeId) →
      (nodes.foldl (restoreTask input checkpoint existing) (outcome, db)).2.rowAt
        checkpoint.workflowId step = db.rowAt checkpoint.workflowId step) ∧
    (nodes.foldl (restoreTask input checkpoint existing) (outcome, db)).2.TasksKeyed := by
  induction nodes generalizing outcome db with
  | nil => exact ⟨fun node hnode => absurd hnode List.not_mem_nil, fun _ _ => rfl, hkeyed⟩
  | cons node rest ih =>
    rw [List.foldl_cons]
    obtain ⟨hrow, hothers, hkeyed', hids⟩ := @restoreTask_placed input checkpoint existing outcome db
      node hkeyed (hexisting node List.mem_cons_self) (hfresh.unused node List.mem_cons_self)
    rw [List.map_cons, List.nodup_cons] at hsteps
    have hne : ∀ other ∈ rest, stepNumber input other.nodeId ≠ stepNumber input node.nodeId :=
      fun other hother heq => hsteps.1 (List.mem_map.2 ⟨other, hother, heq⟩)
    obtain ⟨hdistinct, hunused⟩ := hfresh
    rw [List.map_cons, List.nodup_cons] at hdistinct
    have hfresh' : Fresh input rest
        (restoreTask input checkpoint existing (outcome, db) node).2 := by
      refine ⟨hdistinct.2, fun other hother hmem => ?_⟩
      rcases hids _ hmem with hold | hnew
      · exact hunused other (List.mem_cons_of_mem _ hother) hold
      · exact hdistinct.1 (List.mem_map.2 ⟨other, hother, hnew⟩)
    obtain ⟨hplaced, hstay, hkeyed''⟩ := ih
      (restoreTask input checkpoint existing (outcome, db) node).1
      (restoreTask input checkpoint existing (outcome, db) node).2 hkeyed' hfresh' hsteps.2
      (fun other hother => by
        rw [hothers _ (hne other hother)]
        exact hexisting other (List.mem_cons_of_mem _ hother))
    refine ⟨fun other hother => ?_, fun step hstep => ?_, hkeyed''⟩
    · rcases List.mem_cons.1 hother with rfl | hrest
      · rw [hstay _ (fun later hlater => (hne later hlater).symm)]
        exact hrow
      · exact hplaced other hrest
    · rw [hstay step (fun later hlater => hstep later (List.mem_cons_of_mem _ hlater))]
      exact hothers step (hstep node List.mem_cons_self)

/-! ## A restore that has nothing to do -/

/-- A node whose row has the status of its bucket is passed over; any other is
reported. -/
theorem restoreTask_changes {existing : List Task} {outcome : ResumeOutcome} {db : Db}
    {node : DAGNode} (hkeyed : db.TasksKeyed)
    (hexisting : existing.find? (fun task => task.stepNumber = stepNumber input node.nodeId) =
      db.rowAt checkpoint.workflowId (stepNumber input node.nodeId)) :
    ((db.rowAt checkpoint.workflowId (stepNumber input node.nodeId)).map Task.status =
        some (targetStatus checkpoint node.nodeId) ∧
      restoreTask input checkpoint existing (outcome, db) node = (outcome, db)) ∨
    ((db.rowAt checkpoint.workflowId (stepNumber input node.nodeId)).map Task.status ≠
        some (targetStatus checkpoint node.nodeId) ∧
      (restoreTask input checkpoint existing (outcome, db) node).1.changes.length =
        outcome.changes.length + 1) := by
  unfold restoreTask
  dsimp only
  rw [hexisting]
  cases hrow : db.rowAt checkpoint.workflowId (stepNumber input node.nodeId) with
  | none =>
    refine Or.inr ⟨by simp, ?_⟩
    simp only [ResumeOutcome.changes, List.length_append, List.length_singleton]
    omega
  | some task =>
    obtain ⟨hmem, -, -⟩ := Db.mem_of_rowAt hrow
    dsimp only
    rw [hkeyed.task?_of_mem hmem]
    split
    · rename_i hstatus
      exact Or.inl ⟨hstatus, rfl⟩
    · rename_i hstatus
      refine Or.inr ⟨hstatus, ?_⟩
      simp only [ResumeOutcome.changes, List.length_append, List.length_singleton]
      omega

theorem restoreTask_changes_le {existing : List Task} (state : ResumeOutcome × Db)
    (node : DAGNode) : state.1.changes.length ≤
      (restoreTask input checkpoint existing state node).1.changes.length := by
  obtain ⟨outcome, db⟩ := state
  unfold restoreTask
  dsimp only
  split
  · simp only [ResumeOutcome.changes, List.length_append]
    omega
  · split
    · exact le_refl _
    · simp only [ResumeOutcome.changes, List.length_append]
      omega

theorem restoreTasks_changes_le {existing : List Task} (nodes : List DAGNode)
    (state : ResumeOutcome × Db) : state.1.changes.length ≤
      (nodes.foldl (restoreTask input checkpoint existing) state).1.changes.length := by
  induction nodes generalizing state with
  | nil => exact le_refl _
  | cons node rest ih =>
    rw [List.foldl_cons]
    exact (restoreTask_changes_le state node).trans (ih _)

/-- Nothing is reported if every node has a row with the status of its bucket. -/
theorem restoreTasks_quiet {existing : List Task} (nodes : List DAGNode)
    (outcome : ResumeOutcome) (db : Db) (hkeyed : db.TasksKeyed)
    (hexisting : ∀ node ∈ nodes,
      existing.find? (fun task => task.stepNumber = stepNumber input node.nodeId) =
        db.rowAt checkpoint.workflowId (stepNumber input node.nodeId)) :
    (nodes.foldl (restoreTask input checkpoint existing) (outcome, db)).1.changes.length =
        outcome.changes.length ↔
      ∀ node ∈ nodes, (db.rowAt checkpoint.workflowId (stepNumber input node.nodeId)).map
        Task.status = some (targetStatus checkpoint node.nodeId) := by
  induction nodes with
  | nil => exact ⟨fun _ node hnode => absurd hnode List.not_mem_nil, fun _ => rfl⟩
  | cons node rest ih =>
    rw [List.foldl_cons, List.forall_mem_cons]
    rcases @restoreTask_changes input checkpoint existing outcome db node hkeyed
      (hexisting node List.mem_cons_self) with ⟨hstatus, hsame⟩ | ⟨hstatus, hmore⟩
    · rw [hsame, ih (fun other hother => hexisting other (List.mem_cons_of_mem _ hother))]
      exact ⟨fun h => ⟨hstatus, h⟩, And.right⟩
    · have hle := @restoreTasks_changes_le input checkpoint existing rest
        (restoreTask input checkpoint existing (outcome, db) node)
      constructor
      · intro heq
        omega
      · exact fun h => absurd h.1 hstatus

end Rows

/-! ## The buckets of a checkpoint -/

/-- The status that the buckets keep of a node. -/
def keptStatus (node : DAGNode) : TaskStatus :=
  if node.nodeId ≠ "" ∧ (node.status = .completed ∨ node.status = .failed) then node.status
  else .pending

/-- The checkpoint was built from the DAG. -/
structure BuiltFrom (dag : DAG) (checkpoint : WorkflowCheckpoint) : Prop where
  snapshot : checkpoint.dagSnapshot = dag.toDict
  completed : checkpoint.completedTaskIds = WorkflowCheckpoint.bucket dag (· = .completed)
  failed : checkpoint.failedTaskIds = WorkflowCheckpoint.bucket dag (· = .failed)
  pending : checkpoint.pendingTaskIds =
    WorkflowCheckpoint.bucket dag (fun status => status ≠ .completed ∧ status ≠ .failed)

private theorem mem_bucket {dag : DAG} {p : TaskStatus → Bool} {node : DAGNode}
    (hnode : node ∈ dag.nodes) :
    node.nodeId ∈ WorkflowCheckpoint.bucket dag p ↔ node.nodeId ≠ "" ∧ p node.status = true := by
  unfold WorkflowCheckpoint.bucket
  constructor
  · intro hmem
    obtain ⟨other, hother, hid⟩ := List.mem_map.1 hmem
    obtain ⟨hother, hp⟩ := List.mem_filter.1 hother
    rw [List.inj_on_of_nodup_map dag.nodup hother hnode hid] at hp
    exact of_decide_eq_true hp
  · exact fun h => List.mem_map.2 ⟨node, List.mem_filter.2 ⟨hnode, decide_eq_true h⟩, rfl⟩

private theorem exists_of_bucket {dag : DAG} {p : TaskStatus → Bool} {nodeId : String}
    (h : nodeId ∈ WorkflowCheckpoint.bucket dag p) :
    ∃ node ∈ dag.nodes, node.nodeId = nodeId := by
  obtain ⟨node, hnode, hid⟩ := List.mem_map.1 h
  exact ⟨node, (List.mem_filter.1 hnode).1, hid⟩

private theorem bucket_nodup (dag : DAG) (p : TaskStatus → Bool) :
    (WorkflowCheckpoint.bucket dag p).Nodup :=
  (List.filter_sublist.map _).nodup dag.nodup

private theorem find?_bucket (nodeIds : List String) (status : TaskStatus) (nodeId : String) :
    (nodeIds.map (·, status)).find? (fun entry => entry.1 = nodeId) =
      if nodeId ∈ nodeIds then some (nodeId, status) else none := by
  induction nodeIds with
  | nil => rfl
  | cons first rest ih =>
    rw [List.map_cons, List.find?_cons, ih]
    by_cases heq : first = nodeId
    · simp [heq]
    · simp [heq, Ne.symm heq]

/-- The target status of a node is the one that its bucket keeps. -/
theorem targetStatus_of_builtFrom {dag : DAG} {checkpoint : WorkflowCheckpoint}
    (h : BuiltFrom dag checkpoint) {node : DAGNode} (hnode : node ∈ dag.nodes) :
    targetStatus checkpoint node.nodeId = keptStatus node := by
  have hkeys : (Assoc.keys (checkpoint.completedTaskIds.map (·, TaskStatus.completed) ++
      checkpoint.failedTaskIds.map (·, .failed) ++
      checkpoint.pendingTaskIds.map (·, .pending))).Nodup := by
    unfold Assoc.keys
    simp only [List.map_append, List.map_map]
    show (checkpoint.completedTaskIds.map id ++ checkpoint.failedTaskIds.map id ++
      checkpoint.pendingTaskIds.map id).Nodup
    rw [List.map_id, List.map_id, List.map_id, h.completed, h.failed, h.pending]
    refine ((bucket_nodup dag _).append (bucket_nodup dag _) ?_).append (bucket_nodup dag _) ?_
    · intro nodeId hcompleted hfailed
      obtain ⟨other, hother, rfl⟩ := exists_of_bucket hcompleted
      have hstatus := ((mem_bucket hother).1 hcompleted).2
      have hstatus' := ((mem_bucket hother).1 hfailed).2
      rw [of_decide_eq_true hstatus] at hstatus'
      cases hstatus'
    · intro nodeId hearlier hpending
      obtain ⟨other, hother, rfl⟩ := exists_of_bucket hpending
      obtain ⟨hcompleted, hfailed⟩ := of_decide_eq_true ((mem_bucket hother).1 hpending).2
      rcases List.mem_append.1 hearlier with hmem | hmem
      · exact hcompleted (of_decide_eq_true ((mem_bucket hother).1 hmem).2)
      · exact hfailed (of_decide_eq_true ((mem_bucket hother).1 hmem).2)
  unfold targetStatus bucketStatuses
  rw [Assoc.ofList_of_nodup hkeys, List.find?_append, List.find?_append, find?_bucket,
    find?_bucket, find?_bucket, h.completed, h.failed, h.pending]
  simp only [mem_bucket hnode]
  unfold keptStatus
  by_cases hid : node.nodeId = ""
  · simp [hid]
  · cases hstatus : node.status <;> simp [hid]

/-! ## Restoring twice -/

/-- Every node has a row of its own with its status after `restore`, and a
second `restore`, maybe in another process, has nothing to do. -/
def RestoresOwnRows (input input' : ResumeInput) (db : Db) (checkpoint : WorkflowCheckpoint)
    (dag : DAG) : Prop :=
  ∃ outcome db', restore input db checkpoint = .ok (outcome, db') ∧
    (∀ node ∈ dag.nodes,
      (db'.rowAt checkpoint.workflowId (stepNumber input node.nodeId)).map Task.status =
        some node.status) ∧
    (∀ node ∈ dag.nodes, ∀ other ∈ dag.nodes,
      db'.rowAt checkpoint.workflowId (stepNumber input node.nodeId) =
        db'.rowAt checkpoint.workflowId (stepNumber input other.nodeId) → node = other) ∧
    ∃ again db'', restore input' db' checkpoint = .ok (again, db'') ∧
      again.createdWorkflow = false ∧ again.createdTaskIds = [] ∧ again.updatedTaskIds = []

/-- The status of the row that stands under a number when every node has its
own: the node's, or what was there before. -/
def statusAt (input : ResumeInput) (dag : DAG) (db : Db) (workflowId : UUID) (step : Nat) :
    Option TaskStatus :=
  match dag.nodes.find? (fun node => stepNumber input node.nodeId = step) with
  | some node => some node.status
  | none => (db.rowAt workflowId step).map Task.status

/-- The buckets keep every status, the nodes have distinct numbers, and the
second process finds the statuses under its numbers. -/
structure RowsKept (input input' : ResumeInput) (db : Db) (workflowId : UUID) (dag : DAG) :
    Prop where
  kept : ∀ node ∈ dag.nodes, keptStatus node = node.status
  distinct : (dag.nodes.map (fun node => stepNumber input node.nodeId)).Nodup
  found : ∀ node ∈ dag.nodes,
    statusAt input dag db workflowId (stepNumber input' node.nodeId) = some node.status

section Twice

variable {dag : DAG} {checkpoint : WorkflowCheckpoint} {input : ResumeInput} {db : Db}

/-- `restore` of a checkpoint whose DAG is accepted. -/
theorem restore_of_builtFrom (h : BuiltFrom dag checkpoint)
    (hdag : ∃ rebuilt, DAG.new dag.nodes = .ok rebuilt) (input : ResumeInput) (db : Db) :
    restore input db checkpoint =
      .ok (dag.nodes.foldl (restoreTask input checkpoint
          (db.tasks.filter (fun task => task.workflowId = checkpoint.workflowId)))
        ({ createdWorkflow := (restoreWorkflow input.now db checkpoint).1 },
          (restoreWorkflow input.now db checkpoint).2)) := by
  obtain ⟨rebuilt, hrebuilt⟩ := hdag
  have hnodes : rebuilt.nodes = dag.nodes := by
    rw [(DAG.new_eq_ok hrebuilt).1]
    exact DAG.nodeDict_of_nodup dag.nodup
  have htasks : (restoreWorkflow input.now db checkpoint).2.tasks = db.tasks := by
    unfold restoreWorkflow
    split
    · rfl
    · rfl
  unfold restore
  rw [h.snapshot, DAG.fromDict_toDict, hrebuilt]
  dsimp only [Except.mapError]
  rw [hnodes, htasks]

theorem rowAt_restoreWorkflow (now : Time) (db : Db) (checkpoint : WorkflowCheckpoint)
    (step : Nat) : (restoreWorkflow now db checkpoint).2.rowAt checkpoint.workflowId step =
      db.rowAt checkpoint.workflowId step := by
  unfold restoreWorkflow
  split
  · rfl
  · rfl

theorem createdWorkflow_restoreTasks {existing : List Task} (nodes : List DAGNode)
    (state : ResumeOutcome × Db) :
    (nodes.foldl (restoreTask input checkpoint existing) state).1.createdWorkflow =
      state.1.createdWorkflow := by
  induction nodes generalizing state with
  | nil => rfl
  | cons node rest ih =>
    rw [List.foldl_cons, ih]
    obtain ⟨outcome, db⟩ := state
    unfold restoreTask
    dsimp only
    split
    · rfl
    · split
      · rfl
      · rfl

/-- A `restore` has nothing to do if the workflow is there and every node has a
row with its status. -/
theorem restore_quiet (h : BuiltFrom dag checkpoint)
    (hdag : ∃ rebuilt, DAG.new dag.nodes = .ok rebuilt) (hkeyed : db.TasksKeyed)
    (hworkflow : (db.workflow? checkpoint.workflowId).isSome) :
    (∃ again db'', restore input db checkpoint = .ok (again, db'') ∧
      again.createdWorkflow = false ∧ again.createdTaskIds = [] ∧ again.updatedTaskIds = []) ↔
    ∀ node ∈ dag.nodes, (db.rowAt checkpoint.workflowId (stepNumber input node.nodeId)).map
      Task.status = some (keptStatus node) := by
  obtain ⟨workflow, hfound⟩ := Option.isSome_iff_exists.1 hworkflow
  have hcreated : (restoreWorkflow input.now db checkpoint).1 = false := by
    unfold restoreWorkflow
    rw [hfound]
  have hkeyed' : (restoreWorkflow input.now db checkpoint).2.TasksKeyed := by
    unfold restoreWorkflow
    rw [hfound]
    exact hkeyed
  have hquiet := @restoreTasks_quiet input checkpoint
    (db.tasks.filter (fun task => task.workflowId = checkpoint.workflowId)) dag.nodes
    { createdWorkflow := (restoreWorkflow input.now db checkpoint).1 }
    (restoreWorkflow input.now db checkpoint).2 hkeyed'
    (fun node _ => (find?_existing db (stepNumber input node.nodeId)).trans
      (rowAt_restoreWorkflow input.now db checkpoint _).symm)
  rw [restore_of_builtFrom h hdag]
  constructor
  · rintro ⟨again, db'', heq, -, hcreatedIds, hupdatedIds⟩ node hnode
    have hnone : again.changes.length = 0 := by
      simp [ResumeOutcome.changes, hcreatedIds, hupdatedIds]
    rw [Except.ok.inj heq] at hquiet
    rw [← targetStatus_of_builtFrom h hnode, ← rowAt_restoreWorkflow input.now db checkpoint]
    exact hquiet.1 hnone node hnode
  · intro hrows
    have hlength := hquiet.2 (fun node hnode => by
      rw [rowAt_restoreWorkflow, targetStatus_of_builtFrom h hnode]
      exact hrows node hnode)
    refine ⟨_, _, rfl, ?_, ?_, ?_⟩
    · rw [createdWorkflow_restoreTasks]
      exact hcreated
    · exact (List.append_eq_nil_iff.1 (List.length_eq_zero_iff.1 hlength)).1
    · exact (List.append_eq_nil_iff.1 (List.length_eq_zero_iff.1 hlength)).2

/-- The rows after a first `restore` that gives every node a number of its own. -/
theorem rowAt_restore {outcome : ResumeOutcome} {db' : Db} (h : BuiltFrom dag checkpoint)
    (hdag : ∃ rebuilt, DAG.new dag.nodes = .ok rebuilt) (hkeyed : db.TasksKeyed)
    (hfresh : Fresh input dag.nodes db)
    (hsteps : (dag.nodes.map (fun node => stepNumber input node.nodeId)).Nodup)
    (hrestore : restore input db checkpoint = .ok (outcome, db')) :
    (∀ node ∈ dag.nodes,
      (db'.rowAt checkpoint.workflowId (stepNumber input node.nodeId)).map Task.status =
        some (keptStatus node)) ∧
    (∀ step, (∀ node ∈ dag.nodes, step ≠ stepNumber input node.nodeId) →
      db'.rowAt checkpoint.workflowId step = db.rowAt checkpoint.workflowId step) ∧
    db'.TasksKeyed := by
  have htasks : (restoreWorkflow input.now db checkpoint).2.tasks = db.tasks := by
    unfold restoreWorkflow
    split
    · rfl
    · rfl
  have hkeyed' : (restoreWorkflow input.now db checkpoint).2.TasksKeyed := by
    unfold Db.TasksKeyed
    rw [htasks]
    exact hkeyed
  have hfresh' : Fresh input dag.nodes (restoreWorkflow input.now db checkpoint).2 := by
    refine ⟨hfresh.distinct, ?_⟩
    rw [htasks]
    exact hfresh.unused
  rw [restore_of_builtFrom h hdag] at hrestore
  have hplaced := @restoreTasks_placed input checkpoint
    (db.tasks.filter (fun task => task.workflowId = checkpoint.workflowId)) dag.nodes
    { createdWorkflow := (restoreWorkflow input.now db checkpoint).1 }
    (restoreWorkflow input.now db checkpoint).2 hkeyed' hfresh' hsteps
    (fun node _ => (find?_existing db (stepNumber input node.nodeId)).trans
      (rowAt_restoreWorkflow input.now db checkpoint _).symm)
  rw [Except.ok.inj hrestore] at hplaced
  refine ⟨fun node hnode => ?_, fun step hstep => ?_, hplaced.2.2⟩
  · rw [hplaced.1 node hnode, targetStatus_of_builtFrom h hnode]
  · rw [hplaced.2.1 step hstep, rowAt_restoreWorkflow]

theorem status_rowAt_restore {outcome : ResumeOutcome} {db' : Db} (h : BuiltFrom dag checkpoint)
    (hdag : ∃ rebuilt, DAG.new dag.nodes = .ok rebuilt) (hkeyed : db.TasksKeyed)
    (hfresh : Fresh input dag.nodes db)
    (hsteps : (dag.nodes.map (fun node => stepNumber input node.nodeId)).Nodup)
    (hkept : ∀ node ∈ dag.nodes, keptStatus node = node.status)
    (hrestore : restore input db checkpoint = .ok (outcome, db')) (step : Nat) :
    (db'.rowAt checkpoint.workflowId step).map Task.status =
      statusAt input dag db checkpoint.workflowId step := by
  obtain ⟨hrows, hothers, -⟩ := rowAt_restore h hdag hkeyed hfresh hsteps hrestore
  unfold statusAt
  cases hfound : dag.nodes.find? (fun node => stepNumber input node.nodeId = step) with
  | none =>
    have hnot : ∀ node ∈ dag.nodes, step ≠ stepNumber input node.nodeId := by
      intro node hnode heq
      have hfalse := List.find?_eq_none.1 hfound node hnode
      exact hfalse (decide_eq_true heq.symm)
    rw [hothers step hnot]
  | some node =>
    have hnode := List.mem_of_find?_eq_some hfound
    have hstep : stepNumber input node.nodeId = step := by simpa using List.find?_some hfound
    rw [← hstep, hrows node hnode, hkept node hnode]

end Twice

end WorkflowResumer

/-! ## Two nodes with one number -/

namespace RestoreExample

/-- A node without dependencies. -/
def root (nodeId : String) (status : TaskStatus) : DAGNode where
  nodeId := nodeId
  capability := "research"
  description := "d"
  status := status

/-- The keys of new rows differ by the length of the node id. -/
def input : ResumeInput where
  now := 0
  newTaskId nodeId := UUID.ofNat nodeId.length
  stringHash _ := 0
  quote text := text

/-- A database without rows. -/
def db : Db where
  workflows := []
  agents := []
  tasks := []
  memoryRecords := Table.empty
  walletEvents := Table.empty

/-- A checkpoint of root nodes. -/
def checkpoint (nodes : List DAGNode) : WorkflowCheckpoint :=
  WorkflowCheckpoint.fromDag 0 (UUID.ofNat 1) (DAG.ofNodes nodes) "saved" none [] none

theorem builtFrom (nodes : List DAGNode) :
    WorkflowResumer.BuiltFrom (DAG.ofNodes nodes) (checkpoint nodes) :=
  ⟨rfl, rfl, rfl, rfl⟩

/-- A node and its alternative. -/
def retried : List DAGNode := [root "t1" .completed, root "t1_alt" .failed]

/-- The nodes of which the second `restore` changes the row. -/
def updatedAgain (nodes : List DAGNode) : Option (List String) :=
  match WorkflowResumer.restore input db (checkpoint nodes) with
  | .error _ => none
  | .ok (_, db') =>
    match WorkflowResumer.restore input db' (checkpoint nodes) with
    | .error _ => none
    | .ok (again, _) => some again.updatedTaskIds

end RestoreExample

namespace WorkflowResumer

end WorkflowResumer

end MassClaw
