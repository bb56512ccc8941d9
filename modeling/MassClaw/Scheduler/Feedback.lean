import MassClaw.Lib.Assoc
import MassClaw.Scheduler.Charges
import MassClaw.Scheduler.SemanticCache

/-!
# The feedback of a rejected output

When the reflection sends a node back, `SelfCorrectionEngine` writes a feedback
text, and it is put into the key `retry_feedback` of the task row.  The next
attempt builds its prompt from the description of the node and the context,
looks it up in the semantic cache, and stores what the LLM answers there.
Nothing reads `retry_feedback`.

The module follows the attempts of a run through the loop.  The texts in which
a feedback can stand are found first.
-/

namespace MassClaw

namespace WorkflowScheduler

/-! ## A text in the parts of a prompt -/

section Infix

variable {α : Type} {text left right : List α}

private theorem infix_append_cases (h : text <:+: left ++ right) :
    text <:+: left ∨ text <:+: right ∨
      ∃ init tail, text = init ++ tail ∧ init <:+ left ∧ tail <+: right := by
  obtain ⟨before, after, happend⟩ := h
  rcases List.append_eq_append_iff.1 happend with ⟨rest, hleft, -⟩ | ⟨rest, hstart, hright⟩
  · exact Or.inl ⟨before, rest, hleft.symm⟩
  · rcases List.append_eq_append_iff.1 hstart with ⟨init, hleft, htext⟩ | ⟨gap, -, hrest⟩
    · exact Or.inr (Or.inr ⟨init, rest, htext, ⟨before, hleft.symm⟩, ⟨after, hright.symm⟩⟩)
    · refine Or.inr (Or.inl ⟨gap, after, ?_⟩)
      rw [hright, hrest]

private theorem suffix_append_cases (h : text <:+ left ++ right) :
    text <:+ right ∨ ∃ init, text = init ++ right ∧ init <:+ left := by
  obtain ⟨before, happend⟩ := h
  rcases List.append_eq_append_iff.1 happend with ⟨init, hleft, htext⟩ | ⟨gap, -, hright⟩
  · exact Or.inr ⟨init, htext, ⟨before, hleft.symm⟩⟩
  · exact Or.inl ⟨gap, hright.symm⟩

end Infix

/-- The heading between the description and the context. -/
def contextHeading : String := "\n\n## Context from Prior Agents\n"

/-- The end of every prompt. -/
def promptInstructions : String :=
  "\n\n## Instructions\n" ++
    "Complete this task thoroughly. Build on the context provided by prior agents. " ++
    "Be specific, actionable, and thorough in your analysis."

/-- `_build_agent_prompt`. -/
def buildAgentPrompt (node : DAGNode) (context : String) : String :=
  "## Task\n" ++ node.description ++ contextHeading ++ context ++ promptInstructions

/-- The feedback text stands in the description or in the context, counting the
line break before it, or it is spelt by both and the heading between them. -/
def Quotes (feedback description context : String) : Prop :=
  feedback.toList <:+: '\n' :: description.toList ∨ feedback.toList <:+: '\n' :: context.toList ∨
    ∃ init tail, feedback.toList = init ++ contextHeading.toList ++ tail ∧
      init <:+ '\n' :: description.toList ∧ tail <+: context.toList

section Feedback

/-- How every feedback begins, and how it ends. -/
private def feedbackStart : String := "\n\n## Feedback from Quality Review\n"
private def feedbackEnd : String := "\nPlease address these issues in your revised response."

private theorem feedback_prefix (issues suggestions : List String) :
    feedbackStart.toList <+:
      (SelfCorrectionEngine.buildFeedbackPrompt issues suggestions).toList := by
  unfold SelfCorrectionEngine.buildFeedbackPrompt
  dsimp only
  rw [List.append_assoc, List.append_assoc, String.intercalate_append_of_ne_nil (by simp)
    (by simp), String.intercalate_singleton, String.append_assoc, String.toList_append]
  exact List.prefix_append _ _

private theorem feedback_suffix (issues suggestions : List String) :
    feedbackEnd.toList <:+
      (SelfCorrectionEngine.buildFeedbackPrompt issues suggestions).toList := by
  unfold SelfCorrectionEngine.buildFeedbackPrompt
  dsimp only
  rw [String.intercalate_append_of_ne_nil (by simp) (by simp), String.intercalate_singleton,
    String.toList_append]
  exact List.suffix_append _ _

variable {feedback description context : List Char}

/-- A fixed text that begins with a line break and has no feedback in it. -/
private def Foreign (fixed : List Char) : Prop :=
  fixed.head? = some '\n' ∧ ¬feedbackStart.toList <:+: fixed ∧ ¬feedbackEnd.toList <:+: fixed

private instance (fixed : List Char) : Decidable (Foreign fixed) :=
  inferInstanceAs (Decidable (_ ∧ _ ∧ _))

/-- The last line of a feedback is one line. -/
private theorem eq_feedbackEnd_of_suffix {rest : List Char}
    (h : '\n' :: rest <:+ feedbackEnd.toList) : '\n' :: rest = feedbackEnd.toList := by
  have hline : '\n' ∉ feedbackEnd.toList.tail := by decide +kernel
  obtain ⟨before, happend⟩ := h
  cases before with
  | nil => exact happend
  | cons ch before =>
    rw [← happend] at hline
    exact absurd (List.mem_append_right before List.mem_cons_self) hline

/-- A fixed text that the feedback cannot reach into from the left. -/
private theorem infix_of_infix_append {text fixed : List Char}
    (hstart : feedbackStart.toList <+: feedback) (hend : feedbackEnd.toList <:+ feedback)
    (hforeign : Foreign fixed) (h : feedback <:+: text ++ fixed) : feedback <:+: text := by
  obtain ⟨hhead, houter, hinner⟩ := hforeign
  rcases infix_append_cases h with htext | hfixed | ⟨init, tail, hsplit, hinit, htail⟩
  · exact htext
  · exact absurd (hstart.isInfix.trans hfixed) houter
  · have hsuffix : tail <:+ feedback := ⟨init, hsplit.symm⟩
    rcases List.suffix_or_suffix_of_suffix hend hsuffix with hinside | hover
    · exact absurd (hinside.isInfix.trans htail.isInfix) hinner
    · cases tail with
      | nil =>
        rw [hsplit, List.append_nil]
        exact hinit.isInfix
      | cons ch rest =>
        obtain ⟨after, hfixed⟩ := htail
        rw [← hfixed, List.cons_append, List.head?_cons, Option.some.injEq] at hhead
        subst hhead
        rw [eq_feedbackEnd_of_suffix hover] at hfixed
        exact absurd ⟨[], after, hfixed⟩ hinner

private theorem task_append (description : List Char) :
    "## Task\n".toList ++ description = "## Task".toList ++ '\n' :: description := by
  rw [show "## Task\n".toList = "## Task".toList ++ ['\n'] from rfl, List.append_assoc,
    List.singleton_append]

/-- The feedback does not begin inside the heading of the task. -/
private theorem eq_nil_of_suffix_task {init : List Char}
    (hstart : feedbackStart.toList <+: feedback) (hfront : init <+: feedback)
    (hsuffix : init <:+ "## Task".toList) : init = [] := by
  rcases List.prefix_or_prefix_of_prefix hfront hstart with hinside | hover
  · have hnone : ∀ init ∈ "## Task".toList.tails,
        init <+: feedbackStart.toList → init = [] := by decide +kernel
    exact hnone init ((List.mem_tails _ _).2 hsuffix) hinside
  · exact absurd (hover.isInfix.trans hsuffix.isInfix) (by decide +kernel)

private theorem suffix_of_suffix_task {init : List Char}
    (hstart : feedbackStart.toList <+: feedback) (hfront : init <+: feedback)
    (h : init <:+ "## Task\n".toList ++ description) : init <:+ '\n' :: description := by
  rw [task_append] at h
  rcases suffix_append_cases h with hline | ⟨before, hinit, hbefore⟩
  · exact hline
  · rw [hinit] at hfront ⊢
    rw [eq_nil_of_suffix_task hstart ((List.prefix_append _ _).trans hfront) hbefore,
      List.nil_append]

private theorem infix_of_infix_task (hstart : feedbackStart.toList <+: feedback)
    (h : feedback <:+: "## Task\n".toList ++ description) :
    feedback <:+: '\n' :: description := by
  have hsplit := task_append description ▸ h
  rcases infix_append_cases hsplit with htask | hline | ⟨init, tail, hinit, hsuffix, htail⟩
  · exact absurd (hstart.isInfix.trans htask) (by decide +kernel)
  · exact hline
  · have hempty := eq_nil_of_suffix_task hstart (hinit ▸ List.prefix_append init tail) hsuffix
    rw [hinit, hempty, List.nil_append]
    exact htail.isInfix

/-- A prompt contains the feedback exactly if the description and the context
bring it along. -/
theorem infix_buildAgentPrompt_iff (node : DAGNode) (context : String)
    (issues suggestions : List String) :
    (SelfCorrectionEngine.buildFeedbackPrompt issues suggestions).toList <:+:
        (buildAgentPrompt node context).toList ↔
      Quotes (SelfCorrectionEngine.buildFeedbackPrompt issues suggestions) node.description
        context := by
  have hstart := feedback_prefix issues suggestions
  have hend := feedback_suffix issues suggestions
  generalize SelfCorrectionEngine.buildFeedbackPrompt issues suggestions = feedback at hstart hend
  have hprompt : (buildAgentPrompt node context).toList =
      "## Task\n".toList ++ node.description.toList ++ contextHeading.toList ++ context.toList ++
        promptInstructions.toList := by
    unfold buildAgentPrompt
    rw [String.toList_append, String.toList_append, String.toList_append, String.toList_append]
  rw [hprompt]
  constructor
  · intro h
    have htext := infix_of_infix_append hstart hend (by decide +kernel) h
    rcases infix_append_cases htext with hhead | hcontext | ⟨init, tail, hsplit, hinit, htail⟩
    · have hdescription := infix_of_infix_append hstart hend (by decide +kernel) hhead
      exact Or.inl (infix_of_infix_task hstart hdescription)
    · exact Or.inr (Or.inl (hcontext.trans (List.infix_cons List.infix_rfl)))
    · rw [hsplit] at hstart
      rcases suffix_append_cases hinit with hheading | ⟨before, hbefore, hdescription⟩
      · -- The heading does not begin like a feedback, apart from its last line break.
        have hbreak : init = [] ∨ init = ['\n'] := by
          rcases List.prefix_or_prefix_of_prefix (List.prefix_append init tail) hstart with
            hinside | hover
          · have hends : ∀ init ∈ contextHeading.toList.tails,
                init <+: feedbackStart.toList → init = [] ∨ init = ['\n'] := by decide +kernel
            exact hends init ((List.mem_tails _ _).2 hheading) hinside
          · exact absurd (hover.isInfix.trans hheading.isInfix) (by decide +kernel)
        refine Or.inr (Or.inl ?_)
        rw [hsplit]
        rcases hbreak with hempty | hbreak
        · rw [hempty]
          exact htail.isInfix.trans (List.infix_cons List.infix_rfl)
        · rw [hbreak]
          exact ((List.prefix_cons_inj '\n').2 htail).isInfix
      · refine Or.inr (Or.inr ⟨before, tail, ?_, ?_, htail⟩)
        · rw [hsplit, hbefore]
        · refine suffix_of_suffix_task hstart ?_ hdescription
          rw [hbefore, List.append_assoc]
          exact List.prefix_append _ _
  · intro h
    apply List.infix_append_of_infix_left
    have hline : '\n' :: node.description.toList <:+
        "## Task\n".toList ++ node.description.toList := by
      rw [task_append]
      exact List.suffix_append _ _
    rcases h with hdescription | hcontext | ⟨init, tail, hsplit, hinit, htail⟩
    · apply List.infix_append_of_infix_left
      apply List.infix_append_of_infix_left
      exact hdescription.trans hline.isInfix
    · have hbreak : contextHeading.toList = "\n\n## Context from Prior Agents".toList ++ ['\n'] :=
        rfl
      rw [hbreak, List.append_assoc, List.append_assoc, List.append_assoc,
        List.singleton_append, ← List.append_assoc, ← List.append_assoc]
      exact List.infix_append_of_infix_right hcontext
    · obtain ⟨before, hbefore⟩ := hinit.trans hline
      obtain ⟨after, hafter⟩ := htail
      refine ⟨before, after, ?_⟩
      rw [hsplit, ← hbefore, ← hafter]
      simp only [List.append_assoc]

end Feedback

/-! ## The attempts of a run -/

/-- A decision to try a node again: the reflection it was made on, and the output
that was rejected. -/
structure Rejection where
  reflection : ReflectionResult
  output : String

/-- `improved_prompt`. -/
def Rejection.feedback (rejection : Rejection) : String :=
  SelfCorrectionEngine.buildFeedbackPrompt rejection.reflection.issues
    rejection.reflection.suggestions

/-- What an attempt meets outside the run. -/
structure Meeting (engine : CacheEngine) where
  /-- What `_build_context` returns. -/
  context : String
  /-- What other workflows, other nodes and the garbage collection do to the
  rows before the lookup. -/
  meanwhile : List (CacheRow engine.Vector) → List (CacheRow engine.Vector) := id
  /-- `NOW()` in the lookup; the clock when an answer is stored. -/
  lookedUpAt : Time := 0
  storedAt : Time := 0
  /-- The lookup raises, which is swallowed. -/
  lookupRaises : Bool := false

/-- One `_llm_call`, with the rows that its lookup finds. -/
structure Attempt (engine : CacheEngine) where
  given : NodeContext
  visit : Visit
  meeting : Meeting engine
  rows : List (CacheRow engine.Vector)
  /-- The decision that sent the node back, if this is the next attempt. -/
  rejection : Option Rejection

namespace Attempt

variable {engine : CacheEngine} (attempt : Attempt engine)

/-- `user_prompt`. -/
def prompt : String := buildAgentPrompt attempt.given.node attempt.meeting.context

/-- `cached_result`. -/
def cached : Option LLMResponse :=
  if attempt.meeting.lookupRaises then none
  else checkSemanticCache engine attempt.rows attempt.given.node attempt.prompt
    attempt.meeting.lookedUpAt

/-- What the call returns: the cached answer, or what the tool loop ends with. -/
def response : Except String LLMResponse :=
  match attempt.cached with
  | some response => .ok response
  | none => attempt.visit.response

/-- The rows after the call; an answer of the tool loop is stored. -/
def rowsAfter : List (CacheRow engine.Vector) :=
  match attempt.cached, attempt.visit.response with
  | none, .ok response => storeInCache engine attempt.rows attempt.given.node attempt.prompt
      attempt.meeting.storedAt response
  | _, _ => attempt.rows

/-- The retry differs from the attempt before: its prompt contains the feedback,
and the cache does not answer with the rejected output. -/
def Corrects : Prop :=
  ∀ rejection, attempt.rejection = some rejection →
    rejection.feedback.toList <:+: attempt.prompt.toList ∧
      ∀ response, attempt.cached = some response → response.content ≠ rejection.output

/-- The description or the context bring the feedback along, and the nearest row
that serves the node is too far or does not hold the rejected output. -/
def Differs : Prop :=
  ∀ rejection, attempt.rejection = some rejection →
    Quotes rejection.feedback attempt.given.node.description attempt.meeting.context ∧
      (attempt.meeting.lookupRaises = false → ∀ embedding found,
        engine.embed? (textPrefix 500 attempt.prompt) = some embedding →
        nearestRow? engine attempt.rows attempt.given.node attempt.meeting.lookedUpAt embedding =
          some found →
        engine.similarityThreshold ≤ 1 - found.2 → isCacheable engine found.1.content = true →
        found.1.content ≠ rejection.output)

theorem cached_eq_some_iff {response : LLMResponse} :
    attempt.cached = some response ↔ attempt.meeting.lookupRaises = false ∧
      checkSemanticCache engine attempt.rows attempt.given.node attempt.prompt
        attempt.meeting.lookedUpAt = some response := by
  unfold cached
  cases attempt.meeting.lookupRaises with
  | true => simp
  | false => simp

/-- An attempt differs from the one before exactly on what it is given. -/
theorem corrects_iff : attempt.Corrects ↔ attempt.Differs := by
  constructor
  · intro hcorrects rejection hrejection
    obtain ⟨hprompt, hcached⟩ := hcorrects rejection hrejection
    refine ⟨(infix_buildAgentPrompt_iff _ _ _ _).1 hprompt, ?_⟩
    intro hlookup embedding found hembedding hnearest hnear hcacheable
    exact hcached _ (attempt.cached_eq_some_iff.2 ⟨hlookup, checkSemanticCache_eq_some_iff.2
      ⟨embedding, found, hembedding, hnearest, hnear, hcacheable, rfl⟩⟩)
  · intro hdiffers rejection hrejection
    obtain ⟨hquotes, hrow⟩ := hdiffers rejection hrejection
    refine ⟨(infix_buildAgentPrompt_iff _ _ _ _).2 hquotes, ?_⟩
    intro response hcached
    obtain ⟨hlookup, hanswer⟩ := attempt.cached_eq_some_iff.1 hcached
    obtain ⟨embedding, found, hembedding, hnearest, hnear, hcacheable, hresponse⟩ :=
      checkSemanticCache_eq_some_iff.1 hanswer
    rw [← hresponse]
    exact hrow hlookup embedding found hembedding hnearest hnear hcacheable

end Attempt

/-! ## The decision -/

section Decision

variable (env : Environment) (workflowId : UUID)

/-- The `try` block of Phase 3 up to the reflection. -/
def reviewed (visit : Visit) (run : Run) (context : NodeContext) (response : LLMResponse) :
    Except SettleFailure Run := do
  let (charged, run) ← chargeNode workflowId visit run context response
  let run ← writeResult env workflowId visit run context response.content charged
  let run ← completeNode visit run context response charged
  return requestReview visit (verifyConsensus visit run context) context

/-- `evaluate` says to try the node again when it is settled. -/
def rejection? (visit : Visit) (run : Run) (context : NodeContext) : Option Rejection :=
  match visit.response, visit.reflection with
  | .ok response, some reflection =>
    match reviewed env workflowId visit
        (run.record (.processed context response run.db visit)) context response with
    | .error _ => none
    | .ok run =>
      if reflection.action = "retry_task" ∧ (run.db.task? context.taskId).any (fun task =>
          SelfCorrectionEngine.shouldRetry reflection task.retryCount) then
        some { reflection, output := response.content }
      else none
  | _, _ => none

variable {env workflowId} {visit : Visit} {run : Run} {context : NodeContext}

private theorem processResponse_eq (response : LLMResponse) :
    processResponse env workflowId visit run context response =
      reviewed env workflowId visit run context response >>= fun run =>
        pure (reflectOnTask workflowId visit run context) := by
  simp only [processResponse, reviewed, bind_assoc, pure_bind]

private theorem task?_assigned {db : Db} {taskId : UUID} {task : Task} (f : Task → Task)
    (hf : ∀ task, (f task).taskId = task.taskId) (htask : db.task? taskId = some task) :
    (db.updateTask taskId f).task? taskId = some (f task) := by
  rw [Db.task?_updateTask db taskId f hf, if_pos rfl, htask, Option.map_some]

/-- A node that is tried again is reset, and its row carries the feedback. -/
theorem retryTask_feedback {reflection : ReflectionResult} {task : Task}
    (htask : run.db.task? context.taskId = some task)
    (hretry : SelfCorrectionEngine.shouldRetry reflection task.retryCount = true) :
    (retryTask run context reflection).dag = run.dag.markPending context.node.nodeId ∧
      ∃ task, (retryTask run context reflection).db.task? context.taskId = some task ∧
        task.status = .pending ∧
        ("retry_feedback", Json.str (SelfCorrectionEngine.buildFeedbackPrompt reflection.issues
          reflection.suggestions)) ∈ task.output.getD [] := by
  unfold retryTask
  rw [htask]
  dsimp only
  rw [if_pos hretry]
  refine ⟨rfl, _, task?_assigned _ (fun _ => rfl) htask, rfl, ?_⟩
  apply List.mem_filter.2
  refine ⟨?_, by simp⟩
  exact Assoc.mem_of_get? (Assoc.get?_set_self _ _ _)

/-- The decision to try a node again resets it and puts the feedback into its
row. -/
theorem settleNode_of_rejection? {rejection : Rejection}
    (h : rejection? env workflowId visit run context = some rejection) :
    ∃ run', settleNode env workflowId visit run context = .ok run' ∧
      (∃ dag, run'.dag = DAG.markPending dag context.node.nodeId) ∧
      ∃ task, run'.db.task? context.taskId = some task ∧ task.status = .pending ∧
        ("retry_feedback", Json.str rejection.feedback) ∈ task.output.getD [] := by
  unfold rejection? at h
  split at h
  · rename_i response reflection hresponse hreflection
    split at h
    · cases h
    · rename_i run₁ hreviewed
      split at h
      · rename_i hdecision
        obtain ⟨haction, hretry⟩ := hdecision
        cases h
        obtain ⟨task, htask, hretry⟩ := (Option.any_eq_true _ _).1 hretry
        unfold settleNode
        rw [hresponse]
        dsimp only
        rw [processResponse_eq, hreviewed]
        refine ⟨_, rfl, ?_⟩
        unfold reflectOnTask
        rw [hreflection]
        dsimp only
        rw [if_pos haction]
        generalize hnoted : Run.updateTask run₁ context.taskId _ = noted
        have hrow : noted.db.task? context.taskId =
            some (setOutput task "reflection" (.dict
              [ ("action", .str reflection.action)
              , ("confidence", .float (.finite reflection.confidence))
              , ("issues", jsonTexts 3 reflection.issues)
              , ("suggestions", jsonTexts 3 reflection.suggestions) ])) := by
          rw [← hnoted]
          exact task?_assigned _ (fun _ => rfl) htask
        obtain ⟨hdag, hfed⟩ := retryTask_feedback hrow hretry
        exact ⟨⟨noted.dag, hdag⟩, hfed⟩
      · cases h
  · cases h

end Decision

/-! ## The loop with its prompts and its cache -/

/-- A run with the rows of the cache. -/
structure Session (engine : CacheEngine) where
  run : Run
  rows : List (CacheRow engine.Vector)
  /-- The decisions whose nodes have not been attempted again. -/
  rejections : List (String × Rejection) := []

section Session

variable {engine : CacheEngine} (env : Environment) (workflowId : UUID)
  (agents : String → Option Agent) (meetings : Nat → String → Meeting engine)

/-- The phases before the LLM calls. -/
def gatedPhases (iteration : Nat) (run : Run) : Except Stopped (List DAGNode × Run) := do
  let run ← preparePhase env workflowId agents iteration run.dag.getReadyNodes (openBatch run)
  gatePhase env workflowId iteration run

/-- The attempt of a node on the rows it finds. -/
def attemptNode (iteration : Nat) (rejections : List (String × Rejection))
    (rows : List (CacheRow engine.Vector)) (context : NodeContext) : Attempt engine where
  given := context
  visit := env.visit iteration context.node.nodeId
  meeting := meetings iteration context.node.nodeId
  rows := (meetings iteration context.node.nodeId).meanwhile rows
  rejection := Assoc.get? rejections context.node.nodeId

/-- Phase 2: the attempts of a batch, and the rows they leave. -/
def attemptNodes (iteration : Nat) (rejections : List (String × Rejection)) :
    List NodeContext → List (CacheRow engine.Vector) →
      List (Attempt engine) × List (CacheRow engine.Vector)
  | [], rows => ([], rows)
  | context :: rest, rows =>
    let attempt := attemptNode env meetings iteration rejections rows context
    let (attempts, rows) := attemptNodes iteration rejections rest attempt.rowsAfter
    (attempt :: attempts, rows)

/-- Phase 3 on an attempt. -/
def settleAttempt (state : Run × List (String × Rejection)) (attempt : Attempt engine) :
    Except Stopped (Run × List (String × Rejection)) := do
  let visit := { attempt.visit with response := attempt.response }
  let run ← settleNode env workflowId visit state.1 attempt.given
  let rejections := state.2.filter (fun entry => entry.1 ≠ attempt.given.node.nodeId)
  return (run, match rejection? env workflowId visit state.1 attempt.given with
    | none => rejections
    | some rejection => rejections ++ [(attempt.given.node.nodeId, rejection)])

/-- The rest of a batch after its calls. -/
def finishBatch (iteration : Nat) (gated : List DAGNode) (attempts : List (Attempt engine))
    (run : Run) (rejections : List (String × Rejection)) :
    Except Stopped (Run × List (String × Rejection)) := do
  let run ← executeNodes env iteration gated run
  let (run, rejections) ← attempts.foldlM (settleAttempt env workflowId) (run, rejections)
  let run ← persistDag env workflowId iteration run
  return (run, rejections)

/-- The attempts of the loop, in order. -/
def attemptsOf : Nat → Nat → Session engine → List (Attempt engine)
  | 0, _, _ => []
  | remaining + 1, iteration, session =>
    if session.run.dag.isComplete then []
    else if session.run.dag.getReadyNodes.isEmpty then []
    else
      match gatedPhases env workflowId agents iteration session.run with
      | .error _ => []
      | .ok (gated, run) =>
        let (attempts, rows) :=
          attemptNodes env meetings iteration session.rejections run.contexts session.rows
        attempts ++
          match finishBatch env workflowId iteration gated attempts run session.rejections with
          | .error _ => []
          | .ok (run, rejections) =>
            attemptsOf remaining (iteration + 1) { run, rows, rejections }

variable {env workflowId agents meetings}

/-- Without an answer of the cache, Phase 3 settles what the tool loops end
with. -/
private theorem settle_uncached {iteration : Nat} {rejections : List (String × Rejection)}
    (contexts : List NodeContext) (rows : List (CacheRow engine.Vector))
    (state : Run × List (String × Rejection))
    (h : ∀ attempt ∈ (attemptNodes env meetings iteration rejections contexts rows).1,
      attempt.cached = none) :
    Except.map Prod.fst
        ((attemptNodes env meetings iteration rejections contexts rows).1.foldlM
          (settleAttempt env workflowId) state) =
      contexts.foldlM (fun run context =>
        settleNode env workflowId (env.visit iteration context.node.nodeId) run context)
        state.1 := by
  induction contexts generalizing rows state with
  | nil => rfl
  | cons context rest ih =>
    have hfirst := h _ List.mem_cons_self
    have hresponse : (attemptNode env meetings iteration rejections rows context).response =
        (env.visit iteration context.node.nodeId).response := by
      unfold Attempt.response
      rw [hfirst]
      rfl
    unfold attemptNodes
    dsimp only
    rw [List.foldlM_cons, List.foldlM_cons]
    unfold settleAttempt
    rw [hresponse]
    show Except.map Prod.fst ((settleNode env workflowId
      (env.visit iteration context.node.nodeId) state.1 context >>= _) >>= _) = _
    cases settleNode env workflowId (env.visit iteration context.node.nodeId) state.1 context with
    | error stopped => rfl
    | ok run => exact ih _ _ (fun attempt hattempt => h attempt (List.mem_cons_of_mem _ hattempt))

/-- With a cache that does not answer, a batch is that of the loop. -/
theorem finishBatch_of_uncached {iteration : Nat} {gated : List DAGNode} {start run : Run}
    {rejections : List (String × Rejection)} {rows : List (CacheRow engine.Vector)}
    (hgated : gatedPhases env workflowId agents iteration start = .ok (gated, run))
    (h : ∀ attempt ∈ (attemptNodes env meetings iteration rejections run.contexts rows).1,
      attempt.cached = none) :
    Except.map Prod.fst (finishBatch env workflowId iteration gated
        (attemptNodes env meetings iteration rejections run.contexts rows).1 run rejections) =
      executeBatch env workflowId agents iteration start := by
  have hbatch : executeBatch env workflowId agents iteration start =
      gatedPhases env workflowId agents iteration start >>= fun state =>
        executeNodes env iteration state.1 state.2 >>= fun run =>
          settlePhase env workflowId iteration run >>= persistDag env workflowId iteration := by
    simp only [executeBatch, gatedPhases, bind_assoc]
  rw [hbatch, hgated]
  unfold finishBatch
  show Except.map Prod.fst (executeNodes env iteration gated run >>= _) =
    (executeNodes env iteration gated run >>= _)
  cases hcalled : executeNodes env iteration gated run with
  | error stopped => rfl
  | ok called =>
    have hcontexts : called.contexts = run.contexts := by
      unfold executeNodes at hcalled
      dsimp only [Run.check] at hcalled
      split at hcalled
      · cases hcalled
      · cases hcalled
        rfl
    have hsettle := @settle_uncached engine env workflowId meetings iteration rejections
      run.contexts rows (called, rejections) h
    show Except.map Prod.fst (List.foldlM _ (called, rejections) _ >>= _) =
      (List.foldlM _ called called.contexts >>= _)
    rw [hcontexts, ← hsettle]
    cases List.foldlM (settleAttempt env workflowId) (called, rejections)
        (attemptNodes env meetings iteration rejections run.contexts rows).1 with
    | error stopped => rfl
    | ok state =>
      show Except.map Prod.fst (persistDag env workflowId iteration state.1 >>= _) =
        persistDag env workflowId iteration state.1
      cases persistDag env workflowId iteration state.1 with
      | error stopped => rfl
      | ok persisted => rfl

/-- In every run each retry differs from the attempt before, exactly if what it
is given makes it differ. -/
theorem retriesCorrect_iff (env : Environment) (workflowId : UUID)
    (agents : String → Option Agent) (meetings : Nat → String → Meeting engine)
    (remaining iteration : Nat) (session : Session engine) :
    (∀ attempt ∈ attemptsOf env workflowId agents meetings remaining iteration session,
        attempt.Corrects) ↔
      ∀ attempt ∈ attemptsOf env workflowId agents meetings remaining iteration session,
        attempt.Differs :=
  forall₂_congr (fun attempt _ => attempt.corrects_iff)

end Session

end WorkflowScheduler

/-! ## A rejected report -/

namespace SchedulerExample

/-- An engine that finds all prompts alike. -/
def alike : CacheEngine where
  Vector := Unit
  embed? _ := some ()
  cosineDistance _ _ := 0
  lower content := content
  similarityThreshold := 92 / 100
  ttlHours := 24

/-- An output that is long enough for the cache. -/
def report : String := "The report names three suppliers, with prices and delivery dates."

/-- The first report is rejected. -/
def reported (iteration : Nat) (nodeId : String) : Visit :=
  { retried iteration nodeId with response := .ok { response with content := report } }

/-- The context of the first task, then one with the report in it. -/
def recalled (iteration : Nat) (_ : String) : WorkflowScheduler.Meeting alike where
  context :=
    if iteration = 1 then "No prior context available. This is the first task in the workflow."
    else "[result | similarity=0.9]\n" ++ report

/-- A run of a single node with an empty cache. -/
def opening : WorkflowScheduler.Session alike where
  run := { db, dag := DAG.ofNodes [root "t1" "research"] }
  rows := []

end SchedulerExample

namespace WorkflowScheduler

open SchedulerExample in
/-- The retry is answered with the report that was rejected. -/
theorem retriesCorrect_fails :
    ¬∀ (engine : CacheEngine) (env : Environment) (workflowId : UUID)
      (agents : String → Option Agent) (meetings : Nat → String → Meeting engine)
      (remaining iteration : Nat) (session : Session engine),
      ∀ attempt ∈ attemptsOf env workflowId agents meetings remaining iteration session,
        attempt.Corrects := by
  intro h
  have hrun : (attemptsOf (env reported) (UUID.ofNat 1) (fun _ => some agent) recalled 2 1
      opening).map (fun attempt => (attempt.rejection.map Rejection.output,
        attempt.cached.map LLMResponse.content)) = [(none, none), (some report, some report)] := by
    decide +kernel
  have hretry : (some report, some report) ∈ (attemptsOf (env reported) (UUID.ofNat 1)
      (fun _ => some agent) recalled 2 1 opening).map (fun attempt =>
        (attempt.rejection.map Rejection.output, attempt.cached.map LLMResponse.content)) := by
    rw [hrun]
    exact List.mem_cons_of_mem _ (List.mem_singleton_self _)
  obtain ⟨attempt, hattempt, hboth⟩ := List.mem_map.1 hretry
  obtain ⟨hrejection, hcached⟩ := Prod.ext_iff.1 hboth
  obtain ⟨rejection, hrejection, houtput⟩ := Option.map_eq_some_iff.1 hrejection
  obtain ⟨response, hcached, hcontent⟩ := Option.map_eq_some_iff.1 hcached
  exact (h _ _ _ _ _ _ _ _ attempt hattempt rejection hrejection).2 response hcached
    (hcontent.trans houtput.symm)

end WorkflowScheduler

end MassClaw
