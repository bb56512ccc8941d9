import Mathlib.Data.List.Infix
import MassClaw.Core.Json
import MassClaw.Dag.Acyclic
import MassClaw.Dag.Engaged
import MassClaw.Lib.Outcome
import MassClaw.Lib.Retry
import MassClaw.Tools.ApiCaller

/-!
# The decomposition of a request, `app/orchestration/decomposer.py`

A language model answers a prompt with a list of tasks.  The answer is read,
validated and turned into a DAG; when that raises, the model is asked again with
the error, twice at most.

What the model answers is arbitrary: the answer can depend on the attempt and on
the prompt.  `DecomposedTask` and `DecompositionResult` carry what their
validation checks.
-/

namespace MassClaw

/-- What `json.loads` raises: `JSONDecodeError`, or anything else. -/
inductive LoadsError
  | decode
  | other (text : String)

/-- What pydantic finds wrong with a value. -/
inductive IssueType
  | missing | modelType | stringType | listType | stringTooShort | tooShort
  deriving DecidableEq

/-- An error of a `ValidationError`, with the path of the value. -/
structure ValidationIssue where
  loc : List (String ⊕ Nat)
  type : IssueType

/-- What the decomposition takes from outside the program. -/
structure DecomposerEnv where
  /-- `json.loads`. -/
  loads : String → Except LoadsError Json
  /-- `str.lower`. -/
  lower : String → String
  /-- The content of the response to a prompt, by the number of the attempt, or
  the text of the exception. -/
  generate : Nat → String → Except String String
  /-- `str` of a `ValidationError`. -/
  describe : List ValidationIssue → String

/-! ## Reading the answer -/

namespace TaskDecomposer

/-- The text before and after the first occurrence of a pattern that is not
empty. -/
def cut? (pattern : List Char) : List Char → Option (List Char × List Char)
  | [] => none
  | c :: rest =>
    if pattern.isPrefixOf (c :: rest) then some ([], (c :: rest).drop pattern.length)
    else (cut? pattern rest).map (fun parts => (c :: parts.1, parts.2))

def fence : List Char := "```".toList

/-- The match of the pattern for a fenced block, stripped: the text between the
first two fences, without `json` after the first one. -/
def fenced? (text : List Char) : Option (List Char) :=
  match cut? fence text with
  | none => none
  | some (_, rest) =>
    let rest := if "json".toList.isPrefixOf rest then rest.drop 4 else rest
    (cut? fence rest).map (fun parts => ApiCaller.strip parts.1)

/-- The text from the first opening brace to the last closing one. -/
def braced? (text : List Char) : Option (List Char) :=
  let fromFirst := text.dropWhile (· != '\x7b')
  let toLast := (fromFirst.reverse.dropWhile (· != '\x7d')).reverse
  if toLast.isEmpty then none else some toLast

/-- The readings of an answer that are tried in turn. -/
def readings (text : List Char) : List (List Char) :=
  text :: ((fenced? text).toList ++ (braced? text).toList)

/-- The first reading that decodes; an exception of another kind is not caught. -/
def firstDecoded (loads : String → Except LoadsError Json) :
    List (List Char) → Except String (Option Json)
  | [] => .ok none
  | reading :: rest =>
    match loads (String.ofList reading) with
    | .ok value => .ok (some value)
    | .error .decode => firstDecoded loads rest
    | .error (.other text) => .error text

/-- `_extract_json`. -/
def extractJson (loads : String → Except LoadsError Json) (text : String) : Except String Json :=
  let stripped := ApiCaller.strip text.toList
  match firstDecoded loads (readings stripped) with
  | .error text => .error text
  | .ok (some value) => .ok value
  | .ok none =>
    .error s!"Could not extract valid JSON from LLM response: {String.ofList (stripped.take 200)}..."

end TaskDecomposer

/-! ## The validation of the answer -/

/-- A validated value, or everything that is wrong with it. -/
abbrev Validated (α : Type) := Except (List ValidationIssue) α

namespace Validated

variable {α β : Type}

/-- The issues are those of a part of the value. -/
def within (part : String ⊕ Nat) : Validated α → Validated α
  | .ok a => .ok a
  | .error issues => .error (issues.map (fun issue => { issue with loc := part :: issue.loc }))

/-- Both values, or the issues of both. -/
def both : Validated α → Validated β → Validated (α × β)
  | .ok a, .ok b => .ok (a, b)
  | .ok _, .error issues => .error issues
  | .error issues, .ok _ => .error issues
  | .error issues, .error others => .error (issues ++ others)

/-- A field of a model; without a default it has to be there. -/
def field (entries : List (String × Json)) (key : String) (default : Option α)
    (validate : Json → Validated α) : Validated α :=
  match entries.find? (fun entry => entry.1 = key), default with
  | some (_, value), _ => within (.inl key) (validate value)
  | none, some value => .ok value
  | none, none => within (.inl key) (.error [⟨[], .missing⟩])

/-- The items of a list from an index on. -/
def items (validate : Json → Validated α) : Nat → List Json → Validated (List α)
  | _, [] => .ok []
  | index, item :: rest =>
    (both (within (.inr index) (validate item)) (items validate (index + 1) rest)).map
      (fun pair => pair.1 :: pair.2)

/-- `list[T]`. -/
def list (validate : Json → Validated α) : Json → Validated (List α)
  | .list values => items validate 0 values
  | _ => .error [⟨[], .listType⟩]

/-- `str`. -/
def string : Json → Validated String
  | .str s => .ok s
  | _ => .error [⟨[], .stringType⟩]

end Validated

/-- `DecomposedTask`. -/
structure DecomposedTask where
  id : String
  capability : String
  description : String
  dependsOn : List String
  estimatedComplexity : String
  long : 10 ≤ description.length
  known : estimatedComplexity ∈ ["low", "medium", "high"]

/-- `DecompositionResult`. -/
structure DecompositionResult where
  domain : String
  tasks : List DecomposedTask
  ne_nil : tasks ≠ []

namespace DecomposedTask

/-- `Field(min_length=10)`. -/
def description? (value : Json) : Validated { text : String // 10 ≤ text.length } :=
  match Validated.string value with
  | .error issues => .error issues
  | .ok text => if h : 10 ≤ text.length then .ok ⟨text, h⟩ else .error [⟨[], .stringTooShort⟩]

/-- `validate_complexity`. -/
def validateComplexity (v : String) : { v : String // v ∈ ["low", "medium", "high"] } :=
  if h : v ∈ ["low", "medium", "high"] then ⟨v, h⟩ else ⟨"medium", by decide⟩

/-- The validation of a task. -/
def modelValidate : Json → Validated DecomposedTask
  | .dict entries =>
    (Validated.both (Validated.field entries "id" none Validated.string)
      (Validated.both (Validated.field entries "capability" none Validated.string)
        (Validated.both (Validated.field entries "description" none description?)
          (Validated.both
            (Validated.field entries "depends_on" (some []) (Validated.list Validated.string))
            (Validated.field entries "estimated_complexity" (some "medium")
              Validated.string))))).map
      (fun (id, capability, description, dependsOn, complexity) =>
        { id, capability, description := description.1, dependsOn
          estimatedComplexity := (validateComplexity complexity).1
          long := description.2, known := (validateComplexity complexity).2 })
  | _ => .error [⟨[], .modelType⟩]

/-- The node of a task. -/
def toNode (task : DecomposedTask) : DAGNode where
  nodeId := task.id
  capability := task.capability
  description := task.description
  dependsOn := task.dependsOn
  estimatedComplexity := task.estimatedComplexity

end DecomposedTask

namespace DecompositionResult

/-- `Field(min_length=1)`. -/
def tasks? (value : Json) : Validated { tasks : List DecomposedTask // tasks ≠ [] } :=
  match Validated.list DecomposedTask.modelValidate value with
  | .error issues => .error issues
  | .ok tasks => if h : tasks ≠ [] then .ok ⟨tasks, h⟩ else .error [⟨[], .tooShort⟩]

/-- `model_validate`. -/
def modelValidate : Json → Validated DecompositionResult
  | .dict entries =>
    (Validated.both (Validated.field entries "domain" (some "") Validated.string)
      (Validated.field entries "tasks" none tasks?)).map
      (fun (domain, tasks) => { domain, tasks := tasks.1, ne_nil := tasks.2 })
  | _ => .error [⟨[], .modelType⟩]

end DecompositionResult

/-! ## The capabilities -/

namespace TaskDecomposer

/-- `text.replace("_", "-").replace(" ", "-")` and `text.split("-")`. -/
def hyphenated (text : String) : List Char :=
  text.toList.map (fun c => if c = '_' ∨ c = ' ' then '-' else c)

def words (text : List Char) : List (List Char) := text.splitOn '-'

/-- The number of different words that two capabilities share. -/
def overlap (target capability : List Char) : Nat :=
  ((words target).dedup.filter (· ∈ words capability)).length

/-- The first capability with the most words in common, if there are any. -/
def bestOverlap (target : List Char) : List String → Option String × Nat → Option String × Nat
  | [], best => best
  | capability :: rest, best =>
    if overlap target capability.toList > best.2 then
      bestOverlap target rest (some capability, overlap target capability.toList)
    else bestOverlap target rest best

/-- `_fuzzy_match_capability`. -/
def fuzzyMatchCapability (lower : String → String) (target : String) (available : List String) :
    Option String :=
  let targetLower := hyphenated (lower target)
  if String.ofList targetLower ∈ available then some (String.ofList targetLower)
  else
    match available.find? (fun capability =>
      targetLower <:+: capability.toList ∨ capability.toList <:+: targetLower) with
    | some capability => some capability
    | none => (bestOverlap targetLower available (none, 0)).1

/-- The capability of a task, put right if it can be; an empty match counts as
none. -/
def matchTask (lower : String → String) (available : List String) (task : DecomposedTask) :
    Except String DecomposedTask :=
  if task.capability ∈ available then .ok task
  else
    match (fuzzyMatchCapability lower task.capability available).filter (· ≠ "") with
    | some matched => .ok { task with capability := matched }
    | none => .error s!"Task '{task.id}' uses unknown capability '{task.capability}'"

/-! ## The attempts -/

/-- `DECOMPOSITION_USER_PROMPT`. -/
def userPrompt (prompt : String) : String := "Decompose this request into subtasks:\n\n" ++ prompt

/-- `DECOMPOSITION_RETRY_PROMPT`. -/
def retryPrompt (prompt : String) (available : List String) (error : String) : String :=
  "Your previous decomposition was invalid. Error: " ++ error ++
    "\n\nPlease fix the output and return valid JSON. Remember:\n" ++
    "- Each task needs: id, capability, description, depends_on, estimated_complexity\n" ++
    "- Capabilities must be from: " ++ String.intercalate ", " available ++
    "\n- depends_on must reference valid task IDs\n- No cycles allowed\n\nOriginal request: " ++
    prompt

variable (env : DecomposerEnv)

/-- One attempt, with the text of the exception. -/
def attempt (available : List String) (domainHint : Option String) (number : Nat)
    (message : String) : Except String (DAG × String) :=
  match env.generate number message with
  | .error text => .error text
  | .ok content =>
    match extractJson env.loads content with
    | .error text => .error text
    | .ok parsed =>
      match DecompositionResult.modelValidate parsed with
      | .error issues => .error (env.describe issues)
      | .ok result =>
        match result.tasks.mapM (matchTask env.lower available) with
        | .error text => .error text
        | .ok tasks =>
          match DAG.new (tasks.map DecomposedTask.toNode) with
          | .error error => .error error.message
          | .ok dag =>
            .ok (dag,
              if result.domain ≠ "" then result.domain
              else if domainHint.getD "" ≠ "" then domainHint.getD "" else "general")

/-- `MAX_DECOMPOSITION_RETRIES`. -/
def maxDecompositionRetries : Nat := 2

/-- `decompose`, with the prompts that are sent.  The system prompt is the same
for all of them and is left out. -/
def decompose (prompt : String) (available : List String) (domainHint : Option String) :
    List String × Except String (DAG × String) :=
  let exchange := Retry.ask (attempt env available domainHint)
    (retryPrompt prompt (available.insertionSort (· ≤ ·))) maxDecompositionRetries 0
    (userPrompt prompt)
  (exchange.1, exchange.2.mapError (fun error =>
    s!"Task decomposition failed after {1 + maxDecompositionRetries} attempts: {error}"))

/-! ## What is accepted -/

section Reading

theorem cut?_eq_some {pattern text before after : List Char}
    (h : cut? pattern text = some (before, after)) : text = before ++ pattern ++ after := by
  induction text generalizing before with
  | nil => cases h
  | cons c rest ih =>
    unfold cut? at h
    split at h
    · rename_i hprefix
      cases h
      obtain ⟨after, hafter⟩ := List.isPrefixOf_iff_prefix.1 hprefix
      rw [← hafter, List.drop_left]
      rfl
    · obtain ⟨⟨found, after'⟩, hcut, heq⟩ := Option.map_eq_some_iff.1 h
      cases heq
      rw [ih hcut]
      rfl

theorem strip_isInfix (text : List Char) : ApiCaller.strip text <:+: text := by
  unfold ApiCaller.strip
  have hfront : (text.dropWhile ApiCaller.isSpace) <:+: text := (List.dropWhile_suffix _).isInfix
  refine List.IsInfix.trans ?_ hfront
  rw [← List.reverse_infix, List.reverse_reverse]
  exact (List.dropWhile_suffix _).isInfix

theorem fenced?_infix {text part : List Char} (h : fenced? text = some part) : part <:+: text := by
  unfold fenced? at h
  split at h
  · cases h
  · rename_i before rest hcut
    obtain ⟨⟨body, after⟩, hbody, rfl⟩ := Option.map_eq_some_iff.1 h
    have hrest : rest <:+: text := by
      rw [cut?_eq_some hcut]
      exact (List.suffix_append _ _).isInfix
    have hdropped : (if "json".toList.isPrefixOf rest then rest.drop 4 else rest) <:+: rest := by
      split
      · exact (List.drop_suffix 4 rest).isInfix
      · exact List.infix_rfl
    have hpart : body <:+: if "json".toList.isPrefixOf rest then rest.drop 4 else rest := by
      rw [cut?_eq_some hbody, List.append_assoc]
      exact (List.prefix_append _ _).isInfix
    exact ((strip_isInfix body).trans hpart).trans (hdropped.trans hrest)

theorem braced?_infix {text part : List Char} (h : braced? text = some part) : part <:+: text := by
  unfold braced? at h
  dsimp only at h
  split at h
  · cases h
  · cases h
    refine List.IsInfix.trans ?_ (List.dropWhile_suffix (· != '\x7b')).isInfix
    rw [← List.reverse_infix, List.reverse_reverse]
    exact (List.dropWhile_suffix _).isInfix

theorem firstDecoded_eq_some {loads : String → Except LoadsError Json} {value : Json}
    {parts : List (List Char)} (h : firstDecoded loads parts = .ok (some value)) :
    ∃ part ∈ parts, loads (String.ofList part) = .ok value := by
  induction parts with
  | nil => cases h
  | cons part rest ih =>
    unfold firstDecoded at h
    split at h
    · rename_i decoded hloads
      cases h
      exact ⟨part, List.mem_cons_self, hloads⟩
    · obtain ⟨found, hfound, hloads⟩ := ih h
      exact ⟨found, List.mem_cons_of_mem part hfound, hloads⟩
    · cases h

/-- What is decoded stands in the answer. -/
theorem extractJson_part {loads : String → Except LoadsError Json} {text : String} {value : Json}
    (h : extractJson loads text = .ok value) :
    ∃ part, part <:+: text.toList ∧ loads (String.ofList part) = .ok value := by
  unfold extractJson at h
  dsimp only at h
  split at h
  · cases h
  · rename_i decoded hdecoded
    cases h
    obtain ⟨part, hpart, hloads⟩ := firstDecoded_eq_some hdecoded
    refine ⟨part, List.IsInfix.trans ?_ (strip_isInfix text.toList), hloads⟩
    rcases List.mem_cons.1 hpart with rfl | hpart
    · exact List.infix_rfl
    · rcases List.mem_append.1 hpart with hfenced | hbraced
      · exact fenced?_infix (Option.mem_toList.1 hfenced)
      · exact braced?_infix (Option.mem_toList.1 hbraced)
  · cases h

example : fenced? "Here it is:\n```json\n[1]\n```\nDone.".toList = some "[1]".toList := by decide

end Reading

section Matching

variable {lower : String → String} {available : List String}

theorem bestOverlap_mem {target : List Char} {capabilities : List String}
    {best : Option String × Nat} {matched : String}
    (h : (bestOverlap target capabilities best).1 = some matched) :
    matched ∈ capabilities ∨ best.1 = some matched := by
  induction capabilities generalizing best with
  | nil => exact Or.inr h
  | cons capability rest ih =>
    unfold bestOverlap at h
    split at h
    · rcases ih h with hmem | hbest
      · exact Or.inl (List.mem_cons_of_mem capability hmem)
      · cases hbest
        exact Or.inl List.mem_cons_self
    · rcases ih h with hmem | hbest
      · exact Or.inl (List.mem_cons_of_mem capability hmem)
      · exact Or.inr hbest

/-- A match is one of the capabilities. -/
theorem fuzzyMatchCapability_mem {target matched : String}
    (h : fuzzyMatchCapability lower target available = some matched) : matched ∈ available := by
  unfold fuzzyMatchCapability at h
  dsimp only at h
  split at h
  · rename_i hexact
    cases h
    exact hexact
  · split at h
    · rename_i capability hfound
      cases h
      exact List.mem_of_find?_eq_some hfound
    · rcases bestOverlap_mem h with hmem | hnone
      · exact hmem
      · cases hnone

theorem matchTask_mem {task matched : DecomposedTask}
    (h : matchTask lower available task = .ok matched) : matched.capability ∈ available := by
  unfold matchTask at h
  split at h
  · rename_i hmem
    cases h
    exact hmem
  · split at h
    · rename_i capability hmatched
      cases h
      exact fuzzyMatchCapability_mem (Option.filter_eq_some_iff.1 hmatched).1
    · cases h

theorem mapM_matchTask_mem {tasks matched : List DecomposedTask}
    (h : tasks.mapM (matchTask lower available) = .ok matched) :
    ∀ task ∈ matched, task.capability ∈ available := by
  induction tasks generalizing matched with
  | nil =>
    cases h
    exact fun _ hmem => absurd hmem List.not_mem_nil
  | cons task rest ih =>
    rw [List.mapM_cons] at h
    obtain ⟨first, hfirst, hrest⟩ := Outcome.bind_eq_ok h
    obtain ⟨others, hothers, hall⟩ := Outcome.bind_eq_ok hrest
    cases hall
    intro other hother
    rcases List.mem_cons.1 hother with rfl | hmem
    · exact matchTask_mem hfirst
    · exact ih hothers other hmem

end Matching

/-! ## The plan -/

/-- A DAG that the constructor accepts, of tasks whose capabilities are
available. -/
structure Plan (available : List String) (tasks : List DecomposedTask) (dag : DAG) : Prop where
  ne_nil : tasks ≠ []
  accepted : DAG.new (tasks.map DecomposedTask.toNode) = .ok dag
  capability : ∀ task ∈ tasks, task.capability ∈ available

namespace Plan

variable {available : List String} {tasks : List DecomposedTask} {dag : DAG}

/-- Every node is a task as it was validated. -/
theorem node (h : Plan available tasks dag) {node : DAGNode} (hnode : node ∈ dag.nodes) :
    ∃ task ∈ tasks, node = task.toNode := by
  rw [(DAG.new_eq_ok h.accepted).1] at hnode
  obtain ⟨task, htask, heq⟩ := List.mem_map.1 (DAG.mem_of_mem_nodeDict hnode)
  exact ⟨task, htask, heq.symm⟩

theorem nodes_ne_nil (h : Plan available tasks dag) : dag.nodes ≠ [] := by
  intro hnil
  refine DAG.ids_ne_nil_of_new h.accepted ?_
  rw [DAG.ids, hnil]
  rfl

end Plan

section Attempts

variable {env : DecomposerEnv} {available : List String} {domainHint : Option String}

/-- What an accepted answer contains. -/
structure Reads (env : DecomposerEnv) (available : List String) (content : String)
    (tasks : List DecomposedTask) : Prop where
  read : ∃ part parsed result, part <:+: content.toList ∧
    env.loads (String.ofList part) = .ok parsed ∧
    DecompositionResult.modelValidate parsed = .ok result ∧
    result.tasks.mapM (matchTask env.lower available) = .ok tasks

theorem mapM_ne_nil {lower : String → String} {tasks matched : List DecomposedTask}
    (hne : tasks ≠ []) (h : tasks.mapM (matchTask lower available) = .ok matched) :
    matched ≠ [] := by
  cases tasks with
  | nil => exact absurd rfl hne
  | cons task rest =>
    rw [List.mapM_cons] at h
    obtain ⟨first, -, hrest⟩ := Outcome.bind_eq_ok h
    obtain ⟨others, -, hall⟩ := Outcome.bind_eq_ok hrest
    cases hall
    exact List.cons_ne_nil _ _

theorem attempt_eq_ok {number : Nat} {message domain : String} {dag : DAG}
    (h : attempt env available domainHint number message = .ok (dag, domain)) :
    ∃ content tasks, env.generate number message = .ok content ∧
      Reads env available content tasks ∧ Plan available tasks dag ∧ domain ≠ "" := by
  unfold attempt at h
  cases hgenerate : env.generate number message with
  | error text =>
    rw [hgenerate] at h
    cases h
  | ok content =>
    rw [hgenerate] at h
    dsimp only at h
    cases hextract : extractJson env.loads content with
    | error text =>
      rw [hextract] at h
      cases h
    | ok parsed =>
      rw [hextract] at h
      dsimp only at h
      cases hvalidate : DecompositionResult.modelValidate parsed with
      | error issues =>
        rw [hvalidate] at h
        cases h
      | ok result =>
        rw [hvalidate] at h
        dsimp only at h
        cases hmatched : result.tasks.mapM (matchTask env.lower available) with
        | error text =>
          rw [hmatched] at h
          cases h
        | ok tasks =>
          rw [hmatched] at h
          dsimp only at h
          cases hnew : DAG.new (tasks.map DecomposedTask.toNode) with
          | error error =>
            rw [hnew] at h
            cases h
          | ok accepted =>
            rw [hnew] at h
            obtain ⟨rfl, hdomain⟩ := Prod.mk.inj (Except.ok.inj h)
            obtain ⟨part, hpart, hloads⟩ := extractJson_part hextract
            refine ⟨content, tasks, rfl, ⟨part, parsed, result, hpart, hloads, hvalidate, hmatched⟩,
              ⟨mapM_ne_nil result.ne_nil hmatched, hnew, mapM_matchTask_mem hmatched⟩, ?_⟩
            rw [← hdomain]
            split_ifs with hown hhint
            · exact hown
            · exact hhint
            · decide

end Attempts

/-- What is returned is the answer to the last prompt. -/
theorem decompose_eq_ok {prompt domain : String} {available : List String}
    {domainHint : Option String} {env : DecomposerEnv} {dag : DAG}
    (h : (decompose env prompt available domainHint).2 = .ok (dag, domain)) :
    ∃ last content tasks, (decompose env prompt available domainHint).1.getLast? = some last ∧
      env.generate ((decompose env prompt available domainHint).1.length - 1) last = .ok content ∧
      Reads env available content tasks ∧ Plan available tasks dag ∧ domain ≠ "" := by
  obtain ⟨hexchange, -, -⟩ := @Retry.ask_spec _ _ _ (attempt env available domainHint)
    (retryPrompt prompt (available.insertionSort (· ≤ ·))) maxDecompositionRetries 0
    (userPrompt prompt)
  obtain ⟨last, hlast, hanswer⟩ := hexchange.answer_last
  rw [Outcome.mapError_eq_ok.1 h, Nat.zero_add] at hanswer
  obtain ⟨content, tasks, hgenerate, hreads, hplan, hdomain⟩ := attempt_eq_ok hanswer
  exact ⟨last, content, tasks, hlast, hgenerate, hreads, hplan, hdomain⟩

/-- Whatever the model answers, at most three prompts are sent: the request, and
then each time the error of the attempt before.  What is returned is a plan that
stands in the last answer: a DAG that the constructor accepts, whose nodes have
an available capability, a description of ten characters and a known complexity.
What is raised is the error of the third attempt. -/
theorem decompose_spec (env : DecomposerEnv) (prompt : String) (available : List String)
    (domainHint : Option String) :
    ∃ sent outcome, decompose env prompt available domainHint = (sent, outcome) ∧
      sent.length ≤ 3 ∧ sent.head? = some (userPrompt prompt) ∧
      (∀ index later, sent[index + 1]? = some later → ∃ earlier error,
        sent[index]? = some earlier ∧
        attempt env available domainHint index earlier = .error error ∧
        later = retryPrompt prompt (available.insertionSort (· ≤ ·)) error) ∧
      (∀ dag domain, outcome = .ok (dag, domain) → ∃ last content tasks,
        sent.getLast? = some last ∧ env.generate (sent.length - 1) last = .ok content ∧
        Reads env available content tasks ∧ Plan available tasks dag ∧ domain ≠ "" ∧
        ∀ node ∈ dag.nodes, node.capability ∈ available ∧ 10 ≤ node.description.length ∧
          node.estimatedComplexity ∈ ["low", "medium", "high"] ∧ node.status = .pending) ∧
      (∀ error, outcome = .error error → sent.length = 3 ∧ ∃ last text,
        sent.getLast? = some last ∧
        attempt env available domainHint 2 last = .error text ∧
        error = "Task decomposition failed after 3 attempts: " ++ text) := by
  obtain ⟨hexchange, hbound, hall⟩ := @Retry.ask_spec _ _ _ (attempt env available domainHint)
    (retryPrompt prompt (available.insertionSort (· ≤ ·))) maxDecompositionRetries 0
    (userPrompt prompt)
  refine ⟨_, _, rfl, hbound, hexchange.head?, fun index later hlater => ?_,
    fun dag domain hok => ?_, fun error herror => ?_⟩
  · obtain ⟨earlier, error, hearlier, hanswer, heq⟩ := hexchange.next_of_error hlater
    rw [Nat.zero_add] at hanswer
    exact ⟨earlier, error, hearlier, hanswer, heq⟩
  · obtain ⟨last, content, tasks, hlast, hgenerate, hreads, hplan, hdomain⟩ := decompose_eq_ok hok
    refine ⟨last, content, tasks, hlast, hgenerate, hreads, hplan, hdomain, fun node hnode => ?_⟩
    obtain ⟨task, htask, rfl⟩ := hplan.node hnode
    exact ⟨hplan.capability task htask, task.long, task.known, rfl⟩
  · obtain ⟨text, htext, heq⟩ := Outcome.mapError_eq_error herror
    obtain ⟨last, hlast, hanswer⟩ := hexchange.answer_last
    have hlength := hall text htext
    rw [hlength, htext] at hanswer
    exact ⟨hlength, last, text, hlast, hanswer, heq⟩

/-- A model that first answers with an empty list, and then with one task for a
capability that is written differently. -/
def secondThought : DecomposerEnv where
  loads text :=
    if text = "[]" then .ok (.list [])
    else if text = "[1]" then
      .ok (.dict [("tasks", .list [.dict [("id", .str "t1"), ("capability", .str "web_search"),
        ("description", .str "Find the sources")]])])
    else .error .decode
  lower := id
  generate number _ := .ok (if number = 0 then "[]" else "```json\n[1]\n```")
  describe _ := "Input should be a valid dictionary"

example :
    (decompose secondThought "p" ["web-search"] none).1 =
        [userPrompt "p", retryPrompt "p" ["web-search"] "Input should be a valid dictionary"] ∧
      ((decompose secondThought "p" ["web-search"] none).2.toOption.map
        (fun result => (result.1.nodes.map DAGNode.capability, result.2))) =
          some (["web-search"], "general") := by
  decide +kernel

end TaskDecomposer

end MassClaw
