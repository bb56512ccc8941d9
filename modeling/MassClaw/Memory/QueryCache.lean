import MassClaw.Crdt.Sync
import MassClaw.Lib.Transition
import MassClaw.Memory.Lifecycle

/-!
# Searches and their cache, `MemoryService.query_memory`

A search selects rows by the filters of the request, ranks them by similarity,
confidence and age, and keeps the best.  Its results go into Redis for
`CACHE_TTL_SECONDS`, under a digest of the request.  The digest is taken of six
fields; the lifecycle states and the author, by which the search filters too,
are not among them.

The embeddings, the distance of pgvector and `exp` are parameters.  A statement
on an unchanged table always returns the same rows in the same order.
-/

namespace MassClaw

/-- `MemoryQueryRequest`. -/
structure MemoryQueryRequest where
  query : String
  workflowId : Option UUID := none
  memoryTypes : Option (List MemoryType) := none
  minSimilarity : ℚ := 1 / 2
  minConfidence : ℚ := 0
  topK : Nat := 10
  includeStates : List RecordState := [.active]
  authorDid : Option String := none
  queryLength : 1 ≤ query.length ∧ query.length ≤ 10000
  similarityRange : 0 ≤ minSimilarity ∧ minSimilarity ≤ 1
  confidenceRange : 0 ≤ minConfidence ∧ minConfidence ≤ 1
  topKRange : 1 ≤ topK ∧ topK ≤ 100
  authorLength : ∀ did, authorDid = some did → did.length ≤ 512

/-- `MemoryResponse`, which must have a workflow. -/
structure MemoryResponse where
  record : MemoryRecord
  workflowId : UUID
  named : record.workflowId = some workflowId

/-- `MemoryResponse.model_validate`; `none` is the `ValidationError`. -/
def MemoryResponse.validate? (record : MemoryRecord) : Option MemoryResponse :=
  match h : record.workflowId with
  | none => none
  | some workflowId => some { record, workflowId, named := h }

/-- `MemorySearchResult`. -/
structure MemorySearchResult where
  memory : MemoryResponse
  similarity : ℚ
  relevanceScore : PyFloat

/-- What a search takes from outside: the column and the service of embeddings,
`<=>`, `math.exp`, `round(_, 4)` and the decay of the settings. -/
structure SearchEngine where
  Vector : Type
  embedding? : MemoryRecord → Option Vector
  embed : String → Vector
  cosineDistance : Vector → Vector → ℚ
  exp : ℚ → ℚ
  round4 : ℚ → ℚ
  decayLambda : ℚ

/-- A float times a rational. -/
def PyFloat.scale (factor : ℚ) : PyFloat → PyFloat
  | .finite value => .finite (factor * value)
  | .nan => .nan
  | .infinite negative =>
    if factor = 0 then .nan else .infinite (if factor < 0 then !negative else negative)

namespace MemoryService

/-! ## The search -/

section Search

variable (engine : SearchEngine) (db : Db) (query : MemoryQueryRequest) (now : Time)

/-- The conditions of the statement. -/
def selects (row : MemoryRecord) : Bool :=
  query.workflowId.all (fun workflowId => row.workflowId = some workflowId) &&
    ((query.memoryTypes.getD []).isEmpty || row.memoryType ∈ query.memoryTypes.getD []) &&
    (query.minConfidence ≤ 0 || !row.confidence.sqlLt (.finite query.minConfidence)) &&
    (query.includeStates.isEmpty || row.recordState ∈ query.includeStates) &&
    (query.authorDid.filter (· ≠ "")).all (fun did => row.authorDid = some did) &&
    row.expiresAt.all (fun expiresAt => now < expiresAt)

/-- A row with its similarity to the query. -/
def withSimilarity (row : MemoryRecord) : Option (MemoryRecord × ℚ) :=
  (engine.embedding? row).map (fun embedding =>
    (row, 1 - engine.cosineDistance embedding (engine.embed query.query)))

/-- The rows of the statement, the nearest first. -/
def nearest : List (MemoryRecord × ℚ) :=
  (((db.memoryRecords.rows.filter (selects query now)).filterMap (withSimilarity engine query)
    ).mergeSort (fun a b => decide (b.2 ≤ a.2))).take (query.topK * 2)

/-- One iteration of the loop over the rows. -/
def toResult (found : MemoryRecord × ℚ) : Option MemorySearchResult :=
  let hoursSince : ℚ := ((now - found.1.createdAt : Int) : ℚ) / (hour : ℚ)
  let freshnessFactor := engine.exp (-engine.decayLambda * hoursSince)
  let relevance := found.1.confidence.scale (found.2 * freshnessFactor)
  (MemoryResponse.validate? found.1).map (fun memory =>
    { memory
      similarity := engine.round4 found.2
      relevanceScore := match relevance with
        | .finite value => .finite (engine.round4 value)
        | other => other })

/-- `query_memory` behind the cache; `none` is the `ValidationError` of a row. -/
def search : Option (List MemorySearchResult) :=
  (((nearest engine db query now).filter (fun found => query.minSimilarity ≤ found.2)).mapM
    (toResult engine now)).map (fun results =>
      (results.mergeSort (fun a b => b.relevanceScore.le a.relevanceScore)).take query.topK)

end Search

/-! ## The cache key -/

/-- `json.dumps` on a character of a text. -/
def dumpsChar (c : Char) : List Char :=
  if c.toNat ≤ 0x7e then Canonical.escapeChar c
  else if c.toNat < 0x10000 then ['\\', 'u'] ++ UUID.hexDigits 4 c.toNat
  else
    ['\\', 'u'] ++ UUID.hexDigits 4 (0xd800 + (c.toNat - 0x10000) / 0x400) ++
      ['\\', 'u'] ++ UUID.hexDigits 4 (0xdc00 + (c.toNat - 0x10000) % 0x400)

/-- `json.dumps` on a text. -/
def dumpsText (text : String) : String :=
  "\"" ++ String.ofList (text.toList.flatMap dumpsChar) ++ "\""

/-- `sorted([t.value for t in query.memory_types]) if query.memory_types else None`. -/
def dumpsTypes (memoryTypes : Option (List MemoryType)) : String :=
  if (memoryTypes.getD []).isEmpty then "null"
  else
    "[" ++ ", ".intercalate ((((memoryTypes.getD []).map MemoryType.value).insertionSort (· ≤ ·)).map
      dumpsText) ++ "]"

/-- `json.dumps(key_data, sort_keys=True)`. -/
def keyText (host : Host) (query : MemoryQueryRequest) : String :=
  "\x7b\"conf\": " ++ host.repr (.float (.finite query.minConfidence)) ++
    ", \"k\": " ++ toString query.topK ++
    ", \"q\": " ++ dumpsText query.query ++
    ", \"sim\": " ++ host.repr (.float (.finite query.minSimilarity)) ++
    ", \"types\": " ++ dumpsTypes query.memoryTypes ++
    ", \"wf\": " ++ (query.workflowId.map (fun workflowId => dumpsText workflowId.str)).getD "null" ++
    "\x7d"

/-- `_build_cache_key`. -/
def buildCacheKey (host : Host) (query : MemoryQueryRequest) : String :=
  "memory_cache:" ++
    String.ofList ((hexdigest (host.sha256 (keyText host query).toUTF8.toList)).toList.take 16)

/-! ## Calls -/

/-- `CACHE_TTL_SECONDS`. -/
def cacheTtl : Time := 60 * 1000000

/-- What Redis holds under a key.  The request that was answered is not part of
it. -/
structure CacheEntry where
  results : List MemorySearchResult
  storedAt : Time
  query : MemoryQueryRequest

/-- A call of `query_memory`: the clock, and whether Redis fails it.  An entry
that Redis has dropped is a read that fails. -/
structure QueryCall where
  query : MemoryQueryRequest
  now : Time
  readFails : Bool := false
  writeFails : Bool := false

/-- A call with what it has returned; `none` is an exception. -/
structure QueryAnswer where
  call : QueryCall
  results : Option (List MemorySearchResult)

/-- The cache, and the answers of the calls so far. -/
structure QuerySession where
  entries : String → Option CacheEntry := fun _ => none
  answers : List QueryAnswer := []

section Calls

variable (engine : SearchEngine) (host : Host) (db : Db)

/-- `_get_cached`. -/
def QuerySession.getCached (session : QuerySession) (call : QueryCall) : Option CacheEntry :=
  if call.readFails then none
  else (session.entries (buildCacheKey host call.query)).filter
    (fun entry => call.now < entry.storedAt + cacheTtl)

/-- `query_memory`. -/
def QuerySession.queryMemory (session : QuerySession) (call : QueryCall) : QuerySession :=
  match session.getCached host call with
  | some entry =>
    { session with answers := session.answers ++ [{ call, results := some entry.results }] }
  | none =>
    let answers := session.answers ++ [{ call, results := search engine db call.query call.now }]
    match search engine db call.query call.now with
    | none => { session with answers }
    | some results =>
      if call.writeFails then { session with answers }
      else
        { entries := Function.update session.entries (buildCacheKey host call.query)
            (some { results, storedAt := call.now, query := call.query })
          answers }

/-- The session after some calls on one database, from an empty cache. -/
abbrev afterCalls (calls : List QueryCall) : QuerySession :=
  Transition.after (QuerySession.queryMemory engine host db) {} calls

/-- Each call of a run with the session that it meets. -/
abbrev callSteps (calls : List QueryCall) : List (QuerySession × QueryCall) :=
  Transition.steps (QuerySession.queryMemory engine host db) {} calls

/-- An answer is what its request would get from an empty cache: at a reading of
the clock in the run that is younger than the TTL, and, if the clock stands
still, at its own. -/
structure AnsweredAlone (calls : List QueryCall) (answer : QueryAnswer) : Prop where
  withinTtl : ∃ call ∈ calls, answer.call.now < call.now + cacheTtl ∧
    answer.results = search engine db answer.call.query call.now
  standing : (∀ call ∈ calls, call.now = answer.call.now) →
    answer.results = search engine db answer.call.query answer.call.now

end Calls

/-- Two requests ask for the same rows. -/
structure SameQuestion (a b : MemoryQueryRequest) : Prop where
  query : a.query = b.query
  workflowId : a.workflowId = b.workflowId
  memoryTypes : ∀ memoryType, memoryType ∈ a.memoryTypes.getD [] ↔
    memoryType ∈ b.memoryTypes.getD []
  minSimilarity : a.minSimilarity = b.minSimilarity
  minConfidence : a.minConfidence = b.minConfidence
  topK : a.topK = b.topK
  includeStates : ∀ state, state ∈ a.includeStates ↔ state ∈ b.includeStates
  authorDid : a.authorDid.filter (· ≠ "") = b.authorDid.filter (· ≠ "")

/-- A call that finds an entry asks what the entry was stored for. -/
def AsksTheSame (host : Host) (session : QuerySession) (call : QueryCall) : Prop :=
  ∀ entry, session.getCached host call = some entry → SameQuestion entry.query call.query

/-! ## The search of a question -/

variable {engine : SearchEngine} {host : Host} {db : Db}

/-- A filter by a list, which an empty list does not make, depends on the members. -/
theorem listFilter_congr {α : Type} [DecidableEq α] {l l' : List α}
    (h : ∀ a, a ∈ l ↔ a ∈ l') (a : α) :
    (l.isEmpty || decide (a ∈ l)) = (l'.isEmpty || decide (a ∈ l')) := by
  have hempty : l.isEmpty = l'.isEmpty := by
    rw [Bool.eq_iff_iff, List.isEmpty_iff, List.isEmpty_iff, List.eq_nil_iff_forall_not_mem,
      List.eq_nil_iff_forall_not_mem]
    exact forall_congr' (fun b => not_congr (h b))
  have hmem : decide (a ∈ l) = decide (a ∈ l') := decide_eq_decide.2 (h a)
  rw [hempty, hmem]

theorem search_congr {a b : MemoryQueryRequest} (h : SameQuestion a b) (now : Time) :
    search engine db a now = search engine db b now := by
  have hselects : selects a now = selects b now := by
    funext row
    unfold selects
    rw [h.workflowId, h.minConfidence, h.authorDid, listFilter_congr h.memoryTypes,
      listFilter_congr h.includeStates]
  have hwith : withSimilarity engine a = withSimilarity engine b := by
    funext row
    unfold withSimilarity
    rw [h.query]
  unfold search nearest
  rw [hselects, hwith, h.topK, h.minSimilarity]

/-! ## Runs -/

/-- Every entry holds the results of its request, and every answer so far is
right. -/
structure SessionSound (engine : SearchEngine) (db : Db) (calls : List QueryCall)
    (session : QuerySession) : Prop where
  entries : ∀ key entry, session.entries key = some entry →
    search engine db entry.query entry.storedAt = some entry.results ∧
      ∃ call ∈ calls, call.now = entry.storedAt
  answers : ∀ answer ∈ session.answers, AnsweredAlone engine db calls answer

theorem AnsweredAlone.of_time {calls : List QueryCall} {answer : QueryAnswer} {call : QueryCall}
    (hcall : call ∈ calls) (httl : answer.call.now < call.now + cacheTtl)
    (hresults : answer.results = search engine db answer.call.query call.now) :
    AnsweredAlone engine db calls answer := by
  refine ⟨⟨call, hcall, httl, hresults⟩, fun hstanding => ?_⟩
  rw [← hstanding call hcall]
  exact hresults

/-- A call that asks the same keeps the session sound. -/
theorem sessionSound_queryMemory {calls : List QueryCall} {session : QuerySession}
    {call : QueryCall} (hcall : call ∈ calls) (hsame : AsksTheSame host session call)
    (h : SessionSound engine db calls session) :
    SessionSound engine db calls (session.queryMemory engine host db call) := by
  have happend : ∀ answer, AnsweredAlone engine db calls answer →
      ∀ other ∈ session.answers ++ [answer], AnsweredAlone engine db calls other := by
    intro answer hanswer other hother
    rcases List.mem_append.1 hother with hold | hnew
    · exact h.answers other hold
    · rw [List.mem_singleton.1 hnew]
      exact hanswer
  unfold QuerySession.queryMemory
  split
  · rename_i entry hfound
    refine ⟨h.entries, happend _ ?_⟩
    have hquestion := hsame entry hfound
    unfold QuerySession.getCached at hfound
    split at hfound
    · cases hfound
    · obtain ⟨hentry, hyoung⟩ := Option.filter_eq_some_iff.1 hfound
      obtain ⟨hresults, stored, hstored, hnow⟩ := h.entries _ entry hentry
      refine .of_time hstored ?_ ?_
      · rw [hnow]
        simpa using hyoung
      · show some entry.results = search engine db call.query stored.now
        rw [hnow, ← search_congr hquestion, hresults]
  · have hown : AnsweredAlone engine db calls
        { call, results := search engine db call.query call.now } := by
      refine .of_time hcall ?_ rfl
      show call.now < call.now + cacheTtl
      unfold cacheTtl
      lia
    dsimp only
    split
    · exact ⟨h.entries, happend _ hown⟩
    · rename_i results hresults
      split
      · exact ⟨h.entries, happend _ hown⟩
      · refine ⟨fun key entry hentry => ?_, happend _ hown⟩
        dsimp only at hentry
        by_cases hkey : key = buildCacheKey host call.query
        · rw [hkey, Function.update_self] at hentry
          cases hentry
          exact ⟨hresults, call, hcall, rfl⟩
        · rw [Function.update_of_ne hkey] at hentry
          exact h.entries key entry hentry

/-- As long as each call that finds an entry asks what the entry was stored for,
every answer is what its request would get from an empty cache. -/
theorem answeredAlone_of_asksTheSame (engine : SearchEngine) (host : Host) (db : Db)
    (calls : List QueryCall)
    (hsame : ∀ step ∈ callSteps engine host db calls, AsksTheSame host step.1 step.2) :
    ∀ answer ∈ (afterCalls engine host db calls).answers,
      AnsweredAlone engine db calls answer := by
  have hsteps : ∀ step ∈ callSteps engine host db calls,
      step.2 ∈ calls ∧ AsksTheSame host step.1 step.2 :=
    fun step hstep => ⟨Transition.input_mem_of_steps hstep, hsame step hstep⟩
  have hstart : SessionSound engine db calls {} := by
    refine ⟨fun _ _ hentry => ?_, fun _ hanswer => ?_⟩
    · cases hentry
    · cases hanswer
  have hsound : SessionSound engine db calls (afterCalls engine host db calls) :=
    Transition.after_invariant (P := fun step => step.2 ∈ calls ∧ AsksTheSame host step.1 step.2)
      (fun _ _ hstep h => sessionSound_queryMemory hstep.1 hstep.2 h) hsteps hstart
  exact hsound.answers

/-! ## Requests with one key -/

/-- Every call is answered. -/
theorem calls_afterCalls (engine : SearchEngine) (host : Host) (db : Db)
    (calls : List QueryCall) :
    (afterCalls engine host db calls).answers.map QueryAnswer.call = calls := by
  have hstep : ∀ (session : QuerySession) call,
      (session.queryMemory engine host db call).answers.map QueryAnswer.call =
        session.answers.map QueryAnswer.call ++ [call] := by
    intro session call
    unfold QuerySession.queryMemory
    split
    · simp
    · dsimp only
      split
      · simp
      · split <;> simp
  have hrun : ∀ (rest : List QueryCall) (session : QuerySession),
      (Transition.after (QuerySession.queryMemory engine host db) session rest).answers.map
        QueryAnswer.call = session.answers.map QueryAnswer.call ++ rest := by
    intro rest
    induction rest with
    | nil =>
      intro session
      simp
    | cons call rest ih =>
      intro session
      rw [Transition.after_cons, ih, hstep, List.append_assoc]
      rfl
  exact hrun calls {}

/-- An entry after a call is that of the call, or was there before. -/
theorem entries_queryMemory {session : QuerySession} {call : QueryCall} {key : String}
    {entry : CacheEntry}
    (h : (session.queryMemory engine host db call).entries key = some entry) :
    entry.query = call.query ∨ session.entries key = some entry := by
  unfold QuerySession.queryMemory at h
  split at h
  · exact Or.inr h
  · dsimp only at h
    split at h
    · exact Or.inr h
    · split at h
      · exact Or.inr h
      · dsimp only at h
        by_cases hkey : key = buildCacheKey host call.query
        · rw [hkey, Function.update_self] at h
          cases h
          exact Or.inl rfl
        · rw [Function.update_of_ne hkey] at h
          exact Or.inr h

namespace QueryExample

/-- An engine that finds everything near. -/
def nearby : SearchEngine where
  Vector := Unit
  embedding? _ := some ()
  embed _ := ()
  cosineDistance _ _ := 0
  exp _ := 1
  round4 value := value
  decayLambda := 0

/-- A host with one digest. -/
def coarse : Host where
  sha256 _ := List.replicate 32 0
  sign _ _ := []
  verify _ _ _ := false
  repr _ := "0.5"
  parseFloat? _ := none
  parseInt? _ := none
  isoformat _ := ""
  fromIsoformat? _ := none

/-- A fact that a later one has superseded. -/
def superseded : MemoryRecord where
  workflowId := some (UUID.ofNat 1)
  sourceAgentId := none
  memoryType := .fact
  content := "claim"
  metadata := []
  confidence := .finite 1
  recordState := .superseded
  createdAt := 0

/-- A database with the fact. -/
def facts : Db where
  workflows := []
  agents := []
  tasks := []
  memoryRecords := Table.empty.push superseded (by decide)
  walletEvents := Table.empty

/-- A search for a claim in some states, the rest by default. -/
def searchIn (includeStates : List RecordState) : QueryCall where
  query :=
    { query := "claim"
      includeStates
      queryLength := by decide
      similarityRange := by norm_num
      confidenceRange := by norm_num
      topKRange := by norm_num
      authorLength := by simp }
  now := 0

end QueryExample

open QueryExample in
/-- The same search again. -/
theorem answeredAlone_of_repeated :
    ¬∃ answer ∈ (afterCalls nearby coarse facts
        [searchIn [.superseded], searchIn [.superseded]]).answers,
      ¬AnsweredAlone nearby facts [searchIn [.superseded], searchIn [.superseded]] answer := by
  rintro ⟨answer, hanswer, hother⟩
  refine hother (answeredAlone_of_asksTheSame nearby coarse facts _
    (fun step hstep entry hentry => ?_) answer hanswer)
  have hrefl : ∀ query, SameQuestion query query :=
    fun _ => ⟨rfl, rfl, fun _ => Iff.rfl, rfl, rfl, rfl, fun _ => Iff.rfl, rfl⟩
  have hfound : ∀ (session : QuerySession) call, session.getCached coarse call = some entry →
      ∃ key, session.entries key = some entry := by
    intro session call hcached
    unfold QuerySession.getCached at hcached
    split at hcached
    · cases hcached
    · exact ⟨_, (Option.filter_eq_some_iff.1 hcached).1⟩
  obtain ⟨key, hkey⟩ := hfound step.1 step.2 hentry
  rcases List.mem_cons.1 hstep with rfl | hstep
  · cases hkey
  · rw [List.mem_singleton.1 hstep] at hkey ⊢
    rcases entries_queryMemory hkey with hquery | hnone
    · rw [hquery]
      exact hrefl _
    · cases hnone

open QueryExample in
/-- A search in the active facts, which finds none, answers the search in the
superseded ones. -/
theorem answeredAlone_fails :
    ¬∀ (engine : SearchEngine) (host : Host) (db : Db) (calls : List QueryCall),
      ∀ answer ∈ (afterCalls engine host db calls).answers,
        AnsweredAlone engine db calls answer := by
  intro h
  let calls := [searchIn [.active], searchIn [.superseded]]
  have hresults : (afterCalls nearby coarse facts calls).answers.map (fun answer =>
      answer.results.map List.length) = [some 0, some 0] := by
    decide +kernel
  have hcalls : (afterCalls nearby coarse facts calls).answers.map QueryAnswer.call =
      [searchIn [.active], searchIn [.superseded]] :=
    calls_afterCalls _ _ _ calls
  have halone : (search nearby facts (searchIn [.superseded]).query 0).map List.length = some 1 := by
    decide +kernel
  have hright := h nearby coarse facts calls
  rcases hlist : (afterCalls nearby coarse facts calls).answers with _ | ⟨first, _ | ⟨second, rest⟩⟩
  · rw [hlist] at hcalls
    exact absurd (congrArg List.length hcalls) (by decide)
  · rw [hlist] at hcalls
    exact absurd (congrArg List.length hcalls) (Nat.succ_ne_succ_iff.2 (by decide))
  · rw [hlist] at hcalls hresults hright
    have hcall : second.call = searchIn [.superseded] := (List.cons.inj (List.cons.inj hcalls).2).1
    have hempty : second.results.map List.length = some 0 :=
      (List.cons.inj (List.cons.inj hresults).2).1
    have hanswer := (hright second (by simp)).standing (by
      intro call hmem
      rw [hcall]
      rcases List.mem_cons.1 hmem with rfl | hmem
      · rfl
      · rw [List.mem_singleton.1 hmem])
    rw [hanswer, hcall] at hempty
    rw [show (searchIn [.superseded]).now = 0 from rfl, halone] at hempty
    cases hempty

end MemoryService

end MassClaw
