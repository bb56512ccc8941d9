import Mathlib.Data.List.Infix
import Mathlib.Data.List.MinMax
import MassClaw.Memory.Lifecycle
import MassClaw.Scheduler.State

/-!
# The prompt of a node and the semantic cache

`_llm_call` builds the prompt of a node from its description and from the
context that shared memory gave, and before it asks the LLM it looks for a
cache row with a prompt close to this one.  Every answer of the LLM goes into
the cache under the embedding of its prompt.

The embedding, the distance of pgvector and `str.lower` are parameters.
-/

namespace MassClaw

/-- What the cache takes from outside. -/
structure CacheEngine where
  Vector : Type
  /-- `none` when the service is not loaded, or raises. -/
  embed? : String → Option Vector
  cosineDistance : Vector → Vector → ℚ
  lower : String → String
  /-- `settings.semantic_cache_similarity_threshold`. -/
  similarityThreshold : ℚ
  /-- `settings.semantic_cache_ttl_hours`. -/
  ttlHours : Int

/-- A row of `memory_records` with the type `cache`: the columns and the keys of
the metadata that a lookup reads. -/
structure CacheRow (Vector : Type) where
  content : String
  embedding : Option Vector
  recordState : RecordState := .active
  expiresAt : Option Time
  capability : Option String
  cacheVersion : Option String

/-- `text[:count]`. -/
def textPrefix (count : Nat) (text : String) : String := String.ofList (text.toList.take count)

namespace WorkflowScheduler

/-- `_CACHE_GUARD_VERSION`. -/
def cacheGuardVersion : Nat := 1

/-- `_CACHE_POISON_MARKERS`. -/
def cachePoisonMarkers : List String :=
  [ "not available", "unavailable", "does not have", "cannot execute", "unable to"
  , "could not be completed", "environment issues", "tool not found", "api key is missing"
  , "missing api configuration", "no access to" ]

section Cache

variable (engine : CacheEngine) (rows : List (CacheRow engine.Vector)) (node : DAGNode)
  (prompt : String) (now : Time)

/-- `_is_cacheable`. -/
def isCacheable (content : String) : Bool :=
  content ≠ "" &&
    !cachePoisonMarkers.any (fun marker =>
      decide (marker.toList <:+: (engine.lower content).toList))

/-- The conditions of the statement. -/
def servesNode (row : CacheRow engine.Vector) : Bool :=
  row.recordState = .active && row.expiresAt.any (fun expiresAt => now < expiresAt) &&
    row.capability = some node.capability &&
    row.cacheVersion = some (toString cacheGuardVersion)

/-- The rows of the statement with their distances.  A row without an embedding
comes last, and its similarity raises. -/
def withDistance (embedding : engine.Vector) : List (CacheRow engine.Vector × ℚ) :=
  (rows.filter (servesNode engine node now)).filterMap (fun row =>
    row.embedding.map (fun stored => (row, engine.cosineDistance stored embedding)))

/-- The row that the statement returns. -/
def nearestRow? (embedding : engine.Vector) : Option (CacheRow engine.Vector × ℚ) :=
  (withDistance engine rows node now embedding).argmin Prod.snd

/-- `_check_semantic_cache`. -/
def checkSemanticCache : Option LLMResponse :=
  (engine.embed? (textPrefix 500 prompt)).bind (fun embedding =>
    (nearestRow? engine rows node now embedding).bind (fun found =>
      if 1 - found.2 < engine.similarityThreshold then none
      else if isCacheable engine found.1.content then
        some { content := found.1.content, model := "cache", latencyMs := 1 / 2 }
      else none))

/-- `_store_in_cache`. -/
def storeInCache (response : LLMResponse) : List (CacheRow engine.Vector) :=
  if response.content.length < 50 ∨ ¬isCacheable engine response.content then rows
  else
    match engine.embed? (textPrefix 500 prompt) with
    | none => rows
    | some embedding => rows ++
        [{ content := textPrefix 5000 response.content
           embedding := some embedding
           expiresAt := some (now + max 1 engine.ttlHours * hour)
           capability := some node.capability
           cacheVersion := some (toString cacheGuardVersion) }]

end Cache

/-! ## What a lookup answers -/

section Lookup

variable {engine : CacheEngine} {rows : List (CacheRow engine.Vector)} {node : DAGNode}
  {prompt : String} {now : Time}

/-- The cache answers with the nearest row, if it is near enough and its content
passes the markers. -/
theorem checkSemanticCache_eq_some_iff {response : LLMResponse} :
    checkSemanticCache engine rows node prompt now = some response ↔
      ∃ embedding found, engine.embed? (textPrefix 500 prompt) = some embedding ∧
        nearestRow? engine rows node now embedding = some found ∧
        engine.similarityThreshold ≤ 1 - found.2 ∧ isCacheable engine found.1.content = true ∧
        { content := found.1.content, model := "cache", latencyMs := 1 / 2 } = response := by
  unfold checkSemanticCache
  rw [Option.bind_eq_some_iff]
  constructor
  · rintro ⟨embedding, hembedding, hfound⟩
    obtain ⟨found, hnearest, hanswer⟩ := Option.bind_eq_some_iff.1 hfound
    refine ⟨embedding, found, hembedding, hnearest, ?_⟩
    split at hanswer
    · cases hanswer
    · rename_i hnear
      split at hanswer
      · rename_i hcacheable
        exact ⟨not_lt.1 hnear, hcacheable, Option.some.inj hanswer⟩
      · cases hanswer
  · rintro ⟨embedding, found, hembedding, hnearest, hnear, hcacheable, hresponse⟩
    refine ⟨embedding, hembedding, Option.bind_eq_some_iff.2 ⟨found, hnearest, ?_⟩⟩
    rw [if_neg (not_lt.2 hnear), if_pos hcacheable, hresponse]

/-- An answer that is stored answers its own prompt again: no other row serves
the node, and the row has not expired. -/
theorem checkSemanticCache_storeInCache {response : LLMResponse} {later : Time}
    {embedding : engine.Vector}
    (hrows : ∀ row ∈ rows, servesNode engine node later row = false)
    (hlength : 50 ≤ response.content.length ∧ response.content.length ≤ 5000)
    (hcacheable : isCacheable engine response.content = true)
    (hembedding : engine.embed? (textPrefix 500 prompt) = some embedding)
    (hnear : engine.similarityThreshold ≤ 1 - engine.cosineDistance embedding embedding)
    (hlater : later < now + max 1 engine.ttlHours * hour) :
    checkSemanticCache engine (storeInCache engine rows node prompt now response) node prompt
      later = some { content := response.content, model := "cache", latencyMs := 1 / 2 } := by
  have hcontent : textPrefix 5000 response.content = response.content := by
    unfold textPrefix
    rw [List.take_of_length_le (hlength.2.trans' String.length_toList.le), String.ofList_toList]
  let stored : CacheRow engine.Vector :=
    { content := response.content
      embedding := some embedding
      expiresAt := some (now + max 1 engine.ttlHours * hour)
      capability := some node.capability
      cacheVersion := some (toString cacheGuardVersion) }
  have hserves : servesNode engine node later stored = true := by
    simp [servesNode, stored, hlater]
  have hstore : storeInCache engine rows node prompt now response = rows ++ [stored] := by
    unfold storeInCache
    rw [if_neg (by simpa [hcacheable] using hlength.1), hembedding, hcontent]
  rw [hstore, checkSemanticCache_eq_some_iff]
  refine ⟨embedding, (stored, engine.cosineDistance embedding embedding), hembedding, ?_, hnear,
    hcacheable, rfl⟩
  unfold nearestRow? withDistance
  rw [List.filter_append, List.filter_eq_nil_iff.2 (fun row hrow => by simp [hrows row hrow]),
    List.nil_append, List.filter_singleton, hserves]
  rfl

end Lookup

end WorkflowScheduler

end MassClaw
