import MassClaw.Lib.Transition
import MassClaw.Scheduler.Completion
import MassClaw.Scheduler.SemanticCache

/-!
# Exact hits of the semantic cache

A row of the cache keeps the embedding of the first 500 characters of its
prompt and the first 5000 characters of its answer.  A hit at similarity 1
therefore says that the prompts begin alike, and it gives the answer only up to
that length.
-/

namespace MassClaw

/-- The embedding tells texts apart, and only equal embeddings are at
similarity 1. -/
structure CacheEngine.Exact (engine : CacheEngine) : Prop where
  injective : ∀ text other embedding, engine.embed? text = some embedding →
    engine.embed? other = some embedding → text = other
  separates : ∀ left right : engine.Vector, 1 - engine.cosineDistance left right = 1 → left = right

namespace WorkflowScheduler

/-- A call of one of the two methods. -/
inductive CacheCall
  | store (node : DAGNode) (prompt : String) (response : LLMResponse) (now : Time)
  | check (node : DAGNode) (prompt : String) (now : Time)

/-- The rows after a call. -/
def CacheCall.run (engine : CacheEngine) (rows : List (CacheRow engine.Vector)) :
    CacheCall → List (CacheRow engine.Vector)
  | store node prompt response now => storeInCache engine rows node prompt now response
  | check _ _ _ => rows

/-- The rows after the calls, from an empty cache. -/
abbrev cacheAfter (engine : CacheEngine) (calls : List CacheCall) :
    List (CacheRow engine.Vector) :=
  Transition.after (CacheCall.run engine) [] calls

/-- The lookup answers, from a row at similarity 1. -/
def HitsExactly (engine : CacheEngine) (rows : List (CacheRow engine.Vector)) (node : DAGNode)
    (prompt : String) (now : Time) (response : LLMResponse) : Prop :=
  checkSemanticCache engine rows node prompt now = some response ∧
    ∃ embedding found, engine.embed? (textPrefix 500 prompt) = some embedding ∧
      nearestRow? engine rows node now embedding = some found ∧ 1 - found.2 = 1

theorem textPrefix_of_le {count : Nat} {text : String} (h : text.length ≤ count) :
    textPrefix count text = text := by
  unfold textPrefix
  rw [List.take_of_length_le (h.trans' String.length_toList.le), String.ofList_toList]

/-- The row is what a call has stored. -/
def StoredBy (engine : CacheEngine) (calls : List CacheCall) (row : CacheRow engine.Vector) :
    Prop :=
  ∃ node prompt response now, CacheCall.store node prompt response now ∈ calls ∧
    row.content = textPrefix 5000 response.content ∧
    row.embedding = engine.embed? (textPrefix 500 prompt) ∧
    row.capability = some node.capability

section Stored

variable {engine : CacheEngine} {calls : List CacheCall}

theorem StoredBy.mono {more : List CacheCall} {row : CacheRow engine.Vector}
    (h : StoredBy engine calls row) (hsub : calls ⊆ more) : StoredBy engine more row := by
  obtain ⟨node, prompt, response, now, hcall, hrow⟩ := h
  exact ⟨node, prompt, response, now, hsub hcall, hrow⟩

/-- A call adds at most its own row. -/
theorem mem_run {rows : List (CacheRow engine.Vector)} {call : CacheCall}
    {row : CacheRow engine.Vector} (h : row ∈ call.run engine rows) :
    row ∈ rows ∨ StoredBy engine [call] row := by
  cases call with
  | check node prompt now => exact Or.inl h
  | store node prompt response now =>
    have hstored : row ∈ storeInCache engine rows node prompt now response := h
    unfold storeInCache at hstored
    split at hstored
    · exact Or.inl hstored
    · split at hstored
      · exact Or.inl hstored
      · rename_i embedding hembedding
        rcases List.mem_append.1 hstored with hold | hnew
        · exact Or.inl hold
        · rw [List.mem_singleton.1 hnew]
          refine Or.inr ⟨node, prompt, response, now, List.mem_singleton.2 rfl, rfl, ?_, rfl⟩
          exact hembedding.symm

/-- Every row of the cache was stored by one of the calls. -/
theorem storedBy_of_mem {row : CacheRow engine.Vector} (h : row ∈ cacheAfter engine calls) :
    StoredBy engine calls row := by
  induction calls using List.reverseRecOn with
  | nil => cases h
  | append_singleton earlier call ih =>
    rw [cacheAfter, Transition.after_append] at h
    rcases mem_run h with hold | hnew
    · exact (ih hold).mono (List.subset_append_left _ _)
    · exact hnew.mono (List.subset_append_right _ _)

/-- The nearest row is one of the rows that serve the node, with its distance. -/
theorem nearestRow?_eq_some {rows : List (CacheRow engine.Vector)} {node : DAGNode} {now : Time}
    {embedding : engine.Vector} {found : CacheRow engine.Vector × ℚ}
    (h : nearestRow? engine rows node now embedding = some found) :
    found.1 ∈ rows ∧ servesNode engine node now found.1 = true ∧
      ∃ stored, found.1.embedding = some stored ∧
        found.2 = engine.cosineDistance stored embedding := by
  have hmem : found ∈ withDistance engine rows node now embedding := List.argmin_mem h
  obtain ⟨row, hrow, hfound⟩ := List.mem_filterMap.1 hmem
  obtain ⟨stored, hstored, heq⟩ := Option.map_eq_some_iff.1 hfound
  subst heq
  exact ⟨(List.mem_filter.1 hrow).1, (List.mem_filter.1 hrow).2, stored, hstored, rfl⟩

theorem capability_of_servesNode {node : DAGNode} {now : Time} {row : CacheRow engine.Vector}
    (h : servesNode engine node now row = true) : row.capability = some node.capability := by
  unfold servesNode at h
  simp only [Bool.and_eq_true, decide_eq_true_eq] at h
  exact h.1.2

/-- A hit at similarity 1 gives the first 5000 characters of an answer that was
stored for the same capability and for a prompt with the same first 500
characters: the whole answer and the same prompt, when they are not longer. -/
theorem stored_of_hitsExactly (engine : CacheEngine) (hexact : engine.Exact)
    (calls : List CacheCall) (node : DAGNode) (prompt : String) (now : Time)
    (response : LLMResponse)
    (hhit : HitsExactly engine (cacheAfter engine calls) node prompt now response) :
    ∃ node' prompt' response' now', CacheCall.store node' prompt' response' now' ∈ calls ∧
      node'.capability = node.capability ∧
      textPrefix 500 prompt' = textPrefix 500 prompt ∧
      response.content = textPrefix 5000 response'.content ∧
      (response'.content.length ≤ 5000 → response.content = response'.content) ∧
      (prompt'.length ≤ 500 → prompt.length ≤ 500 → prompt' = prompt) := by
  obtain ⟨hanswer, embedding, found, hembedding, hnearest, hsimilarity⟩ := hhit
  obtain ⟨embedding', found', hembedding', hnearest', -, -, hresponse⟩ :=
    checkSemanticCache_eq_some_iff.1 hanswer
  rw [hembedding] at hembedding'
  cases hembedding'
  rw [hnearest] at hnearest'
  cases hnearest'
  obtain ⟨hmem, hserves, stored, hstored, hdistance⟩ := nearestRow?_eq_some hnearest
  obtain ⟨node', prompt', response', now', hcall, hcontent, hkey, hcapability⟩ :=
    storedBy_of_mem hmem
  have hsame : stored = embedding := hexact.separates stored embedding (hdistance ▸ hsimilarity)
  have hprefix : textPrefix 500 prompt' = textPrefix 500 prompt := by
    refine hexact.injective _ _ embedding ?_ hembedding
    rw [← hkey, hstored, hsame]
  have hcut : response.content = textPrefix 5000 response'.content := by
    rw [← hresponse, ← hcontent]
  refine ⟨node', prompt', response', now', hcall, ?_, hprefix, hcut, ?_, ?_⟩
  · rw [capability_of_servesNode hserves] at hcapability
    exact (Option.some.inj hcapability).symm
  · intro hlength
    rw [hcut, textPrefix_of_le hlength]
  · intro hlength' hlength
    rw [textPrefix_of_le hlength', textPrefix_of_le hlength] at hprefix
    exact hprefix

/-- An answer that is stored alone is found again by every prompt that begins
like its own. -/
theorem hitsExactly_storeInCache {node : DAGNode} {prompt other : String} {now later : Time}
    {response : LLMResponse} {embedding : engine.Vector}
    (hembedding : engine.embed? (textPrefix 500 prompt) = some embedding)
    (hsame : textPrefix 500 other = textPrefix 500 prompt)
    (hlength : 50 ≤ response.content.length)
    (hcacheable : isCacheable engine response.content = true)
    (hcut : isCacheable engine (textPrefix 5000 response.content) = true)
    (hself : engine.cosineDistance embedding embedding = 0)
    (hthreshold : engine.similarityThreshold ≤ 1)
    (hlater : later < now + max 1 engine.ttlHours * hour) :
    HitsExactly engine (cacheAfter engine [.store node prompt response now]) node other later
      { content := textPrefix 5000 response.content, model := "cache", latencyMs := 1 / 2 } := by
  let stored : CacheRow engine.Vector :=
    { content := textPrefix 5000 response.content
      embedding := some embedding
      expiresAt := some (now + max 1 engine.ttlHours * hour)
      capability := some node.capability
      cacheVersion := some (toString cacheGuardVersion) }
  have hrows : cacheAfter engine [.store node prompt response now] = [stored] := by
    show storeInCache engine [] node prompt now response = [stored]
    unfold storeInCache
    rw [if_neg (by simpa [hcacheable] using hlength), hembedding]
    rfl
  have hserves : servesNode engine node later stored = true := by
    simp [servesNode, stored, hlater]
  have hnearest : nearestRow? engine [stored] node later embedding = some (stored, 0) := by
    unfold nearestRow? withDistance
    rw [List.filter_singleton, hserves]
    show List.argmin Prod.snd [(stored, engine.cosineDistance embedding embedding)] = _
    rw [hself]
    rfl
  rw [← hsame] at hembedding
  rw [hrows]
  refine ⟨checkSemanticCache_eq_some_iff.2 ⟨embedding, (stored, 0), hembedding, hnearest, ?_, hcut,
    rfl⟩, embedding, (stored, 0), hembedding, hnearest, ?_⟩
  · rw [sub_zero]
    exact hthreshold
  · rw [sub_zero]

end Stored

end WorkflowScheduler

namespace SchedulerExample

/-- The text is its own embedding, and no text has a capital letter. -/
def plainEngine : CacheEngine where
  Vector := String
  embed? := some
  cosineDistance left right := if left = right then 0 else 1
  lower text := text
  similarityThreshold := 88 / 100
  ttlHours := 24

theorem plainEngine_exact : plainEngine.Exact where
  injective := by
    intro text other embedding htext hother
    exact Option.some.inj (htext.trans hother.symm)
  separates := by
    intro left right h
    by_contra hne
    have hdistance : plainEngine.cosineDistance left right = 1 := if_neg hne
    rw [hdistance, sub_self] at h
    exact absurd h (by decide)

/-- A text of one repeated letter. -/
def letters (count : Nat) : String := String.ofList (List.replicate count 'a')

theorem length_letters (count : Nat) : (letters count).length = count := by
  unfold letters
  rw [String.length_ofList, List.length_replicate]

theorem textPrefix_letters (count length : Nat) :
    textPrefix count (letters length) = letters (min count length) := by
  unfold textPrefix letters
  rw [String.toList_ofList, List.take_replicate]

theorem textPrefix_letters_append {count length : Nat} (h : count ≤ length) (rest : String) :
    textPrefix count (letters length ++ rest) = letters count := by
  unfold textPrefix letters
  rw [String.toList_append, String.toList_ofList, List.take_append_of_le_length,
    List.take_replicate, Nat.min_eq_left h]
  rw [List.length_replicate]
  exact h

/-- No marker is made of one letter. -/
theorem isCacheable_letters {count : Nat} (h : 0 < count) :
    WorkflowScheduler.isCacheable plainEngine (letters count) = true := by
  have hne : letters count ≠ "" := by
    intro heq
    have hlength := length_letters count
    rw [heq] at hlength
    exact absurd hlength h.ne
  have hmarkers : ∀ marker ∈ WorkflowScheduler.cachePoisonMarkers,
      ∃ c ∈ marker.toList, c ≠ 'a' := by simp [WorkflowScheduler.cachePoisonMarkers]
  unfold WorkflowScheduler.isCacheable
  rw [Bool.and_eq_true, Bool.not_eq_true', List.any_eq_false]
  refine ⟨decide_eq_true hne, fun marker hmarker => ?_⟩
  rw [decide_eq_true_eq]
  intro hinfix
  obtain ⟨c, hc, hother⟩ := hmarkers marker hmarker
  have hmem : c ∈ (letters count).toList := hinfix.subset hc
  unfold letters at hmem
  rw [String.toList_ofList] at hmem
  exact hother (List.eq_of_mem_replicate hmem)

/-- An answer of one letter that is repeated. -/
def lettersResponse (count : Nat) : LLMResponse where
  content := letters count
  model := "claude-sonnet-5"

/-- What was stored for one prompt is found for another one that begins alike. -/
theorem hitsExactly_letters {prompt other : String} {count : Nat}
    (hsame : textPrefix 500 other = textPrefix 500 prompt) (hcount : 50 ≤ count) :
    WorkflowScheduler.HitsExactly plainEngine (WorkflowScheduler.cacheAfter plainEngine
      [.store (root "t1" "research") prompt (lettersResponse count) 0]) (root "t1" "research") other 0
      { content := letters (min 5000 count), model := "cache", latencyMs := 1 / 2 } := by
  have hcut : WorkflowScheduler.isCacheable plainEngine (textPrefix 5000 (letters count)) = true := by
    rw [textPrefix_letters]
    exact isCacheable_letters (by omega)
  rw [← textPrefix_letters]
  apply @WorkflowScheduler.hitsExactly_storeInCache plainEngine
  · rfl
  · exact hsame
  · exact (length_letters count).ge.trans' hcount
  · exact isCacheable_letters (by omega)
  · exact hcut
  · exact if_pos rfl
  · show (88 / 100 : ℚ) ≤ 1
    norm_num
  · decide

end SchedulerExample

namespace WorkflowScheduler

open SchedulerExample in
/-- A short answer to a short prompt is found again. -/
theorem stored_of_hitsExactly_letters : ∃ node' prompt' response' now',
    CacheCall.store node' prompt' response' now' ∈
      [CacheCall.store (root "t1" "research") "audit" (lettersResponse 50) 0] ∧
    node'.capability = "research" ∧ textPrefix 500 prompt' = textPrefix 500 "audit" ∧
    letters 50 = textPrefix 5000 response'.content ∧
    (response'.content.length ≤ 5000 → letters 50 = response'.content) ∧
    (prompt'.length ≤ 500 → "audit".length ≤ 500 → prompt' = "audit") :=
  stored_of_hitsExactly plainEngine plainEngine_exact
    [.store (root "t1" "research") "audit" (lettersResponse 50) 0] (root "t1" "research") "audit" 0
    { content := letters 50, model := "cache", latencyMs := 1 / 2 }
    (hitsExactly_letters rfl (le_refl 50))

open SchedulerExample in
/-- A prompt that goes on differently after 500 characters is answered with what
was stored for the other one, and a long answer is cut. -/
theorem stored_of_hitsExactly_fails :
    (¬∀ engine : CacheEngine, engine.Exact → ∀ calls node prompt now response,
      HitsExactly engine (cacheAfter engine calls) node prompt now response →
      ∃ node' prompt' response' now', CacheCall.store node' prompt' response' now' ∈ calls ∧
        node'.capability = node.capability ∧ prompt' = prompt) ∧
    ¬∀ engine : CacheEngine, engine.Exact → ∀ calls node prompt now response,
      HitsExactly engine (cacheAfter engine calls) node prompt now response →
      ∃ node' prompt' response' now', CacheCall.store node' prompt' response' now' ∈ calls ∧
        node'.capability = node.capability ∧ response.content = response'.content := by
  constructor
  · intro h
    have hsame : textPrefix 500 (letters 500 ++ "y") = textPrefix 500 (letters 500 ++ "x") := by
      rw [textPrefix_letters_append (le_refl 500), textPrefix_letters_append (le_refl 500)]
    obtain ⟨node, prompt, response, now, hcall, -, hprompt⟩ :=
      h plainEngine plainEngine_exact _ _ _ _ _ (hitsExactly_letters hsame (le_refl 50))
    cases List.mem_singleton.1 hcall
    have htexts := congrArg String.toList hprompt
    rw [String.toList_append, String.toList_append] at htexts
    exact absurd (List.append_cancel_left htexts) (by decide)
  · intro h
    have hhit := @hitsExactly_letters "audit" "audit" 5001 rfl (by omega)
    obtain ⟨node, prompt, response, now, hcall, -, hcontent⟩ :=
      h plainEngine plainEngine_exact _ _ _ _ _ hhit
    cases List.mem_singleton.1 hcall
    have hlengths : (letters (min 5000 5001)).length = (letters 5001).length :=
      congrArg String.length hcontent
    rw [length_letters, length_letters] at hlengths
    omega

end WorkflowScheduler

end MassClaw
