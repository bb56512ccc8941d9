import MassClaw.Identity.Multibase
import MassClaw.Memory.Service

/-!
# Requests that were signed elsewhere

An author outside the node has the fields of a request as JSON: the type is a
text such as `fact`, the identifiers are texts.  He hashes the body that
`build_canonical_body` makes of them and sends the hash with the request.
`put` hashes the body that it makes of the parsed request.  There the type is
an enumeration member, and `str` gives its qualified name; so the canonical
texts differ in the field `memory_type`, for every request.
-/

namespace MassClaw

/-! ## The text of a body -/

namespace Canonical

variable {host : Host}

/-- The text of a nullable field. -/
def optionText : Option String → List Char
  | none => "null".toList
  | some s => escapeString s

theorem emit_option (value : Option String) :
    emit host ((value.map Json.str).getD .null) = some (optionText value) := by
  cases value with
  | none => rfl
  | some s => rfl

/-- The text of a dictionary with one entry for each field of a body. -/
def bodyText (body : CanonicalBody) (author confidence metadata parents : List Char) : List Char :=
  '\x7b' :: joined
    [ escapeString "author_did" ++ ':' :: author
    , escapeString "confidence" ++ ':' :: confidence
    , escapeString "content" ++ ':' :: escapeString body.content
    , escapeString "memory_type" ++ ':' :: escapeString body.memoryType
    , escapeString "metadata" ++ ':' :: metadata
    , escapeString "parent_hashes" ++ ':' :: parents
    , escapeString "source_agent_id" ++ ':' :: optionText body.sourceAgentId
    , escapeString "workflow_id" ++ ':' :: escapeString body.workflowId ] ++ ['\x7d']

/-- The keys of `as_jsonable` are written in order. -/
theorem emit_asJsonable (body : CanonicalBody) :
    (body.asJsonable host).bind (emit host) =
      (sortParents body.parentHashes).bind (fun parents =>
        (emit host (body.authorDid.getD .null)).bind (fun author =>
          (emit host (.float body.confidence)).bind (fun confidence =>
            (emit host (.dict (CanonicalBody.cloneMetadata host body.metadata))).bind
              (fun metadata => (emit host (.list parents)).map
                (fun parents => bodyText body author confidence metadata parents))))) := by
  unfold CanonicalBody.asJsonable
  cases sortParents body.parentHashes with
  | none => rfl
  | some parents =>
    have hsorted : ∀ a b c d e f g h : List Char, sortEntries
        [ ("author_did", a), ("confidence", b), ("content", c), ("memory_type", d)
        , ("metadata", e), ("parent_hashes", f), ("source_agent_id", g), ("workflow_id", h) ] =
        [ ("author_did", a), ("confidence", b), ("content", c), ("memory_type", d)
        , ("metadata", e), ("parent_hashes", f), ("source_agent_id", g), ("workflow_id", h) ] := by
      intro a b c d e f g h
      refine List.Pairwise.insertionSort_eq ?_
      simp only [List.pairwise_cons, List.mem_cons, List.not_mem_nil, or_false, forall_eq_or_imp,
        forall_eq, false_imp_iff, implies_true, List.Pairwise.nil, and_true]
      decide +kernel
    have hdict : ∀ entries, emit host (.dict entries) =
        (emitEntries host entries).map (fun parts =>
          '\x7b' :: joined ((sortEntries parts).map
            (fun entry => escapeString entry.1 ++ ':' :: entry.2)) ++ ['\x7d']) :=
      fun entries => by rw [emit]
    have hstr : ∀ s, emit host (.str s) = some (escapeString s) := fun s => by rw [emit]
    rw [Option.map_some, Option.bind_some, Option.bind_some, hdict]
    simp only [emitEntries, hstr, emit_option, Option.bind_eq_bind, Option.bind_some,
      Option.pure_def]
    generalize emit host (body.authorDid.getD .null) = author
    generalize emit host (.float body.confidence) = confidence
    generalize emit host (.dict (CanonicalBody.cloneMetadata host body.metadata)) = metadata
    generalize emit host (.list parents) = parents
    cases author with
    | none => rfl
    | some author =>
      cases confidence with
      | none => rfl
      | some confidence =>
        cases metadata with
        | none => rfl
        | some metadata =>
          cases parents with
          | none => rfl
          | some parents =>
            simp only [Option.bind_some, Option.map_some, hsorted]
            rfl

/-- Bodies with equal texts start alike up to the type. -/
theorem bodyText_ne {body other : CanonicalBody} {author confidence metadata metadata' parents
    parents' : List Char} {a b : Char} (hcontent : body.content = other.content)
    (ha : (escapeString body.memoryType)[1]? = some a)
    (hb : (escapeString other.memoryType)[1]? = some b) (hne : a ≠ b) :
    bodyText body author confidence metadata parents ≠
      bodyText other author confidence metadata' parents' := by
  intro h
  unfold bodyText at h
  rw [hcontent] at h
  simp only [joined, List.append_assoc, List.cons_append, List.cons.injEq, true_and,
    List.append_cancel_left_eq] at h
  have hsecond := congrArg (fun text => text[1]?) h
  obtain ⟨hlength, -⟩ := List.getElem?_eq_some_iff.1 ha
  obtain ⟨hlength', -⟩ := List.getElem?_eq_some_iff.1 hb
  rw [List.getElem?_append_left hlength, List.getElem?_append_left hlength', ha, hb] at hsecond
  exact hne (Option.some.inj hsecond)

end Canonical

/-! ## The wire form of a request -/

/-- The fields of a request as an author outside the node has them: the
identifiers as texts in any spelling. -/
structure WireForm (data : MemoryWriteRequest) where
  workflowId : String
  sourceAgentId : Option String
  parse_workflowId : UUID.parse? workflowId = some data.workflowId
  parse_sourceAgentId : sourceAgentId.map UUID.parse? = data.sourceAgentId.map some

namespace WireForm

/-- The identifiers in the form that `str` gives them. -/
def ofRequest (data : MemoryWriteRequest) : WireForm data where
  workflowId := data.workflowId.str
  sourceAgentId := data.sourceAgentId.map UUID.str
  parse_workflowId := UUID.parse?_str _
  parse_sourceAgentId := by
    cases data.sourceAgentId with
    | none => rfl
    | some id => simp only [Option.map_some, UUID.parse?_str]

variable {host : Host} {data : MemoryWriteRequest}

/-- `build_canonical_body` on the wire form. -/
def canonicalBody (wire : WireForm data) : CanonicalBody where
  workflowId := wire.workflowId
  memoryType := data.memoryType.value
  content := data.content
  confidence := .finite data.confidence
  metadata := data.metadata.map (fun entry => (.str entry.1, entry.2))
  parentHashes := data.parentHashes.map .str
  authorDid := data.authorDid.map .str
  sourceAgentId := wire.sourceAgentId

/-- `put` computes every hash that the author computes. -/
def AgreesOnHash (host : Host) (wire : WireForm data) : Prop :=
  ∀ version expiresAt hash, wire.canonicalBody.contentHash host = some hash →
    (data.write version expiresAt).canonicalBody.contentHash host = some hash

/-- SHA-256 has one digest for the two byte strings, which differ. -/
def Collides (host : Host) (wire : WireForm data) : Prop :=
  ∀ version expiresAt, ∃ bytes bytes', bytes ≠ bytes' ∧
    wire.canonicalBody.toSignableBytes host = some bytes ∧
    (data.write version expiresAt).canonicalBody.toSignableBytes host = some bytes' ∧
    host.sha256 bytes = host.sha256 bytes'

private theorem memoryType_texts (memoryType : MemoryType) :
    ∃ a, (Canonical.escapeString memoryType.value)[1]? = some a ∧
      (Canonical.escapeString memoryType.str)[1]? = some 'M' ∧ a ≠ 'M' := by
  cases memoryType with
  | fact => exact ⟨'f', by decide +kernel, by decide +kernel, by decide⟩
  | context => exact ⟨'c', by decide +kernel, by decide +kernel, by decide⟩
  | result => exact ⟨'r', by decide +kernel, by decide +kernel, by decide⟩
  | reasoning => exact ⟨'r', by decide +kernel, by decide +kernel, by decide⟩
  | metaType => exact ⟨'m', by decide +kernel, by decide +kernel, by decide⟩
  | cache => exact ⟨'c', by decide +kernel, by decide +kernel, by decide⟩

/-- The author and `put` sign different bytes. -/
theorem toSignableBytes_ne (wire : WireForm data) (version : Nat) (expiresAt : Option Time)
    {bytes : Bytes} (h : wire.canonicalBody.toSignableBytes host = some bytes) :
    ∃ bytes', bytes ≠ bytes' ∧
      (data.write version expiresAt).canonicalBody.toSignableBytes host = some bytes' := by
  obtain ⟨json, hjson, hcanonical⟩ := Option.bind_eq_some_iff.1 h
  obtain ⟨text, htext, hbytes⟩ := Option.map_eq_some_iff.1 hcanonical
  have hemit : (wire.canonicalBody.asJsonable host).bind (Canonical.emit host) = some text := by
    rw [hjson]
    exact htext
  rw [Canonical.emit_asJsonable] at hemit
  obtain ⟨parents, hparents, hemit⟩ := Option.bind_eq_some_iff.1 hemit
  obtain ⟨author, hauthor, hemit⟩ := Option.bind_eq_some_iff.1 hemit
  obtain ⟨confidence, hconfidence, hemit⟩ := Option.bind_eq_some_iff.1 hemit
  obtain ⟨metadata, hmetadata, hemit⟩ := Option.bind_eq_some_iff.1 hemit
  obtain ⟨parentsText, hparentsText, hwire⟩ := Option.map_eq_some_iff.1 hemit
  -- the other fields of the two bodies are the same
  let put := (data.write version expiresAt).canonicalBody
  let putText := Canonical.bodyText put author confidence metadata parentsText
  have hput : (put.asJsonable host).bind (Canonical.emit host) = some putText := by
    rw [Canonical.emit_asJsonable]
    refine Option.bind_eq_some_iff.2 ⟨parents, hparents, ?_⟩
    refine Option.bind_eq_some_iff.2 ⟨author, hauthor, ?_⟩
    refine Option.bind_eq_some_iff.2 ⟨confidence, hconfidence, ?_⟩
    refine Option.bind_eq_some_iff.2 ⟨metadata, hmetadata, ?_⟩
    exact Option.map_eq_some_iff.2 ⟨parentsText, hparentsText, rfl⟩
  refine ⟨(String.ofList putText).toUTF8.toList, fun hsame => ?_, ?_⟩
  · rw [← hbytes] at hsame
    have htexts := congrArg String.toList (Canonical.toUTF8_inj hsame)
    rw [String.toList_ofList, String.toList_ofList, ← hwire] at htexts
    obtain ⟨a, ha, hb, hne⟩ := memoryType_texts data.memoryType
    refine absurd htexts (Canonical.bodyText_ne ?_ ?_ ?_ hne)
    · rfl
    · exact ha
    · exact hb
  · obtain ⟨putJson, hputJson, hputText⟩ := Option.bind_eq_some_iff.1 hput
    show (put.asJsonable host).bind (canonicalize host) = _
    rw [hputJson, Option.bind_some, canonicalize, hputText]
    rfl

/-- The author and `put` compute one hash exactly if the request has no
canonical form, so that neither computes any, or SHA-256 collides. -/
theorem agreesOnHash_iff (host : Host) (wire : WireForm data) :
    wire.AgreesOnHash host ↔
      wire.canonicalBody.toSignableBytes host = none ∨ wire.Collides host := by
  constructor
  · intro hagrees
    cases hbytes : wire.canonicalBody.toSignableBytes host with
    | none => exact Or.inl rfl
    | some bytes =>
      refine Or.inr (fun version expiresAt => ?_)
      obtain ⟨bytes', hne, hput⟩ := wire.toSignableBytes_ne version expiresAt hbytes
      refine ⟨bytes, bytes', hne, hbytes, hput, ?_⟩
      have hhash := hagrees version expiresAt (encodeMultibase (host.sha256 bytes)) (by
        rw [CanonicalBody.contentHash, hbytes]
        rfl)
      rw [CanonicalBody.contentHash, hput, Option.map_some, Option.some.injEq,
        encodeMultibase_inj] at hhash
      exact hhash.symm
  · intro h version expiresAt hash hwire
    rw [CanonicalBody.contentHash] at hwire ⊢
    rcases h with hnone | hcollides
    · rw [hnone] at hwire
      cases hwire
    · obtain ⟨bytes, bytes', -, hbytes, hput, hdigest⟩ := hcollides version expiresAt
      rw [hbytes, Option.map_some] at hwire
      rw [hput, Option.map_some, ← hdigest]
      exact hwire

/-- Where they disagree, the store refuses the request with a hash mismatch,
whatever signature comes with it. -/
theorem resolve_mismatch {wire : WireForm data} {version : Nat} {expiresAt : Option Time}
    {hash : String} {signature : Option Json}
    (hwire : wire.canonicalBody.contentHash host = some hash)
    (hne : (data.write version expiresAt).canonicalBody.contentHash host ≠ some hash) :
    ∃ expected, CRDTStore.resolveHashAndSignature host
      (data.write version expiresAt).canonicalBody none (some hash) signature =
        .error (.hashMismatch hash expected) := by
  obtain ⟨bytes, hbytes, -⟩ := Option.map_eq_some_iff.1 hwire
  obtain ⟨bytes', -, hput⟩ := wire.toSignableBytes_ne version expiresAt hbytes
  have hcomputed : (data.write version expiresAt).canonicalBody.contentHash host =
      some (encodeMultibase (host.sha256 bytes')) := by
    rw [CanonicalBody.contentHash, hput]
    rfl
  rw [hcomputed, ne_eq, Option.some.injEq] at hne
  have hcheck : CRDTStore.checkHash (some hash) (encodeMultibase (host.sha256 bytes')) =
      .error (.hashMismatch hash (encodeMultibase (host.sha256 bytes'))) := by
    rw [CRDTStore.checkHash]
    exact if_neg (Ne.symm hne)
  refine ⟨encodeMultibase (host.sha256 bytes'), ?_⟩
  unfold CRDTStore.resolveHashAndSignature
  cases signature with
  | none =>
    simp only [hcomputed, reduceCtorEq, false_and, if_false, hcheck]
    rfl
  | some signature =>
    simp only [hput, hcheck]
    rfl

/-! ## A fact -/

/-- A request for a fact. -/
def fact : MemoryWriteRequest where
  workflowId := UUID.ofNat 1
  memoryType := .fact
  content := "claim"
  confidence := 1
  contentLength := MemoryWriteRequest.contentLength_claim
  confidenceRange := MemoryWriteRequest.confidenceRange_one
  ttlPositive := MemoryWriteRequest.ttlPositive_none

/-- The two hashes of a fact differ. -/
theorem agreesOnHash_fails :
    ¬∀ (host : Host) (data : MemoryWriteRequest) (wire : WireForm data),
      wire.AgreesOnHash host := by
  intro h
  have hsame := h Host.lengths fact (ofRequest fact) 1 none
    (((ofRequest fact).canonicalBody.contentHash Host.lengths).getD "") (by decide +kernel)
  revert hsame
  decide +kernel

end WireForm

end MassClaw
