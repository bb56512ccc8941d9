import MassClaw.Crdt.Hashing
import MassClaw.Identity.CanonicalForm
import MassClaw.Identity.Multibase
import Mathlib.Tactic.NormNum

/-!
# What a content hash identifies

The content hash of a body is the digest of its canonical form.  As long as
SHA-256 does not collide on the two forms, bodies have one hash exactly if they
are the same up to the order of the parents and of the keys of the metadata.

`TypedBody` is a `CanonicalBody` whose fields hold what their annotations say.
-/

namespace MassClaw

/-- A `CanonicalBody` with the annotated types, and metadata of JSON values. -/
structure TypedBody where
  workflowId : String
  memoryType : String
  content : String
  confidence : ℚ
  metadata : List (String × PyValue)
  parentHashes : List String
  authorDid : Option String
  sourceAgentId : Option String
  double : PyFloat.IsDouble confidence
  wellFormed : (PyValue.dict metadata).WellFormed

namespace TypedBody

/-- The body, with the metadata as `as_jsonable` clones it. -/
def body (typed : TypedBody) : CanonicalBody where
  workflowId := typed.workflowId
  memoryType := typed.memoryType
  content := typed.content
  confidence := .finite typed.confidence
  metadata := (PyValue.cloneEntries typed.metadata).map (fun entry => (.str entry.1, entry.2))
  parentHashes := typed.parentHashes.map .str
  authorDid := typed.authorDid.map .str
  sourceAgentId := typed.sourceAgentId

/-- Equality up to the order of the parents and of the keys of the metadata. -/
structure Same (a b : TypedBody) : Prop where
  workflowId : a.workflowId = b.workflowId
  memoryType : a.memoryType = b.memoryType
  content : a.content = b.content
  confidence : a.confidence = b.confidence
  metadata : (PyValue.dict a.metadata).Same (.dict b.metadata)
  parentHashes : a.parentHashes.Perm b.parentHashes
  authorDid : a.authorDid = b.authorDid
  sourceAgentId : a.sourceAgentId = b.sourceAgentId

variable {host : Host}

/-- The sorted parents. -/
def sortedParents (typed : TypedBody) : List String := typed.parentHashes.insertionSort (· ≤ ·)

theorem sortedParents_eq_iff {a b : TypedBody} :
    a.sortedParents = b.sortedParents ↔ a.parentHashes.Perm b.parentHashes := by
  constructor
  · intro h
    have hb := List.perm_insertionSort (· ≤ ·) b.parentHashes
    rw [← sortedParents, ← h] at hb
    exact (List.perm_insertionSort (· ≤ ·) a.parentHashes).symm.trans hb
  · intro h
    exact (((List.perm_insertionSort _ _).trans h).trans
      (List.perm_insertionSort _ _).symm).eq_of_pairwise'
      (List.pairwise_insertionSort _ _) (List.pairwise_insertionSort _ _)

/-- A text or `None`. -/
def optional (s : Option String) : Json := (s.map .str).getD .null

/-- The document of a typed body. -/
def document (typed : TypedBody) : List (String × Json) :=
  [ ("author_did", optional typed.authorDid)
  , ("confidence", .float (.finite typed.confidence))
  , ("content", .str typed.content)
  , ("memory_type", .str typed.memoryType)
  , ("metadata", (PyValue.dict typed.metadata).cloneJsonable)
  , ("parent_hashes", .list (typed.sortedParents.map .str))
  , ("source_agent_id", optional typed.sourceAgentId)
  , ("workflow_id", .str typed.workflowId) ]

theorem nodup_metadata (typed : TypedBody) :
    (Assoc.keys (PyValue.cloneEntries typed.metadata)).Nodup := by
  have hwell := typed.wellFormed
  unfold PyValue.WellFormed at hwell
  rw [PyValue.cloneJsonable] at hwell
  cases hwell with
  | dict hkeys _ => exact hkeys

/-- What is hashed is the document. -/
theorem asJsonable_eq (typed : TypedBody) :
    typed.body.asJsonable host = some (.dict typed.document) := by
  have hparents : sortParents (typed.parentHashes.map .str) =
      some (typed.sortedParents.map .str) := by
    have hmap : (typed.parentHashes.map Json.str).mapM Json.asString? =
        some typed.parentHashes := by
      induction typed.parentHashes with
      | nil => rfl
      | cons hash rest ih => simp [ih]
    rw [sortParents, hmap]
    rfl
  have hmetadata : CanonicalBody.cloneMetadata host typed.body.metadata =
      PyValue.cloneEntries typed.metadata := by
    unfold CanonicalBody.cloneMetadata body
    rw [List.map_map]
    have hid : ∀ entries : List (String × Json), entries.map
        ((fun entry : DictKey × Json => (entry.1.toJson.pyStr host.repr, entry.2)) ∘
          (fun entry : String × Json => (DictKey.str entry.1, entry.2))) = entries :=
      fun entries => List.map_id entries
    rw [hid, Assoc.ofList_of_nodup typed.nodup_metadata]
  show (sortParents (typed.parentHashes.map .str)).map _ = _
  rw [hparents, Option.map_some, hmetadata, document, PyValue.cloneJsonable]
  rfl

theorem nodup_document (typed : TypedBody) : (typed.document.map Prod.fst).Nodup := by
  show ["author_did", "confidence", "content", "memory_type", "metadata", "parent_hashes",
    "source_agent_id", "workflow_id"].Nodup
  decide

theorem wellFormed_document (typed : TypedBody) : (Json.dict typed.document).WellFormed := by
  have hoptional : ∀ s : Option String, (optional s).WellFormed := by
    intro s
    cases s with
    | none => exact .null
    | some s => exact .str s
  have hparents : ∀ hash ∈ typed.sortedParents.map Json.str, hash.WellFormed := by
    intro hash hmem
    obtain ⟨s, -, rfl⟩ := List.mem_map.1 hmem
    exact .str s
  refine .dict typed.nodup_document ?_
  simp only [document, List.forall_mem_cons]
  exact ⟨hoptional _, .float typed.double, .str _, .str _, typed.wellFormed, .list hparents,
    hoptional _, .str _, fun _ h => by cases h⟩

/-! ## Reading the fields back -/

theorem str_same_iff {s t : String} : (Json.str s).Same (.str t) ↔ s = t := by
  constructor
  · intro h
    cases h with
    | str => rfl
    | number hq => cases hq
  · rintro rfl
    exact .str s

theorem optional_same_iff {s t : Option String} : (optional s).Same (optional t) ↔ s = t := by
  cases s with
  | none =>
    cases t with
    | none => exact iff_of_true .null rfl
    | some t =>
      refine iff_of_false (fun h => ?_) (fun h => by cases h)
      cases h with
      | number hq => cases hq
  | some s =>
    cases t with
    | none =>
      refine iff_of_false (fun h => ?_) (fun h => by cases h)
      cases h with
      | number hq => cases hq
    | some t => exact str_same_iff.trans (Option.some.injEq s t).to_iff.symm

theorem finite_same_iff {q r : ℚ} :
    (Json.float (.finite q)).Same (.float (.finite r)) ↔ q = r := by
  constructor
  · intro h
    cases h with
    | number hq hr => exact (Option.some.inj hq).trans (Option.some.inj hr).symm
  · rintro rfl
    exact .number rfl rfl

theorem strings_same_iff {xs ys : List String} :
    (Json.list (xs.map .str)).Same (.list (ys.map .str)) ↔ xs = ys := by
  constructor
  · intro h
    cases h with
    | number hq => cases hq
    | list hlength hitems =>
      have hall : List.Forall₂ Json.Same (xs.map .str) (ys.map .str) :=
        List.forall₂_iff_zip.2 ⟨hlength, fun hxy => hitems _ _ hxy⟩
      rw [List.forall₂_map_left_iff, List.forall₂_map_right_iff] at hall
      rw [← List.forall₂_eq_eq_eq]
      exact hall.imp (fun _ _ hsame => str_same_iff.1 hsame)
  · rintro rfl
    refine .list rfl (fun x y hxy => ?_)
    have hall : List.Forall₂ Json.Same (xs.map .str) (xs.map .str) := by
      rw [List.forall₂_map_left_iff, List.forall₂_map_right_iff]
      exact List.forall₂_same.2 (fun s _ => .str s)
    exact (List.forall₂_iff_zip.1 hall).2 hxy

/-- Dictionaries with the same distinct keys, in the same order. -/
theorem dict_same_iff {xs ys : List (String × Json)} (hkeys : xs.map Prod.fst = ys.map Prod.fst)
    (hnodup : (ys.map Prod.fst).Nodup) :
    (Json.dict xs).Same (.dict ys) ↔ List.Forall₂ (fun x y => x.2.Same y.2) xs ys := by
  have hpairs : List.Forall₂ (fun x y : String × Json => x.1 = y.1) xs ys := by
    rw [← List.forall₂_eq_eq_eq, List.forall₂_map_left_iff, List.forall₂_map_right_iff] at hkeys
    exact hkeys
  obtain ⟨hlength, hfirst⟩ := List.forall₂_iff_zip.1 hpairs
  constructor
  · intro h
    cases h with
    | number hq => cases hq
    | dict _ hvalues =>
      refine List.forall₂_iff_zip.2 ⟨hlength, fun {x y} hxy => ?_⟩
      have hy : (x.1, y.2) ∈ ys := hfirst hxy ▸ (List.of_mem_zip hxy).2
      exact hvalues x.1 x.2 y.2 (List.of_mem_zip hxy).1 hy
  · intro h
    refine Json.Same.dict_of_forall₂ hnodup (List.forall₂_iff_zip.2 ⟨hlength, fun {x y} hxy => ?_⟩)
    exact ⟨hfirst hxy, (List.forall₂_iff_zip.1 h).2 hxy⟩

/-- The documents are the same if and only if the bodies are. -/
theorem document_same_iff {a b : TypedBody} :
    (Json.dict a.document).Same (.dict b.document) ↔ a.Same b := by
  have hkeys : a.document.map Prod.fst = b.document.map Prod.fst := rfl
  rw [dict_same_iff hkeys b.nodup_document]
  simp only [document, List.forall₂_cons, List.forall₂_nil_left_iff, and_true,
    optional_same_iff, finite_same_iff, str_same_iff, strings_same_iff, sortedParents_eq_iff]
  constructor
  · rintro ⟨hauthor, hconfidence, hcontent, htype, hmetadata, hparents, hagent, hworkflow⟩
    exact ⟨hworkflow, htype, hcontent, hconfidence, hmetadata, hparents, hauthor, hagent⟩
  · intro h
    exact ⟨h.authorDid, h.confidence, h.content, h.memoryType, h.metadata, h.parentHashes,
      h.sourceAgentId, h.workflowId⟩

/-- The bytes that are signed and hashed. -/
theorem toSignableBytes_eq (typed : TypedBody) :
    typed.body.toSignableBytes host = canonicalize host (.dict typed.document) := by
  rw [CanonicalBody.toSignableBytes, asJsonable_eq, Option.bind_some]

/-- SHA-256 does not collide on the forms of two bodies. -/
def CollisionFree (host : Host) (a b : TypedBody) : Prop :=
  ∀ x y, a.body.toSignableBytes host = some x → b.body.toSignableBytes host = some y →
    host.sha256 x = host.sha256 y → x = y

/-- The bytes of the same bodies do not collide, they are equal. -/
theorem Same.collisionFree (hfloats : host.WritesFloats) {a b : TypedBody} (h : a.Same b) :
    CollisionFree host a b := by
  intro x y hx hy _
  have hbytes := (canonicalize_eq_iff hfloats a.wellFormed_document b.wellFormed_document).2
    (document_same_iff.2 h)
  rw [← toSignableBytes_eq, ← toSignableBytes_eq, hx, hy] at hbytes
  exact Option.some.inj hbytes

/-- Bodies have one hash exactly if they are the same. -/
theorem contentHash_eq_iff (hfloats : host.WritesFloats) {a b : TypedBody}
    (hfree : CollisionFree host a b) :
    a.body.contentHash host = b.body.contentHash host ↔ a.Same b := by
  obtain ⟨x, hx⟩ := Option.isSome_iff_exists.1 (canonicalize_isSome host a.wellFormed_document)
  obtain ⟨y, hy⟩ := Option.isSome_iff_exists.1 (canonicalize_isSome host b.wellFormed_document)
  rw [← document_same_iff, ← canonicalize_eq_iff hfloats a.wellFormed_document
    b.wellFormed_document, CanonicalBody.contentHash, CanonicalBody.contentHash,
    toSignableBytes_eq, toSignableBytes_eq, hx, hy, Option.map_some, Option.map_some,
    Option.some.injEq, Option.some.injEq, encodeMultibase_inj]
  constructor
  · intro h
    exact hfree x y ((toSignableBytes_eq a).trans hx) ((toSignableBytes_eq b).trans hy) h
  · intro h
    rw [h]

end TypedBody

/-! ## An example host -/

/-- A numerator and a denominator, with the digits of `0.5` for one half. -/
def decimals (q : ℚ) : Int × Int := if q = 1 / 2 then (0, 5) else (q.num, q.den)

/-- The two numbers with a point between them. -/
def pointed (parts : Int × Int) : List Char :=
  (toString parts.1).toList ++ '.' :: (toString parts.2).toList

theorem pointed_inj {a b : Int × Int} (h : pointed a = pointed b) : a = b := by
  have hfree : ∀ n : Int, ∀ c ∈ (toString n).toList, ¬c = '.' := by
    intro n c hc
    rcases Canonical.mem_toString hc with hdigit | rfl
    · rintro rfl
      exact absurd hdigit (by decide)
    · decide
  have hreads : Delimited.Reads (· = '.')
      ((toString a.1).toList = (toString b.1).toList) _ _ :=
    Delimited.Reads.of_free (hfree a.1) (hfree b.1)
  have hpoint : ∀ rest, Delimited.Stops (· = '.') ('.' :: rest) :=
    fun rest => Delimited.stops_cons (by rfl) rest
  obtain ⟨hfirst, hrest⟩ := hreads _ _ (hpoint _) (hpoint _) h
  exact Prod.ext (Canonical.toString_inj hfirst)
    (Canonical.toString_inj (List.cons.inj hrest).2)

theorem decimals_inj {q r : ℚ} (hq : q.den ≠ 1) (hr : r.den ≠ 1) (h : decimals q = decimals r) :
    q = r := by
  have hnum : ∀ {x : ℚ}, x.den ≠ 1 → (0, 5) ≠ ((x.num, (x.den : Int)) : Int × Int) := by
    intro x hx heq
    have hzero : x = 0 := Rat.zero_of_num_zero (Prod.mk.inj heq).1.symm
    rw [hzero] at hx
    exact hx rfl
  unfold decimals at h
  split at h
  · rename_i hhalf
    split at h
    · rename_i hhalf'
      rw [hhalf, hhalf']
    · exact absurd h (hnum hr)
  · split at h
    · exact absurd h.symm (hnum hq)
    · obtain ⟨hnumber, hden⟩ := Prod.mk.inj h
      exact Rat.ext hnumber (by omega)

/-- A host that writes `0.5` for one half. -/
def writingHost : Host :=
  { Host.lengths with
    repr := fun value => match value with
      | .float (.finite q) => String.ofList (pointed (decimals q))
      | _ => "" }

theorem writingHost_writesFloats : writingHost.WritesFloats where
  injective := by
    intro q r _ _ hq hr h
    exact decimals_inj hq hr (pointed_inj (String.ofList_injective h))
  chars := by
    intro q _ _ c hc
    have hmem : c ∈ pointed (decimals q) := by simpa [writingHost] using hc
    rcases List.mem_append.1 hmem with hfirst | hrest
    · exact (Canonical.mem_toString hfirst).imp id (fun h => by simp [h])
    · rcases List.mem_cons.1 hrest with rfl | hsecond
      · exact Or.inr (by decide)
      · exact (Canonical.mem_toString hsecond).imp id (fun h => by simp [h])
  fraction := by
    intro q _ _
    exact ⟨'.', by simp [writingHost, pointed], Or.inl rfl⟩

/-- Canonical forms tell values apart up to the order of keys and the kind of
sequences, and content hashes tell bodies apart up to the order of the parents
and of the keys of the metadata. -/
theorem canonicalize_identifies (host : Host) (hfloats : host.WritesFloats) :
    (∀ v w : PyValue, v.WellFormed → w.WellFormed →
      (v.canonicalize host).isSome ∧
        (v.canonicalize host = w.canonicalize host ↔ v.Same w)) ∧
    (∀ a b : TypedBody, TypedBody.CollisionFree host a b →
      (a.body.contentHash host).isSome ∧
        (a.body.contentHash host = b.body.contentHash host ↔ a.Same b)) := by
  constructor
  · intro v w hv hw
    rw [← PyValue.canonicalize_cloneJsonable, ← PyValue.canonicalize_cloneJsonable]
    exact ⟨canonicalize_isSome host hv, canonicalize_eq_iff hfloats hv hw⟩
  · intro a b hfree
    refine ⟨?_, TypedBody.contentHash_eq_iff hfloats hfree⟩
    rw [CanonicalBody.contentHash, TypedBody.toSignableBytes_eq, Option.isSome_map]
    exact canonicalize_isSome host a.wellFormed_document

/-- A body with a list of keys and a list of parents. -/
def exampleBody (metadata : List (String × PyValue)) (parentHashes : List String)
    (h : (PyValue.dict metadata).WellFormed) : TypedBody where
  workflowId := "wf-1"
  memoryType := "fact"
  content := "x"
  confidence := 1 / 2
  metadata := metadata
  parentHashes := parentHashes
  authorDid := none
  sourceAgentId := none
  double := ⟨1, 1, by decide, Or.inr ⟨by decide, by norm_num⟩⟩
  wellFormed := h

/-- Metadata in one order, with a tuple. -/
def leftMetadata : List (String × PyValue) := [("a", .int 1), ("b", .tuple [.bool true])]

/-- The same metadata in the other order, with a list and a float. -/
def rightMetadata : List (String × PyValue) := [("b", .list [.bool true]), ("a", .float (.finite 1))]

theorem leftMetadata_wellFormed : (PyValue.dict leftMetadata).WellFormed := by
  simp only [leftMetadata, PyValue.WellFormed, PyValue.cloneJsonable, PyValue.cloneEntries,
    PyValue.cloneItems]
  refine .dict (by decide) ?_
  simp only [List.forall_mem_cons]
  exact ⟨.int 1, .list (by simp only [List.forall_mem_cons]; exact ⟨.bool true, nofun⟩), nofun⟩

theorem rightMetadata_wellFormed : (PyValue.dict rightMetadata).WellFormed := by
  simp only [rightMetadata, PyValue.WellFormed, PyValue.cloneJsonable, PyValue.cloneEntries,
    PyValue.cloneItems]
  refine .dict (by decide) ?_
  simp only [List.forall_mem_cons]
  have hone : PyFloat.IsDouble 1 := ⟨1, 0, by decide, Or.inl ⟨by decide, by norm_num⟩⟩
  exact ⟨.list (by simp only [List.forall_mem_cons]; exact ⟨.bool true, nofun⟩), .float hone,
    nofun⟩

theorem left_same_right : (PyValue.dict leftMetadata).Same (.dict rightMetadata) := by
  simp only [leftMetadata, rightMetadata, PyValue.Same, PyValue.cloneJsonable,
    PyValue.cloneEntries, PyValue.cloneItems]
  refine Json.Same.dict_perm (List.Perm.refl _) (List.Perm.swap _ _ _) ?_
  refine Json.Same.dict_of_forall₂ (by decide) ?_
  refine .cons ⟨rfl, .number rfl rfl⟩ (.cons ⟨rfl, .list rfl ?_⟩ .nil)
  intro x y hxy
  obtain ⟨rfl, rfl⟩ : x = .bool true ∧ y = .bool true := by simpa using hxy
  exact .bool true

/-- The order of the keys and of the parents leaves the hash as it is, and a
tuple has the form of a list. -/
theorem canonicalize_identifies_orders :
    (exampleBody leftMetadata ["za", "zb"] leftMetadata_wellFormed).body.contentHash writingHost =
      (exampleBody rightMetadata ["zb", "za"] rightMetadata_wellFormed).body.contentHash
        writingHost ∧
    (PyValue.dict leftMetadata).canonicalize writingHost =
      (PyValue.dict rightMetadata).canonicalize writingHost := by
  have hsame : (exampleBody leftMetadata ["za", "zb"] leftMetadata_wellFormed).Same
      (exampleBody rightMetadata ["zb", "za"] rightMetadata_wellFormed) :=
    ⟨rfl, rfl, rfl, rfl, left_same_right, List.Perm.swap _ _ _, rfl, rfl⟩
  obtain ⟨hvalues, hbodies⟩ := canonicalize_identifies writingHost writingHost_writesFloats
  exact ⟨(hbodies _ _ (hsame.collisionFree writingHost_writesFloats)).2.2 hsame,
    (hvalues _ _ leftMetadata_wellFormed rightMetadata_wellFormed).2.2 left_same_right⟩

end MassClaw
