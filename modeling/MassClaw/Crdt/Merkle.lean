import MassClaw.Crdt.Sync
import MassClaw.Identity.Multibase
import MassClaw.Lib.Buckets

/-!
# What a Merkle summary tells

A summary depends on the set of the hashes only.  As long as SHA-256 does not
collide on what the summaries hash, it also determines the set: equal roots
mean equal sets, and equal digests mean equal buckets.  The hashes here are
those that fall into a bucket, which every content hash does.
-/

namespace MassClaw

/-! ## Texts of digests -/

/-- Different digests have different texts. -/
theorem hexdigest_inj {a b : Bytes} (h : hexdigest a = hexdigest b) : a = b := by
  have hdigit : ∀ m n : Fin 16, UUID.hexDigit m = UUID.hexDigit n → m = n := by decide
  have hbyte : ∀ x y : UInt8, UUID.hexDigits 2 x.toNat = UUID.hexDigits 2 y.toNat → x = y := by
    intro x y hxy
    have hx := x.toNat_lt
    have hy := y.toNat_lt
    simp only [UUID.hexDigits, List.nil_append, List.singleton_append, List.cons.injEq,
      and_true] at hxy
    have hhigh := hdigit ⟨x.toNat / 16 % 16, by omega⟩ ⟨y.toNat / 16 % 16, by omega⟩ hxy.1
    have hlow := hdigit ⟨x.toNat % 16, by omega⟩ ⟨y.toNat % 16, by omega⟩ hxy.2
    simp only [Fin.mk.injEq] at hhigh hlow
    exact UInt8.toNat_inj.1 (by omega)
  have hchars : a.flatMap (fun byte => UUID.hexDigits 2 byte.toNat) =
      b.flatMap (fun byte => UUID.hexDigits 2 byte.toNat) := String.ofList_injective h
  clear h
  induction a generalizing b with
  | nil =>
    cases b with
    | nil => rfl
    | cons y b =>
      have hlength := congrArg List.length hchars
      simp at hlength
      omega
  | cons x a ih =>
    cases b with
    | nil =>
      have hlength := congrArg List.length hchars
      simp at hlength
    | cons y b =>
      rw [List.flatMap_cons, List.flatMap_cons] at hchars
      obtain ⟨hfirst, hrest⟩ := List.append_inj hchars (by simp)
      rw [hbyte x y hfirst, ih hrest]

/-- A digest of 32 bytes has a text of 64 bytes. -/
theorem length_hexdigest {digest : Bytes} (h : digest.length = 32) :
    (hexdigest digest).toUTF8.toList.length = 64 := by
  have hsize : ∀ k : Fin 16, (UUID.hexDigit k).utf8Size = 1 := by decide
  have hchar : ∀ c ∈ digest.flatMap (fun byte => UUID.hexDigits 2 byte.toNat),
      (String.utf8EncodeChar c).length = 1 := by
    intro c hc
    obtain ⟨byte, -, hdigit⟩ := List.mem_flatMap.1 hc
    obtain ⟨k, rfl⟩ := UUID.mem_hexDigits hdigit
    rw [String.length_utf8EncodeChar, hsize]
  have hsum : ∀ chars : List Char, (∀ c ∈ chars, (String.utf8EncodeChar c).length = 1) →
      (chars.flatMap String.utf8EncodeChar).length = chars.length := by
    intro chars hchars
    induction chars with
    | nil => rfl
    | cons c rest ih =>
      rw [List.flatMap_cons, List.length_append, hchars c List.mem_cons_self,
        ih (fun d hd => hchars d (List.mem_cons_of_mem c hd)), List.length_cons]
      omega
  rw [Canonical.toUTF8_eq_flatMap, hexdigest, String.toList_ofList, hsum _ hchar,
    List.length_flatMap]
  simp [h]

/-- Blocks of one length can be told apart in their concatenation. -/
private theorem blocks_inj {α β : Type} {f g : α → List β} (length : Nat) (hpos : 0 < length)
    {xs ys : List α} (hf : ∀ x ∈ xs, (f x).length = length)
    (hg : ∀ y ∈ ys, (g y).length = length) (h : xs.flatMap f = ys.flatMap g) :
    xs.map f = ys.map g := by
  induction xs generalizing ys with
  | nil =>
    cases ys with
    | nil => rfl
    | cons y ys =>
      have hlength := congrArg List.length h
      rw [List.flatMap_cons, List.length_append, hg y List.mem_cons_self] at hlength
      simp only [List.flatMap_nil, List.length_nil] at hlength
      omega
  | cons x xs ih =>
    cases ys with
    | nil =>
      have hlength := congrArg List.length h
      rw [List.flatMap_cons, List.length_append, hf x List.mem_cons_self] at hlength
      simp only [List.flatMap_nil, List.length_nil] at hlength
      omega
    | cons y ys =>
      rw [List.flatMap_cons, List.flatMap_cons] at h
      obtain ⟨hfirst, hrest⟩ := List.append_inj h
        (by rw [hf x List.mem_cons_self, hg y List.mem_cons_self])
      rw [List.map_cons, List.map_cons, hfirst,
        ih (fun x hx => hf x (List.mem_cons_of_mem _ hx))
          (fun y hy => hg y (List.mem_cons_of_mem _ hy)) hrest]

/-! ## Buckets -/

theorem mem_bucketOf {hashes : List String} {index : Nat} {hash : String} :
    hash ∈ bucketOf hashes index ↔ hash ∈ hashes ∧ bucketForHash? hash = some index := by
  simp [bucketOf]

/-- A bucket depends on the set of its hashes only. -/
theorem bucketOf_congr {xs ys : List String} {index : Nat}
    (h : ∀ hash, bucketForHash? hash = some index → (hash ∈ xs ↔ hash ∈ ys)) :
    bucketOf xs index = bucketOf ys index := by
  have hperm : ((xs.filter (fun hash => bucketForHash? hash = some index)).dedup).Perm
      (ys.filter (fun hash => bucketForHash? hash = some index)).dedup := by
    refine (List.perm_ext_iff_of_nodup (List.nodup_dedup _) (List.nodup_dedup _)).2 ?_
    intro hash
    simp only [List.mem_dedup, List.mem_filter, decide_eq_true_eq]
    constructor
    · intro hmem
      exact ⟨(h hash hmem.2).1 hmem.1, hmem.2⟩
    · intro hmem
      exact ⟨(h hash hmem.2).2 hmem.1, hmem.2⟩
  have hsorted := (List.perm_insertionSort (· ≤ ·) _).trans
    (hperm.trans (List.perm_insertionSort (· ≤ ·) _).symm)
  exact hsorted.eq_of_pairwise' (List.pairwise_insertionSort (· ≤ ·) _)
    (List.pairwise_insertionSort (· ≤ ·) _)

/-- The hashes as a set, for the general theory of buckets. -/
abbrev hashSet (hashes : List String) : Set String := {hash | hash ∈ hashes}

theorem part_eq_iff {xs ys : List String} {index : Nat} :
    Buckets.part bucketForHash? (hashSet xs) index = Buckets.part bucketForHash? (hashSet ys) index ↔
      bucketOf xs index = bucketOf ys index := by
  constructor
  · intro h
    refine bucketOf_congr (fun hash hbucket => ?_)
    have hmem := Set.ext_iff.1 h hash
    simpa [hbucket] using hmem
  · intro h
    ext hash
    have hmem : hash ∈ bucketOf xs index ↔ hash ∈ bucketOf ys index := by rw [h]
    rw [mem_bucketOf, mem_bucketOf] at hmem
    exact hmem

/-- A hash that falls into a bucket has no line break. -/
private theorem newline_not_mem {hash : String} {index : Nat}
    (h : bucketForHash? hash = some index) : '\n' ∉ hash.toList := by
  have haux : ∀ encoded : List Char, (encoded.mapM Base58.charDigit?).isSome →
      '\n' ∉ encoded := by
    intro encoded
    induction encoded with
    | nil => simp
    | cons c rest ih =>
      intro hsome
      rw [List.mapM_cons] at hsome
      cases hdigit : Base58.charDigit? c with
      | none => simp [hdigit] at hsome
      | some digit =>
        cases hrest : rest.mapM Base58.charDigit? with
        | none => simp [hdigit, hrest] at hsome
        | some digits =>
          refine List.not_mem_cons_of_ne_of_not_mem (fun hc => ?_) (ih (by rw [hrest]; rfl))
          have hnone : Base58.charDigit? '\n' = none := by decide
          rw [← hc, hnone] at hdigit
          cases hdigit
  unfold bucketForHash? decodeMultibase? at h
  obtain ⟨decoded, hdecoded, -⟩ := Option.bind_eq_some_iff.1 h
  unfold decodeMultibaseChars? at hdecoded
  split at hdecoded
  · rename_i encoded hchars
    obtain ⟨digits, hdigits, -⟩ := Option.map_eq_some_iff.1 hdecoded
    rw [hchars]
    exact List.not_mem_cons_of_ne_of_not_mem (by decide) (haux encoded (by rw [hdigits]; rfl))
  · cases hdecoded

/-- What the digest of a bucket is computed from. -/
def bucketBody (bucket : List String) : Bytes := ("\n".intercalate bucket).toUTF8.toList

theorem bucketBody_inj {xs ys : List String} {i j : Nat} (hx : bucketOf xs i ≠ [])
    (hy : bucketOf ys j ≠ []) (h : bucketBody (bucketOf xs i) = bucketBody (bucketOf ys j)) :
    bucketOf xs i = bucketOf ys j := by
  have hlines : ∀ {zs : List String} {k : Nat}, bucketOf zs k ≠ [] →
      (("\n".intercalate (bucketOf zs k)).toList.splitOn '\n').map String.ofList =
        bucketOf zs k := by
    intro zs k hne
    have hchars : ("\n".intercalate (bucketOf zs k)).toList =
        ['\n'].intercalate ((bucketOf zs k).map String.toList) := by
      rw [String.toList_intercalate]
      rfl
    rw [hchars, List.splitOn_intercalate]
    · rw [List.map_map]
      exact (List.map_congr_left (fun s _ => String.ofList_toList)).trans (List.map_id _)
    · intro chars hmem
      obtain ⟨hash, hhash, rfl⟩ := List.mem_map.1 hmem
      exact newline_not_mem (mem_bucketOf.1 hhash).2
    · simpa using hne
  rw [← hlines hx, ← hlines hy, Canonical.toUTF8_inj h]

/-! ## The digests and the root -/

/-- The buckets that are not empty, in order. -/
def filledBuckets (hashes : List String) : List (List String) :=
  ((List.range bucketCount).map (bucketOf hashes)).filter (fun bucket => !bucket.isEmpty)

theorem mem_filledBuckets {hashes bucket : List String} :
    bucket ∈ filledBuckets hashes ↔
      (∃ i < bucketCount, bucketOf hashes i = bucket) ∧ bucket ≠ [] := by
  simp [filledBuckets]

theorem bucketForHash?_lt {hash : String} {index : Nat} (h : bucketForHash? hash = some index) :
    index < bucketCount := by
  obtain ⟨decoded, -, hhead⟩ := Option.bind_eq_some_iff.1 h
  obtain ⟨byte, -, rfl⟩ := Option.map_eq_some_iff.1 hhead
  exact byte.toNat_lt

/-- The bucket of a hash is filled. -/
theorem filled_of_mem {hashes : List String} {hash : String} {index : Nat}
    (hmem : hash ∈ hashes) (hbucket : bucketForHash? hash = some index) :
    bucketOf hashes index ∈ filledBuckets hashes := by
  have hin : hash ∈ bucketOf hashes index := mem_bucketOf.2 ⟨hmem, hbucket⟩
  exact mem_filledBuckets.2
    ⟨⟨index, bucketForHash?_lt hbucket, rfl⟩, List.ne_nil_of_mem hin⟩

section Digests

variable {host : Host}

/-- What the root is computed from. -/
def rootBody (host : Host) (hashes : List String) : Bytes :=
  ((List.range bucketCount).map (fun i => bucketDigest host (bucketOf hashes i))).flatMap
    (fun digest => (digest.getD "").toUTF8.toList)

/-- An empty bucket adds nothing to the root. -/
theorem rootBody_eq (hashes : List String) :
    rootBody host hashes = (filledBuckets hashes).flatMap
      (fun bucket => (hexdigest (host.sha256 (bucketBody bucket))).toUTF8.toList) := by
  have haux : ∀ indices : List Nat,
      (indices.map (fun i => bucketDigest host (bucketOf hashes i))).flatMap
          (fun digest => (digest.getD "").toUTF8.toList) =
        ((indices.map (bucketOf hashes)).filter (fun bucket => !bucket.isEmpty)).flatMap
          (fun bucket => (hexdigest (host.sha256 (bucketBody bucket))).toUTF8.toList) := by
    intro indices
    induction indices with
    | nil => rfl
    | cons i rest ih =>
      rw [List.map_cons, List.flatMap_cons, ih, List.map_cons, List.filter_cons]
      unfold bucketDigest
      by_cases hempty : (bucketOf hashes i).isEmpty
      · simp [hempty]
      · simp [hempty, bucketBody]
  exact haux _

/-- What the summary of these hashes hashes in turn. -/
def summaryInputs (host : Host) (hashes : List String) : List Bytes :=
  rootBody host hashes :: (filledBuckets hashes).map bucketBody

/-- SHA-256 does not collide on these inputs. -/
def CollisionFree (host : Host) (inputs : List Bytes) : Prop :=
  ∀ a ∈ inputs, ∀ b ∈ inputs, host.sha256 a = host.sha256 b → a = b

theorem CollisionFree.mono {inputs more : List Bytes} (h : CollisionFree host more)
    (hsub : ∀ data ∈ inputs, data ∈ more) : CollisionFree host inputs :=
  fun a ha b hb => h a (hsub a ha) b (hsub b hb)

variable {xs ys : List String}

private theorem bucket_eq_of_digest
    (hfree : CollisionFree host (summaryInputs host xs ++ summaryInputs host ys)) {i j : Nat}
    (hx : bucketOf xs i ∈ filledBuckets xs) (hy : bucketOf ys j ∈ filledBuckets ys)
    (h : hexdigest (host.sha256 (bucketBody (bucketOf xs i))) =
      hexdigest (host.sha256 (bucketBody (bucketOf ys j)))) :
    bucketOf xs i = bucketOf ys j := by
  have hbody := hfree _ (List.mem_append_left _ (List.mem_cons_of_mem _ (List.mem_map_of_mem hx)))
    _ (List.mem_append_right _ (List.mem_cons_of_mem _ (List.mem_map_of_mem hy)))
    (hexdigest_inj h)
  exact bucketBody_inj (mem_filledBuckets.1 hx).2 (mem_filledBuckets.1 hy).2 hbody

/-- Equal digests mean equal buckets. -/
theorem bucketDigest_inj
    (hfree : CollisionFree host (summaryInputs host xs ++ summaryInputs host ys)) {index : Nat}
    (hindex : index < bucketCount)
    (h : bucketDigest host (bucketOf xs index) = bucketDigest host (bucketOf ys index)) :
    bucketOf xs index = bucketOf ys index := by
  unfold bucketDigest at h
  split at h
  · rename_i hx
    split at h
    · rename_i hy
      rw [List.isEmpty_iff.1 hx, List.isEmpty_iff.1 hy]
    · cases h
  · rename_i hx
    split at h
    · cases h
    · rename_i hy
      have hfilled : ∀ {zs : List String}, ¬(bucketOf zs index).isEmpty →
          bucketOf zs index ∈ filledBuckets zs := by
        intro zs hne
        exact mem_filledBuckets.2 ⟨⟨index, hindex, rfl⟩, fun hnil => hne (by rw [hnil]; rfl)⟩
      exact bucket_eq_of_digest hfree (hfilled hx) (hfilled hy) (Option.some.inj h)

/-- Equal roots mean equal sets. -/
theorem root_inj (hlength : ∀ data, (host.sha256 data).length = 32)
    (hfree : CollisionFree host (summaryInputs host xs ++ summaryInputs host ys))
    (h : (summariseHashes host xs).root = (summariseHashes host ys).root)
    {hash : String} {index : Nat} (hmem : hash ∈ xs) (hbucket : bucketForHash? hash = some index) :
    hash ∈ ys := by
  have hbodies := hfree _ (List.mem_append_left _ List.mem_cons_self)
    _ (List.mem_append_right _ List.mem_cons_self) (hexdigest_inj h)
  rw [rootBody_eq, rootBody_eq] at hbodies
  have htexts := blocks_inj 64 (by omega)
    (fun bucket _ => length_hexdigest (hlength (bucketBody bucket)))
    (fun bucket _ => length_hexdigest (hlength (bucketBody bucket))) hbodies
  have hfilled := filled_of_mem hmem hbucket
  have htext := List.mem_map_of_mem (f := fun bucket =>
    (hexdigest (host.sha256 (bucketBody bucket))).toUTF8.toList) hfilled
  rw [htexts] at htext
  obtain ⟨bucket, hother, heq⟩ := List.mem_map.1 htext
  obtain ⟨⟨j, -, rfl⟩, -⟩ := mem_filledBuckets.1 hother
  have hsame := bucket_eq_of_digest hfree hfilled hother (Canonical.toUTF8_inj heq).symm
  have hin : hash ∈ bucketOf xs index := mem_bucketOf.2 ⟨hmem, hbucket⟩
  rw [hsame] at hin
  exact (mem_bucketOf.1 hin).1

private theorem bucketOf_eq (h : ∀ hash, hash ∈ xs ↔ hash ∈ ys) : bucketOf xs = bucketOf ys :=
  funext (fun _ => bucketOf_congr (fun hash _ => h hash))

/-- The summary of a set of hashes. -/
theorem summariseHashes_congr (h : ∀ hash, hash ∈ xs ↔ hash ∈ ys) :
    summariseHashes host xs = summariseHashes host ys := by
  unfold summariseHashes
  rw [bucketOf_eq h]

theorem summaryInputs_congr (h : ∀ hash, hash ∈ xs ↔ hash ∈ ys) :
    summaryInputs host xs = summaryInputs host ys := by
  unfold summaryInputs rootBody filledBuckets
  rw [bucketOf_eq h]

end Digests

end MassClaw
