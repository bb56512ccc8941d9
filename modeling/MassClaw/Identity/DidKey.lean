import MassClaw.Identity.Multibase
import MassClaw.Lib.Outcome

/-!
# DIDs that embed a key, `app/identity/did.py`

A `did:key` or `did:nanda` is a method name and the multibase text of a key,
for `did:key` behind a multicodec header.  Since an accepted multibase text is
the only one of its bytes, a key has one DID of each method; the method name
may be spelled in any case, and `parse_did` folds it.
-/

namespace MassClaw

/-! ## Parsing -/

theorem ParsedDID.toList_asStr (parsed : ParsedDID) :
    parsed.asStr.toList = "did:".toList ++ parsed.method ++ ':' :: parsed.identifier :=
  String.toList_ofList

/-- A method name without a colon ends where the identifier begins. -/
theorem parseDid_asStr {parsed : ParsedDID} (hcolon : ':' ∉ parsed.method)
    (hmethod : parsed.method ≠ []) (hidentifier : parsed.identifier ≠ []) :
    parseDid parsed.asStr = .ok { parsed with method := parsed.method.map lowerChar } := by
  have hmethodChars : ∀ ch ∈ parsed.method, (ch != ':') = true := by
    intro ch hch
    simpa using fun heq : ch = ':' => hcolon (heq ▸ hch)
  have htake : (parsed.method ++ ':' :: parsed.identifier).takeWhile (· != ':') =
      parsed.method := by
    rw [List.takeWhile_append_of_pos hmethodChars, List.takeWhile_cons_of_neg (by simp),
      List.append_nil]
  have hdrop : (parsed.method ++ ':' :: parsed.identifier).dropWhile (· != ':') =
      ':' :: parsed.identifier := by
    rw [List.dropWhile_append_of_pos hmethodChars, List.dropWhile_cons_of_neg (by simp)]
  have hchars : parsed.asStr.toList =
      'd' :: 'i' :: 'd' :: ':' :: (parsed.method ++ ':' :: parsed.identifier) := by
    rw [ParsedDID.toList_asStr]
    rfl
  unfold parseDid
  rw [hchars]
  simp only [hdrop, htake]
  rw [if_neg]
  simp [hmethod, hidentifier]

/-! ## A method that embeds a key -/

/-- The builder and the decoder of a method. -/
structure DidMethod where
  build : Bytes → Except MalformedDIDError String
  decode : String → Except MalformedDIDError Bytes

/-- `build_did_key` and `decode_did_key`. -/
def didKey : DidMethod := ⟨buildDidKey, decodeDidKey⟩

/-- `build_did_nanda` and `decode_did_nanda`. -/
def didNanda : DidMethod := ⟨buildDidNanda, decodeDidNanda⟩

/-- A key is read back from its DID, and an accepted DID is the one of its key,
up to the case of the method name. -/
structure DidMethod.Canonical (method : DidMethod) : Prop where
  decode_build : ∀ key : Bytes, key.length = 32 →
    ∃ did, method.build key = .ok did ∧ method.decode did = .ok key
  build_decode : ∀ did key, method.decode did = .ok key →
    ∃ parsed, parseDid did = .ok parsed ∧ method.build key = .ok parsed.asStr

/-- The DID of a method name and some bytes. -/
def embeddingDid (method : String) (raw : Bytes) : ParsedDID :=
  { method := method.toList, identifier := (encodeMultibase raw).toList }

theorem identifier_ne_nil (method : String) (raw : Bytes) :
    (embeddingDid method raw).identifier ≠ [] := by
  show (encodeMultibase raw).toList ≠ []
  rw [encodeMultibase, String.toList_ofList]
  exact List.cons_ne_nil _ _

/-- The identifier decodes to the bytes, and no other one does. -/
theorem decodeMultibaseChars?_eq_some {identifier : List Char} {raw : Bytes} :
    decodeMultibaseChars? identifier = some raw ↔ identifier = (encodeMultibase raw).toList := by
  have hexact := multibase_exact raw (String.ofList identifier)
  rw [decodeMultibase?, String.toList_ofList] at hexact
  rw [hexact]
  constructor
  · intro h
    rw [h, String.toList_ofList]
  · intro h
    rw [h, String.ofList_toList]

/-! ## The decoders -/

/-- What both decoders do first: the method is checked and the identifier is
decoded. -/
def embeddedBytes (method did : String) : Except MalformedDIDError (Option Bytes) := do
  let parsed ← parseDid did
  if parsed.method ≠ method.toList then throw (.wrongMethod method.toList parsed.method)
  return decodeMultibaseChars? parsed.identifier

/-- What `decode_did_key` makes of the bytes. -/
def didKeyBody : Option Bytes → Except MalformedDIDError Bytes
  | none => .error .undecodable
  | some (0xed :: 0x01 :: body) =>
    if body.length ≠ 32 then .error (.badLength body.length) else .ok body
  | some _ => .error .badMulticodec

/-- What `decode_did_nanda` makes of the bytes. -/
def didNandaBody : Option Bytes → Except MalformedDIDError Bytes
  | none => .error .undecodable
  | some body => if body.length ≠ 32 then .error (.badLength body.length) else .ok body

section Decoders

variable {did : String} {key : Bytes}

theorem decodeDidKey_eq : decodeDidKey did = embeddedBytes "key" did >>= didKeyBody := by
  unfold decodeDidKey embeddedBytes
  cases parseDid did with
  | error error => rfl
  | ok parsed =>
    by_cases hmethod : parsed.method = "key".toList
    · simp only [hmethod, bind, Except.bind, pure, Except.pure]
      rfl
    · simp only [bind, Except.bind, if_pos hmethod]
      rfl

theorem decodeDidNanda_eq : decodeDidNanda did = embeddedBytes "nanda" did >>= didNandaBody := by
  unfold decodeDidNanda embeddedBytes
  cases parseDid did with
  | error error => rfl
  | ok parsed =>
    by_cases hmethod : parsed.method = "nanda".toList
    · simp only [hmethod, bind, Except.bind, pure, Except.pure]
      rfl
    · simp only [bind, Except.bind, if_pos hmethod]
      rfl

theorem embeddedBytes_eq_ok {method : String} {raw : Bytes} :
    embeddedBytes method did = .ok (some raw) ↔ parseDid did = .ok (embeddingDid method raw) := by
  unfold embeddedBytes
  constructor
  · intro h
    obtain ⟨⟨name, identifier⟩, hparsed, h⟩ := Outcome.bind_eq_ok h
    by_cases hname : name = method.toList
    · subst hname
      rw [if_neg (not_not_intro rfl)] at h
      have hraw : decodeMultibaseChars? identifier = some raw := Except.ok.inj h
      rw [hparsed, decodeMultibaseChars?_eq_some.1 hraw]
      rfl
    · rw [if_pos hname] at h
      cases h
  · intro hparsed
    have hname : (embeddingDid method raw).method = method.toList := rfl
    have hraw : decodeMultibaseChars? (embeddingDid method raw).identifier = some raw :=
      decodeMultibaseChars?_eq_some.2 rfl
    rw [hparsed]
    simp only [bind, Except.bind, pure, Except.pure]
    rw [if_neg (not_not_intro hname), hraw]

theorem didKeyBody_eq_ok {read : Option Bytes} : didKeyBody read = .ok key ↔
    key.length = 32 ∧ read = some (ed25519MulticodecPrefix ++ key) := by
  constructor
  · intro h
    unfold didKeyBody at h
    split at h
    · cases h
    · split at h
      · cases h
      · rename_i hlength
        cases h
        exact ⟨not_not.1 hlength, rfl⟩
    · cases h
  · intro ⟨hlength, hread⟩
    subst hread
    exact if_neg (not_not_intro hlength)

theorem didNandaBody_eq_ok {read : Option Bytes} : didNandaBody read = .ok key ↔
    key.length = 32 ∧ read = some key := by
  constructor
  · intro h
    unfold didNandaBody at h
    split at h
    · cases h
    · split at h
      · cases h
      · rename_i hlength
        cases h
        exact ⟨not_not.1 hlength, rfl⟩
  · intro ⟨hlength, hread⟩
    subst hread
    exact if_neg (not_not_intro hlength)

/-- `decode_did_key` accepts the identifiers of keys behind the header. -/
theorem decodeDidKey_eq_ok : decodeDidKey did = .ok key ↔ key.length = 32 ∧
    parseDid did = .ok (embeddingDid "key" (ed25519MulticodecPrefix ++ key)) := by
  rw [decodeDidKey_eq, ← embeddedBytes_eq_ok]
  constructor
  · intro h
    obtain ⟨read, hread, hbody⟩ := Outcome.bind_eq_ok h
    obtain ⟨hlength, rfl⟩ := didKeyBody_eq_ok.1 hbody
    exact ⟨hlength, hread⟩
  · intro ⟨hlength, hread⟩
    rw [hread]
    exact didKeyBody_eq_ok.2 ⟨hlength, rfl⟩

/-- `decode_did_nanda` accepts the identifiers of keys. -/
theorem decodeDidNanda_eq_ok : decodeDidNanda did = .ok key ↔ key.length = 32 ∧
    parseDid did = .ok (embeddingDid "nanda" key) := by
  rw [decodeDidNanda_eq, ← embeddedBytes_eq_ok]
  constructor
  · intro h
    obtain ⟨read, hread, hbody⟩ := Outcome.bind_eq_ok h
    obtain ⟨hlength, rfl⟩ := didNandaBody_eq_ok.1 hbody
    exact ⟨hlength, hread⟩
  · intro ⟨hlength, hread⟩
    rw [hread]
    exact didNandaBody_eq_ok.2 ⟨hlength, rfl⟩

end Decoders

/-! ## The two laws -/

/-- The DID that is built parses to what it was built from. -/
theorem parseDid_embeddingDid {name : String} (hcolon : ':' ∉ name.toList)
    (hname : name.toList ≠ []) (hlower : name.toList.map lowerChar = name.toList) (raw : Bytes) :
    parseDid (embeddingDid name raw).asStr = .ok (embeddingDid name raw) := by
  rw [parseDid_asStr hcolon hname (identifier_ne_nil name raw)]
  show Except.ok (ParsedDID.mk (name.toList.map lowerChar) _) = _
  rw [hlower]
  rfl

/-- A method is canonical if it builds the DID of some bytes that depend on the
key, and accepts the identifiers of these bytes only. -/
theorem DidMethod.canonical_of_embedding {method : DidMethod} {name : String}
    {raw : Bytes → Bytes}
    (hbuild : ∀ key : Bytes, key.length = 32 →
      method.build key = .ok (embeddingDid name (raw key)).asStr)
    (hdecode : ∀ did key, method.decode did = .ok key ↔ key.length = 32 ∧
      parseDid did = .ok (embeddingDid name (raw key)))
    (hparse : ∀ key, parseDid (embeddingDid name (raw key)).asStr =
      .ok (embeddingDid name (raw key))) : method.Canonical where
  decode_build := by
    intro key hlength
    exact ⟨_, hbuild key hlength, (hdecode _ key).2 ⟨hlength, hparse key⟩⟩
  build_decode := by
    intro did key h
    obtain ⟨hlength, hparsed⟩ := (hdecode did key).1 h
    exact ⟨_, hparsed, hbuild key hlength⟩

/-- The text of a DID, piece by piece. -/
theorem asStr_embeddingDid (name : String) (raw : Bytes) :
    (embeddingDid name raw).asStr = "did:" ++ name ++ ":" ++ encodeMultibase raw := by
  apply String.toList_injective
  rw [ParsedDID.toList_asStr]
  simp [embeddingDid]

/-- A key and its DID determine each other, for `did:key` and for `did:nanda`. -/
theorem didMethods_canonical : didKey.Canonical ∧ didNanda.Canonical := by
  constructor
  · refine DidMethod.canonical_of_embedding (fun key hlength => ?_)
      (fun did key => decodeDidKey_eq_ok)
      (fun key => parseDid_embeddingDid (by decide) (by decide) (by decide) _)
    show buildDidKey key = _
    rw [buildDidKey, if_neg (not_not_intro hlength), asStr_embeddingDid]
    rfl
  · refine DidMethod.canonical_of_embedding (fun key hlength => ?_)
      (fun did key => decodeDidNanda_eq_ok)
      (fun key => parseDid_embeddingDid (by decide) (by decide) (by decide) _)
    show buildDidNanda key = _
    rw [buildDidNanda, if_neg (not_not_intro hlength), asStr_embeddingDid]
    rfl

/-- The DID of a key yields the key. -/
theorem publicKeyForDid_buildDidKey {did : String} {key : Bytes}
    (h : buildDidKey key = .ok did) : publicKeyForDid did = .ok (some key) := by
  have hlength : key.length = 32 := by
    unfold buildDidKey at h
    split at h
    · cases h
    · rename_i hlength
      exact not_not.1 hlength
  have hparsed : parseDid did =
      .ok (embeddingDid "key" (ed25519MulticodecPrefix ++ key)) := by
    rw [buildDidKey, if_neg (not_not_intro hlength)] at h
    cases h
    have hkey : ':' ∉ "key".toList ∧ "key".toList ≠ [] ∧
        "key".toList.map lowerChar = "key".toList := by decide
    have hparse := parseDid_embeddingDid hkey.1 hkey.2.1 hkey.2.2 (ed25519MulticodecPrefix ++ key)
    rw [asStr_embeddingDid] at hparse
    exact hparse
  have hdecoded : decodeDidKey did = .ok key := decodeDidKey_eq_ok.2 ⟨hlength, hparsed⟩
  have hmethod : (embeddingDid "key" (ed25519MulticodecPrefix ++ key)).method = "key".toList := rfl
  unfold publicKeyForDid
  rw [hparsed]
  dsimp only [bind, Except.bind]
  rw [if_pos hmethod, hdecoded]
  rfl

end MassClaw
