import MassClaw.Identity.AgentFacts

/-!
# Resolving a DID, `app/identity/did_resolver.py`

`resolve` asks the local registry, the NANDA index and a well-known URL, in
that order, and takes the first document.  `_assert_integrity` accepts a
document when one of its credentials verifies under the key that the credential
names itself, and compares the provider with the expected DID only when there
are no credentials.

`resolve_authentic_iff` says which remote documents this lets through that
nothing ties to the expected DID.
-/

namespace MassClaw

/-- `ResolutionError`, by the check that raises it. -/
inductive ResolutionError
  | providerMalformed (error : MalformedDIDError)
  | noneVerified
  | providerMismatch (providerDid : Option String) (expectedDid : String)
  | schemaValidation (url exc : String)
  | unresolved (did reason : String)

/-- What `resolve` raises. -/
inductive ResolveFailure
  | malformedDid (error : MalformedDIDError)
  | resolution (error : ResolutionError)
  | canonicalization

/-- Where the document comes from. -/
inductive ResolvedSource
  | «local» | nandaIndex | wellKnown
  deriving DecidableEq

/-- `ResolvedAgent`. -/
structure ResolvedAgent where
  did : String
  agentFacts : AgentFacts
  source : ResolvedSource

/-- The sources that are configured, each with its answers: an exception, no
document, or a document; and `AgentFacts.model_validate`. -/
structure DIDResolver where
  localRegistry : Option (String → Except String (Option AgentFacts)) := none
  nandaIndex : Option (String → Except String (Option AgentFacts)) := none
  wellKnownFetcher : Option (String → Except String (Option Json)) := none
  modelValidate : Json → Except String AgentFacts

/-! ## The check of a document -/

variable (host : Host)

/-- The loop over the credentials; `none` is the `CanonicalizationError`. -/
def AgentFacts.anyVerifies (doc : AgentFacts) : List IntegrityCredential → Option Bool
  | [] => some false
  | credential :: rest =>
    match doc.verifyIntegrity host credential with
    | none => none
    | some true => some true
    | some false => doc.anyVerifies rest

/-- The second half of `_assert_integrity`: a credential that verifies, or the
provider. -/
def assertAnchored (doc : AgentFacts) (expectedDid : String) : Except ResolveFailure Unit :=
  if doc.verifiableCredentials.isEmpty then
    if doc.provider.did = some expectedDid then .ok ()
    else .error (.resolution (.providerMismatch doc.provider.did expectedDid))
  else
    match doc.anyVerifies host doc.verifiableCredentials with
    | none => .error .canonicalization
    | some true => .ok ()
    | some false => .error (.resolution .noneVerified)

/-- `_assert_integrity`. -/
def assertIntegrity (doc : AgentFacts) (expectedDid : String) : Except ResolveFailure Unit :=
  match doc.provider.did with
  | none => assertAnchored host doc expectedDid
  | some providerDid =>
    match parseDid providerDid with
    | .error error => .error (.resolution (.providerMalformed error))
    | .ok _ => assertAnchored host doc expectedDid

/-! ## The three sources -/

namespace DIDResolver

/-- A document that was found is checked and returned. -/
def accept (did : String) (source : ResolvedSource) (doc : AgentFacts) :
    Except ResolveFailure ResolvedAgent :=
  match assertIntegrity host doc did with
  | .error failure => .error failure
  | .ok () => .ok { did, agentFacts := doc, source }

/-- One source, with the errors of those before it: an exception is noted, and
without a document the next one is asked. -/
def consult {α : Type} (label : String) (answer : Option (Except String (Option α)))
    (found : α → Except ResolveFailure ResolvedAgent)
    (next : List String → Except ResolveFailure ResolvedAgent) (errors : List String) :
    Except ResolveFailure ResolvedAgent :=
  match answer with
  | some (.ok (some doc)) => found doc
  | some (.error exc) => next (errors ++ [label ++ ": " ++ exc])
  | _ => next errors

variable (resolver : DIDResolver) (did : String) (usernameHint wellKnownUrlHint : Option String)

/-- The answer of the local registry. -/
def localAnswer : Option (Except String (Option AgentFacts)) :=
  resolver.localRegistry.map (fun lookup => lookup did)

/-- The answer of the index, when there is a username to ask for. -/
def indexAnswer : Option (Except String (Option AgentFacts)) :=
  resolver.nandaIndex.bind (fun lookup => usernameHint.map lookup)

/-- The answer of the well-known URL, when there is one. -/
def wellKnownAnswer : Option (Except String (Option Json)) :=
  resolver.wellKnownFetcher.bind (fun fetch => wellKnownUrlHint.map fetch)

/-- The document of a well-known URL is validated first. -/
def acceptRaw (raw : Json) : Except ResolveFailure ResolvedAgent :=
  match resolver.modelValidate raw with
  | .error exc => .error (.resolution (.schemaValidation (wellKnownUrlHint.getD "") exc))
  | .ok doc => accept host did .wellKnown doc

/-- `resolve`. -/
def resolve : Except ResolveFailure ResolvedAgent :=
  match parseDid did with
  | .error error => .error (.malformedDid error)
  | .ok _ =>
    consult "local" (resolver.localAnswer did) (accept host did .local)
      (consult "nanda_index" (resolver.indexAnswer usernameHint) (accept host did .nandaIndex)
        (consult "well_known" (resolver.wellKnownAnswer wellKnownUrlHint)
          (resolver.acceptRaw host did wellKnownUrlHint)
          (fun errors => .error (.resolution (.unresolved did
            (if errors.isEmpty then "no resolver returned a document"
             else String.intercalate "; " errors)))))) []

/-! ## What should hold, and when -/

/-- A document is tied to the DID: one of its credentials verifies under the key
that the DID embeds, or it has none and the DID is its provider. -/
def Authentic (doc : AgentFacts) : Prop :=
  (∃ credential ∈ doc.verifiableCredentials, ∃ key, publicKeyForDid did = .ok (some key) ∧
    doc.verifiesUnder host credential key = true) ∨
  (doc.verifiableCredentials = [] ∧ doc.provider.did = some did)

/-- The document of an answer. -/
def found? {α : Type} : Option (Except String (Option α)) → Option α
  | some (.ok doc) => doc
  | _ => none

/-- The remote document that `resolve` comes to. -/
def remoteDocument? : Option AgentFacts :=
  match found? (resolver.localAnswer did) with
  | some _ => none
  | none =>
    match found? (resolver.indexAnswer usernameHint) with
    | some doc => some doc
    | none => (found? (resolver.wellKnownAnswer wellKnownUrlHint)).bind
        (fun raw => (resolver.modelValidate raw).toOption)

/-- A document vouches for itself: its provider has no DID or a well-formed one,
and a credential verifies under the key that it names itself. -/
def VouchesForItself (doc : AgentFacts) : Prop :=
  (∀ providerDid ∈ doc.provider.did, ∃ parsed, parseDid providerDid = .ok parsed) ∧
    ∃ credential ∈ doc.verifiableCredentials, doc.verifyIntegrity host credential = some true

end DIDResolver

/-! ## The check, exactly -/

section Check

variable {host} {doc : AgentFacts}

/-- The loop ends with a credential that verifies exactly when there is one:
a body that cannot be canonicalised lets none verify. -/
theorem anyVerifies_iff (credentials : List IntegrityCredential) :
    doc.anyVerifies host credentials = some true ↔
      ∃ credential ∈ credentials, doc.verifyIntegrity host credential = some true := by
  induction credentials with
  | nil => simp [AgentFacts.anyVerifies]
  | cons credential rest ih =>
    unfold AgentFacts.anyVerifies
    cases hverify : doc.verifyIntegrity host credential with
    | none =>
      have hnone : ∀ other ∈ rest, doc.verifyIntegrity host other ≠ some true := by
        intro other _ hother
        have hsome := AgentFacts.verifyIntegrity_isSome
          (AgentFacts.signableBytes_of_verify hother) credential
        rw [hverify] at hsome
        cases hsome
      simp only [List.mem_cons, exists_eq_or_imp, hverify, reduceCtorEq, false_or, false_iff,
        not_exists, not_and]
      exact hnone
    | some verified =>
      cases verified with
      | false =>
        simp only [List.mem_cons, exists_eq_or_imp, hverify, Option.some.injEq,
          Bool.false_eq_true, false_or]
        exact ih
      | true => simp [hverify]

theorem assertAnchored_iff {expectedDid : String} :
    assertAnchored host doc expectedDid = .ok () ↔
      (∃ credential ∈ doc.verifiableCredentials, doc.verifyIntegrity host credential = some true) ∨
        (doc.verifiableCredentials = [] ∧ doc.provider.did = some expectedDid) := by
  unfold assertAnchored
  cases hcredentials : doc.verifiableCredentials with
  | nil =>
    by_cases hprovider : doc.provider.did = some expectedDid
    · simp [hprovider]
    · simp [hprovider]
  | cons first rest =>
    have hloop : doc.anyVerifies host (first :: rest) = some true ↔
        ∃ credential ∈ first :: rest, doc.verifyIntegrity host credential = some true :=
      anyVerifies_iff (first :: rest)
    simp only [List.isEmpty_cons, Bool.false_eq_true, if_false, reduceCtorEq, false_and, or_false]
    rw [← hloop]
    cases doc.anyVerifies host (first :: rest) with
    | none => simp
    | some verified => cases verified <;> simp

/-- `_assert_integrity` accepts exactly the documents that vouch for themselves
and those without credentials whose provider is the expected DID. -/
theorem assertIntegrity_iff {expectedDid : String} {parsed : ParsedDID}
    (hparsed : parseDid expectedDid = .ok parsed) :
    assertIntegrity host doc expectedDid = .ok () ↔
      DIDResolver.VouchesForItself host doc ∨
        (doc.verifiableCredentials = [] ∧ doc.provider.did = some expectedDid) := by
  unfold assertIntegrity DIDResolver.VouchesForItself
  cases hprovider : doc.provider.did with
  | none =>
    dsimp only
    rw [assertAnchored_iff, hprovider]
    simp
  | some providerDid =>
    dsimp only
    cases hprovided : parseDid providerDid with
    | ok provided =>
      dsimp only
      rw [assertAnchored_iff, hprovider]
      simp [hprovided]
    | error error =>
      have hother : providerDid ≠ expectedDid := by
        intro hsame
        rw [hsame, hparsed] at hprovided
        cases hprovided
      simp [hprovided, hother]

end Check

namespace DIDResolver

section Resolve

variable {host} {resolver : DIDResolver} {did : String}
  {usernameHint wellKnownUrlHint : Option String}

theorem accept_iff {source : ResolvedSource} {doc : AgentFacts} {resolved : ResolvedAgent} :
    accept host did source doc = .ok resolved ↔
      assertIntegrity host doc did = .ok () ∧
        resolved = { did, agentFacts := doc, source } := by
  unfold accept
  cases assertIntegrity host doc did with
  | error failure => simp
  | ok =>
    simp only [Except.ok.injEq, true_and]
    exact eq_comm

/-- A remote source returns the document that it has found, checked. -/
theorem accept_remote_iff {source : ResolvedSource} (hremote : source ≠ .local)
    {found doc : AgentFacts} :
    (∃ resolved, accept host did source found = .ok resolved ∧ resolved.source ≠ .local ∧
      resolved.agentFacts = doc) ↔ found = doc ∧ assertIntegrity host doc did = .ok () := by
  simp only [accept_iff]
  constructor
  · rintro ⟨resolved, ⟨hchecked, rfl⟩, -, rfl⟩
    exact ⟨rfl, hchecked⟩
  · rintro ⟨rfl, hchecked⟩
    exact ⟨_, ⟨hchecked, rfl⟩, hremote, rfl⟩

/-- What `consult` returns was found here, or by a later source. -/
theorem consult_cases {α : Type} (label : String) (answer : Option (Except String (Option α)))
    (found : α → Except ResolveFailure ResolvedAgent)
    (next : List String → Except ResolveFailure ResolvedAgent) (errors : List String) :
    (∃ doc, found? answer = some doc ∧ consult label answer found next errors = found doc) ∨
      (found? answer = none ∧ ∃ noted, consult label answer found next errors = next noted) := by
  unfold consult
  split
  · rename_i doc
    exact Or.inl ⟨doc, rfl, rfl⟩
  · exact Or.inr ⟨rfl, _, rfl⟩
  · rename_i hnot hnotError
    refine Or.inr ⟨?_, _, rfl⟩
    cases answer with
    | none => rfl
    | some outcome =>
      cases outcome with
      | error exc => exact absurd rfl (hnotError exc)
      | ok doc =>
        cases doc with
        | none => rfl
        | some doc => exact absurd rfl (hnot doc)

/-- The remote documents that `resolve` returns are those that it comes to and
that pass the check. -/
theorem resolve_remote_iff {doc : AgentFacts} :
    (∃ resolved, resolve host resolver did usernameHint wellKnownUrlHint = .ok resolved ∧
      resolved.source ≠ .local ∧ resolved.agentFacts = doc) ↔
    (∃ parsed, parseDid did = .ok parsed) ∧
      resolver.remoteDocument? did usernameHint wellKnownUrlHint = some doc ∧
      assertIntegrity host doc did = .ok () := by
  unfold resolve remoteDocument?
  cases hparsed : parseDid did with
  | error error => simp
  | ok parsed =>
    dsimp only
    -- the sources in their order: each returns its document or leaves it to the next
    rcases consult_cases "local" (resolver.localAnswer did) (accept host did .local) _ [] with
      ⟨found, hfound, heq⟩ | ⟨hnone, noted, heq⟩
    · rw [heq, hfound]
      simp only [accept_iff, reduceCtorEq, false_and, and_false, iff_false, not_exists, not_and]
      intro resolved hresolved hremote
      exact absurd (congrArg ResolvedAgent.source hresolved.2) hremote
    rw [heq, hnone]
    dsimp only
    rcases consult_cases "nanda_index" (resolver.indexAnswer usernameHint)
      (accept host did .nandaIndex) _ noted with ⟨found, hfound, heq⟩ | ⟨hnone, noted, heq⟩
    · rw [heq, hfound]
      dsimp only
      rw [accept_remote_iff (by decide)]
      simp
    rw [heq, hnone]
    dsimp only
    rcases consult_cases "well_known" (resolver.wellKnownAnswer wellKnownUrlHint)
      (resolver.acceptRaw host did wellKnownUrlHint) _ noted with
      ⟨raw, hfound, heq⟩ | ⟨hnone, noted, heq⟩
    · rw [heq, hfound, Option.bind_some]
      unfold acceptRaw
      cases resolver.modelValidate raw with
      | error exc => simp [Except.toOption]
      | ok found =>
        dsimp only
        rw [accept_remote_iff (by decide)]
        simp [Except.toOption]
    · rw [heq, hnone]
      simp

end Resolve

/-- Every remote document that `resolve` returns is tied to the DID exactly when
the remote document that it comes to does not merely vouch for itself. -/
theorem resolve_authentic_iff (resolver : DIDResolver) (did : String)
    (usernameHint wellKnownUrlHint : Option String) :
    (∀ resolved, resolve host resolver did usernameHint wellKnownUrlHint = .ok resolved →
      resolved.source ≠ .local → Authentic host did resolved.agentFacts) ↔
    ∀ parsed doc, parseDid did = .ok parsed →
      resolver.remoteDocument? did usernameHint wellKnownUrlHint = some doc →
      VouchesForItself host doc →
      ∃ credential ∈ doc.verifiableCredentials, ∃ key, publicKeyForDid did = .ok (some key) ∧
        doc.verifiesUnder host credential key = true := by
  constructor
  · intro hauthentic parsed doc hparsed hremote hvouches
    obtain ⟨resolved, hresolved, hsource, hdoc⟩ := resolve_remote_iff.2
      ⟨⟨parsed, hparsed⟩, hremote, (assertIntegrity_iff hparsed).2 (Or.inl hvouches)⟩
    have htied := hauthentic resolved hresolved hsource
    rw [hdoc] at htied
    rcases htied with hcredential | hnone
    · exact hcredential
    · obtain ⟨credential, hmem, -⟩ := hvouches.2
      rw [hnone.1] at hmem
      cases hmem
  · intro hcondition resolved hresolved hsource
    obtain ⟨⟨parsed, hparsed⟩, hremote, hchecked⟩ :=
      resolve_remote_iff.1 ⟨resolved, hresolved, hsource, rfl⟩
    rcases (assertIntegrity_iff hparsed).1 hchecked with hvouches | hprovider
    · exact Or.inl (hcondition parsed _ hparsed hremote hvouches)
    · exact Or.inr hprovider

/-! ## A document about another agent -/

namespace ResolverExample

/-- The DID that is resolved. -/
def did : String := "did:nanda:z11111111111111111111111111111111"

/-- The DID of another agent. -/
def otherDid : String := "did:nanda:z11111111111111111111111111111112"

/-- The document of the other agent, signed by it. -/
def otherDoc : AgentFacts where
  id := "urn:agent:other"
  agentName := "urn:agent:other"
  label := "Other"
  description := "Another agent"
  version := "1.0.0"
  provider := { name := "Other", url := "https://other.example", did := some otherDid }
  endpoints := {}
  capabilities := {}
  verifiableCredentials :=
    [{ issuer := otherDid, issued := "2026-01-01T00:00:00Z"
       proof :=
        { created := "2026-01-01T00:00:00Z", verificationMethod := otherDid ++ "#ed25519"
          proofValue := "z11111111111111111111111111111112" } }]

/-- An index that returns it. -/
def resolver : DIDResolver where
  nandaIndex := some (fun _ => .ok (some otherDoc))
  modelValidate _ := .error "not called"

end ResolverExample

open ResolverExample in
/-- The document of the other agent is returned for the DID, and nothing ties
it to the DID. -/
theorem resolve_authentic_fails :
    ∃ resolved, resolve Host.lengths resolver did (some "alpha") none = .ok resolved ∧
      resolved.source ≠ .local ∧ ¬Authentic Host.lengths did resolved.agentFacts := by
  have hparsed : parseDid did =
      .ok { method := "nanda".toList, identifier := "z11111111111111111111111111111111".toList } := by
    decide +kernel
  have hother : parseDid otherDid =
      .ok { method := "nanda".toList, identifier := "z11111111111111111111111111111112".toList } := by
    decide +kernel
  have hkey : publicKeyForDid did = .ok (some (List.replicate 32 0)) := by decide +kernel
  have hvouches : VouchesForItself Host.lengths otherDoc := by
    refine ⟨fun providerDid hprovider => ?_, _, List.mem_singleton_self _, by decide +kernel⟩
    cases hprovider
    exact ⟨_, hother⟩
  have hchecked := (assertIntegrity_iff hparsed).2 (Or.inl hvouches)
  obtain ⟨resolved, hresolved, hremote, hdoc⟩ := resolve_remote_iff.2
    ⟨⟨_, hparsed⟩, (rfl : resolver.remoteDocument? did (some "alpha") none = some otherDoc), hchecked⟩
  refine ⟨resolved, hresolved, hremote, ?_⟩
  rw [hdoc]
  intro htied
  rcases htied with ⟨credential, hmem, key, hembedded, hverifies⟩ | ⟨hnone, -⟩
  · rw [hkey] at hembedded
    cases hembedded
    rw [List.mem_singleton.1 hmem] at hverifies
    revert hverifies
    decide +kernel
  · cases hnone

end DIDResolver

end MassClaw
