import MassClaw.Core.Json
import MassClaw.Identity.Canonicalize
import MassClaw.Identity.Did

/-!
# AgentFacts documents, `app/identity/agent_facts.py`

The document that describes an agent, the body of it that a credential signs,
and the verification of a credential.  A credential names the key that it is to
be verified with; `verifiesUnder` is the same verification under a key that the
caller chooses.

The validation that builds a document from JSON is a parameter of the resolver.
-/

namespace MassClaw

/-! ## The document -/

structure Provider where
  name : String
  url : String
  did : Option String := none

structure Endpoints where
  static : List String := []
  adaptiveResolver : Option (List (String × Json)) := none

structure CapabilityAuthentication where
  methods : List String := []

structure Capabilities where
  modalities : List String := []
  authentication : CapabilityAuthentication := {}

structure Skill where
  id : String
  description : String
  inputModes : List String := []
  outputModes : List String := []
  supportedLanguages : Option (List String) := none
  latencyBudgetMs : Option Int := none
  maxTokens : Option Int := none

structure Certification where
  level : String
  issuer : Option String := none
  issuedAt : Option String := none
  validUntil : Option String := none

structure TelemetryMetrics where
  throughputRps : Option PyFloat := none
  availability : Option PyFloat := none
  latencyP95Ms : Option PyFloat := none

structure Telemetry where
  metrics : TelemetryMetrics := {}

/-- `INTEGRITY_PROOF_TYPE`. -/
def integrityProofType : String := "DataIntegrityProof"

/-- `INTEGRITY_CRYPTOSUITE`. -/
def integrityCryptosuite : String := "eddsa-rdfc-2022"

/-- `INTEGRITY_CREDENTIAL_TYPE`. -/
def integrityCredentialType : String := "AgentFactsIntegrityCredential"

structure IntegrityProof where
  type : String := integrityProofType
  cryptosuite : String := integrityCryptosuite
  created : String
  verificationMethod : String
  proofPurpose : String := "assertionMethod"
  proofValue : String

structure IntegrityCredential where
  type : List String := [integrityCredentialType]
  issuer : String
  issued : String
  proof : IntegrityProof

structure AgentFactsExtensions where
  exampleRequests : List (List (String × Json)) := []
  errorSchema : Option (List (String × Json)) := none
  limits : Option (List (String × Json)) := none
  nandaIndexHandle : Option String := none

/-- The full document. -/
structure AgentFacts where
  id : String
  agentName : String
  label : String
  description : String
  version : String
  provider : Provider
  endpoints : Endpoints
  capabilities : Capabilities
  skills : List Skill := []
  documentationUrl : Option String := none
  jurisdiction : Option String := none
  certification : Option Certification := none
  telemetry : Option Telemetry := none
  evaluations : Option (List (List (String × Json))) := none
  verifiableCredentials : List IntegrityCredential := []
  xMassclaw : Option AgentFactsExtensions := none

/-! ## `model_dump(by_alias=True, exclude_none=True)` -/

namespace ModelDump

/-- A field that may be `None`, and is left out then. -/
def optional {α : Type} (key : String) (dump : α → Json) : Option α → List (String × Json)
  | none => []
  | some value => [(key, dump value)]

/-- A list of texts. -/
def strings (items : List String) : Json := .list (items.map .str)

end ModelDump

open ModelDump

def Provider.modelDump (provider : Provider) : Json :=
  .dict ([("name", .str provider.name), ("url", .str provider.url)] ++
    optional "did" .str provider.did)

def Endpoints.modelDump (endpoints : Endpoints) : Json :=
  .dict ([("static", strings endpoints.static)] ++
    optional "adaptive_resolver" .dict endpoints.adaptiveResolver)

def Capabilities.modelDump (capabilities : Capabilities) : Json :=
  .dict [("modalities", strings capabilities.modalities),
    ("authentication", .dict [("methods", strings capabilities.authentication.methods)])]

def Skill.modelDump (skill : Skill) : Json :=
  .dict ([("id", .str skill.id), ("description", .str skill.description),
      ("inputModes", strings skill.inputModes), ("outputModes", strings skill.outputModes)] ++
    optional "supportedLanguages" strings skill.supportedLanguages ++
    optional "latencyBudgetMs" .int skill.latencyBudgetMs ++
    optional "maxTokens" .int skill.maxTokens)

def Certification.modelDump (certification : Certification) : Json :=
  .dict ([("level", .str certification.level)] ++ optional "issuer" .str certification.issuer ++
    optional "issuedAt" .str certification.issuedAt ++
    optional "validUntil" .str certification.validUntil)

def Telemetry.modelDump (telemetry : Telemetry) : Json :=
  .dict [("metrics", .dict (
    optional "throughput_rps" .float telemetry.metrics.throughputRps ++
    optional "availability" .float telemetry.metrics.availability ++
    optional "latency_p95_ms" .float telemetry.metrics.latencyP95Ms))]

def AgentFactsExtensions.modelDump (extensions : AgentFactsExtensions) : Json :=
  .dict ([("example_requests", .list (extensions.exampleRequests.map .dict))] ++
    optional "error_schema" .dict extensions.errorSchema ++
    optional "limits" .dict extensions.limits ++
    optional "nanda_index_handle" .str extensions.nandaIndexHandle)

namespace AgentFacts

/-- `signable_body`: everything but the credentials. -/
def signableBody (facts : AgentFacts) : Json :=
  .dict ([("id", .str facts.id), ("agent_name", .str facts.agentName),
      ("label", .str facts.label), ("description", .str facts.description),
      ("version", .str facts.version), ("provider", facts.provider.modelDump),
      ("endpoints", facts.endpoints.modelDump), ("capabilities", facts.capabilities.modelDump),
      ("skills", .list (facts.skills.map Skill.modelDump))] ++
    optional "documentationUrl" .str facts.documentationUrl ++
    optional "jurisdiction" .str facts.jurisdiction ++
    optional "certification" Certification.modelDump facts.certification ++
    optional "telemetry" Telemetry.modelDump facts.telemetry ++
    optional "evaluations" (fun entries => .list (entries.map .dict)) facts.evaluations ++
    optional "x-massclaw" AgentFactsExtensions.modelDump facts.xMassclaw)

/-- `signable_bytes`; `none` is the `CanonicalizationError`. -/
def signableBytes (host : Host) (facts : AgentFacts) : Option Bytes :=
  canonicalize host facts.signableBody

/-! ## Verification -/

/-- `_public_key_from_any_did`; `none` is the `MalformedDIDError`. -/
def publicKeyFromAnyDid (did : String) : Option Bytes :=
  match parseDid did with
  | .error _ => none
  | .ok parsed =>
    if parsed.method = "key".toList then (decodeDidKey did).toOption
    else if parsed.method = "nanda".toList then (decodeDidNanda did).toOption
    else none

/-- `verification_method.split("#", 1)[0]`. -/
def verificationDid (credential : IntegrityCredential) : String :=
  String.ofList (credential.proof.verificationMethod.toList.takeWhile (· != '#'))

variable (host : Host)

/-- `verify_integrity` of a credential; `none` is the `CanonicalizationError`. -/
def verifyIntegrity (facts : AgentFacts) (credential : IntegrityCredential) : Option Bool :=
  if credential.proof.type ≠ integrityProofType then some false
  else if credential.proof.cryptosuite ≠ integrityCryptosuite then some false
  else
    match publicKeyFromAnyDid (verificationDid credential),
        decodeMultibase? credential.proof.proofValue with
    | some issuerPub, some signature =>
      (canonicalize host facts.signableBody).map
        (fun payload => host.verify payload signature issuerPub)
    | _, _ => some false

/-- The credential is an integrity proof whose signature of the body verifies
under the key. -/
def verifiesUnder (facts : AgentFacts) (credential : IntegrityCredential) (key : Bytes) : Bool :=
  credential.proof.type = integrityProofType &&
    credential.proof.cryptosuite = integrityCryptosuite &&
    match decodeMultibase? credential.proof.proofValue, facts.signableBytes host with
    | some signature, some payload => host.verify payload signature key
    | _, _ => false

variable {host} {facts : AgentFacts} {credential : IntegrityCredential}

/-- A credential verifies under the key that it names itself. -/
theorem verifyIntegrity_iff : facts.verifyIntegrity host credential = some true ↔
    ∃ key, publicKeyFromAnyDid (verificationDid credential) = some key ∧
      facts.verifiesUnder host credential key = true := by
  unfold verifyIntegrity verifiesUnder signableBytes
  by_cases htype : credential.proof.type = integrityProofType
  case neg => simp [htype]
  by_cases hsuite : credential.proof.cryptosuite = integrityCryptosuite
  case neg => simp [hsuite]
  rw [if_neg (not_not.2 htype), if_neg (not_not.2 hsuite)]
  cases hkey : publicKeyFromAnyDid (verificationDid credential) with
  | none => simp
  | some key =>
    cases hsignature : decodeMultibase? credential.proof.proofValue with
    | none => simp
    | some signature =>
      cases hpayload : canonicalize host facts.signableBody with
      | none => simp
      | some payload => simp [htype, hsuite]

/-- Without a canonical body nothing verifies. -/
theorem signableBytes_of_verify (h : facts.verifyIntegrity host credential = some true) :
    (facts.signableBytes host).isSome = true := by
  obtain ⟨key, -, hverifies⟩ := verifyIntegrity_iff.1 h
  cases hbytes : facts.signableBytes host with
  | some payload => rfl
  | none =>
    unfold verifiesUnder at hverifies
    rw [hbytes] at hverifies
    cases hsignature : decodeMultibase? credential.proof.proofValue <;> simp [hsignature] at hverifies

/-- With a canonical body the verification does not raise. -/
theorem verifyIntegrity_isSome (h : (facts.signableBytes host).isSome = true)
    (credential : IntegrityCredential) : (facts.verifyIntegrity host credential).isSome = true := by
  unfold verifyIntegrity
  split_ifs
  · rfl
  · rfl
  · split
    · rw [Option.isSome_map]
      exact h
    · rfl

end AgentFacts

end MassClaw
