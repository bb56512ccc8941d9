import MassClaw.Crdt.Store
import MassClaw.Identity.DidKey
import MassClaw.Identity.Dump
import MassClaw.Identity.Resolver

/-!
# Signed AgentFacts documents

`AgentFactsBuilder` collects the fields of a document, and
`attach_integrity_credential` signs all of it but the credentials.  A document
that carries the credential of a published one, and no other, resolves exactly
if it is the published one: every field is signed, and nothing but the order of
the keys in free-form dictionaries is left open.
-/

namespace MassClaw

open Json (Faithful present)
open ModelDump

/-! ## What a dump tells -/

section Dumps

theorem optional_eq {α : Type} (key : String) (dump : α → Json) (value : Option α) :
    optional key dump value = present [(key, value.map dump)] := by
  cases value <;> rfl

theorem faithful_strings : Faithful strings := Json.faithful_str.list

theorem Provider.modelDump_eq (provider : Provider) :
    provider.modelDump = .dict (present [("name", some (.str provider.name)),
      ("url", some (.str provider.url)), ("did", provider.did.map .str)]) := by
  rw [Provider.modelDump, optional_eq]
  rfl

theorem Provider.faithful : Faithful Provider.modelDump := by
  intro a b
  rw [Provider.modelDump_eq, Provider.modelDump_eq]
  refine Iff.trans (Json.present_same_iff (by rfl) (by simp)) ?_
  simp only [List.forall₂_cons, List.forall₂_nil_left_iff, and_true, Json.faithful_str.field,
    Json.faithful_str.option]
  cases a
  cases b
  simp

theorem Capabilities.modelDump_eq (capabilities : Capabilities) : capabilities.modelDump =
    .dict (present [("modalities", some (strings capabilities.modalities)),
      ("authentication", some (.dict (present
        [("methods", some (strings capabilities.authentication.methods))])))]) := rfl

theorem Capabilities.faithful : Faithful Capabilities.modelDump := by
  intro a b
  have hmethods : (Json.dict (present [("methods", some (strings a.authentication.methods))])).Same
      (.dict (present [("methods", some (strings b.authentication.methods))])) ↔
      a.authentication.methods = b.authentication.methods := by
    refine Iff.trans (Json.present_same_iff (by rfl) (by simp)) ?_
    simp only [List.forall₂_cons, List.forall₂_nil_left_iff, and_true, faithful_strings.field]
  rw [Capabilities.modelDump_eq, Capabilities.modelDump_eq]
  refine Iff.trans (Json.present_same_iff (by rfl) (by simp)) ?_
  simp only [List.forall₂_cons, List.forall₂_nil_left_iff, and_true, faithful_strings.field,
    Option.rel_some_some, hmethods]
  obtain ⟨modalities, ⟨methods⟩⟩ := a
  obtain ⟨modalities', ⟨methods'⟩⟩ := b
  simp

theorem Skill.modelDump_eq (skill : Skill) : skill.modelDump =
    .dict (present [("id", some (.str skill.id)), ("description", some (.str skill.description)),
      ("inputModes", some (strings skill.inputModes)),
      ("outputModes", some (strings skill.outputModes)),
      ("supportedLanguages", skill.supportedLanguages.map strings),
      ("latencyBudgetMs", skill.latencyBudgetMs.map .int),
      ("maxTokens", skill.maxTokens.map .int)]) := by
  simp only [Skill.modelDump, optional_eq, List.append_assoc, ← Json.present_append]
  rfl

theorem Skill.faithful : Faithful Skill.modelDump := by
  intro a b
  rw [Skill.modelDump_eq, Skill.modelDump_eq]
  refine Iff.trans (Json.present_same_iff (by rfl) (by simp)) ?_
  simp only [List.forall₂_cons, List.forall₂_nil_left_iff, and_true, Json.faithful_str.field,
    faithful_strings.field, faithful_strings.option, Json.faithful_int.option]
  cases a
  cases b
  simp

theorem Certification.modelDump_eq (certification : Certification) : certification.modelDump =
    .dict (present [("level", some (.str certification.level)),
      ("issuer", certification.issuer.map .str), ("issuedAt", certification.issuedAt.map .str),
      ("validUntil", certification.validUntil.map .str)]) := by
  simp only [Certification.modelDump, optional_eq, List.append_assoc, ← Json.present_append]
  rfl

theorem Certification.faithful : Faithful Certification.modelDump := by
  intro a b
  rw [Certification.modelDump_eq, Certification.modelDump_eq]
  refine Iff.trans (Json.present_same_iff (by rfl) (by simp)) ?_
  simp only [List.forall₂_cons, List.forall₂_nil_left_iff, and_true, Json.faithful_str.field,
    Json.faithful_str.option]
  cases a
  cases b
  simp

end Dumps

/-! ## The values of a document -/

/-- Free-form dictionaries, up to the order of their keys. -/
def SameDict (a b : List (String × Json)) : Prop := (Json.dict a).Same (.dict b)

/-- A metric that JSON has. -/
def Metric.WellFormed (metric : Option PyFloat) : Prop :=
  ∀ value ∈ metric, (Json.float value).WellFormed

structure Telemetry.WellFormed (telemetry : Telemetry) : Prop where
  throughputRps : Metric.WellFormed telemetry.metrics.throughputRps
  availability : Metric.WellFormed telemetry.metrics.availability
  latencyP95Ms : Metric.WellFormed telemetry.metrics.latencyP95Ms

structure AgentFactsExtensions.WellFormed (extensions : AgentFactsExtensions) : Prop where
  exampleRequests : ∀ request ∈ extensions.exampleRequests, (Json.dict request).WellFormed
  errorSchema : ∀ schema ∈ extensions.errorSchema, (Json.dict schema).WellFormed
  limits : ∀ limits ∈ extensions.limits, (Json.dict limits).WellFormed

/-- The free-form values of a document are values that JSON has. -/
structure AgentFacts.WellFormed (facts : AgentFacts) : Prop where
  adaptiveResolver : ∀ entries ∈ facts.endpoints.adaptiveResolver,
    (Json.dict entries).WellFormed
  telemetry : ∀ telemetry ∈ facts.telemetry, telemetry.WellFormed
  evaluations : ∀ entries ∈ facts.evaluations, ∀ entry ∈ entries, (Json.dict entry).WellFormed
  xMassclaw : ∀ extensions ∈ facts.xMassclaw, extensions.WellFormed

structure Endpoints.Alike (a b : Endpoints) : Prop where
  static : a.static = b.static
  adaptiveResolver : Option.Rel SameDict a.adaptiveResolver b.adaptiveResolver

structure AgentFactsExtensions.Alike (a b : AgentFactsExtensions) : Prop where
  exampleRequests : List.Forall₂ SameDict a.exampleRequests b.exampleRequests
  errorSchema : Option.Rel SameDict a.errorSchema b.errorSchema
  limits : Option.Rel SameDict a.limits b.limits
  nandaIndexHandle : a.nandaIndexHandle = b.nandaIndexHandle

/-- The documents have the same fields, apart from the credentials and from the
order of the keys in free-form dictionaries. -/
structure AgentFacts.Alike (a b : AgentFacts) : Prop where
  id : a.id = b.id
  agentName : a.agentName = b.agentName
  label : a.label = b.label
  description : a.description = b.description
  version : a.version = b.version
  provider : a.provider = b.provider
  endpoints : a.endpoints.Alike b.endpoints
  capabilities : a.capabilities = b.capabilities
  skills : a.skills = b.skills
  documentationUrl : a.documentationUrl = b.documentationUrl
  jurisdiction : a.jurisdiction = b.jurisdiction
  certification : a.certification = b.certification
  telemetry : a.telemetry = b.telemetry
  evaluations : Option.Rel (List.Forall₂ SameDict) a.evaluations b.evaluations
  xMassclaw : Option.Rel AgentFactsExtensions.Alike a.xMassclaw b.xMassclaw

section Dumps

theorem Endpoints.modelDump_eq (endpoints : Endpoints) : endpoints.modelDump =
    .dict (present [("static", some (strings endpoints.static)),
      ("adaptive_resolver", endpoints.adaptiveResolver.map .dict)]) := by
  rw [Endpoints.modelDump, optional_eq]
  rfl

theorem rel_map_iff {α : Type} {R : α → α → Prop} {dump : α → Json}
    (h : ∀ x y, (dump x).Same (dump y) ↔ R x y) {a b : Option α} :
    Option.Rel Json.Same (a.map dump) (b.map dump) ↔ Option.Rel R a b := by
  cases a with
  | none => cases b <;> simp
  | some x =>
    cases b with
    | none => simp
    | some y => simpa using h x y

theorem Endpoints.same_iff (a b : Endpoints) : a.modelDump.Same b.modelDump ↔ a.Alike b := by
  rw [Endpoints.modelDump_eq, Endpoints.modelDump_eq]
  refine Iff.trans (Json.present_same_iff (by rfl) (by simp)) ?_
  simp only [List.forall₂_cons, List.forall₂_nil_left_iff, and_true, faithful_strings.field,
    rel_map_iff (R := SameDict) (fun _ _ => Iff.rfl)]
  constructor
  · rintro ⟨hstatic, hadaptive⟩
    exact ⟨hstatic, hadaptive⟩
  · intro h
    exact ⟨h.static, h.adaptiveResolver⟩

theorem same_dicts_iff {a b : List (List (String × Json))} :
    (Json.list (a.map .dict)).Same (.list (b.map .dict)) ↔ List.Forall₂ SameDict a b := by
  rw [Json.same_list_iff, List.forall₂_map_left_iff, List.forall₂_map_right_iff]
  rfl

theorem AgentFactsExtensions.modelDump_eq (extensions : AgentFactsExtensions) :
    extensions.modelDump = .dict (present
      [("example_requests", some (.list (extensions.exampleRequests.map .dict))),
        ("error_schema", extensions.errorSchema.map .dict),
        ("limits", extensions.limits.map .dict),
        ("nanda_index_handle", extensions.nandaIndexHandle.map .str)]) := by
  simp only [AgentFactsExtensions.modelDump, optional_eq, List.append_assoc, ← Json.present_append]
  rfl

theorem AgentFactsExtensions.same_iff (a b : AgentFactsExtensions) :
    a.modelDump.Same b.modelDump ↔ a.Alike b := by
  rw [AgentFactsExtensions.modelDump_eq, AgentFactsExtensions.modelDump_eq]
  refine Iff.trans (Json.present_same_iff (by rfl) (by simp)) ?_
  simp only [List.forall₂_cons, List.forall₂_nil_left_iff, and_true, Option.rel_some_some,
    same_dicts_iff, Json.faithful_str.option, rel_map_iff (R := SameDict) (fun _ _ => Iff.rfl)]
  constructor
  · rintro ⟨hrequests, hschema, hlimits, hhandle⟩
    exact ⟨hrequests, hschema, hlimits, hhandle⟩
  · intro h
    exact ⟨h.exampleRequests, h.errorSchema, h.limits, h.nandaIndexHandle⟩

/-- A field whose values are told apart if JSON has them. -/
theorem rel_map_eq_iff {α : Type} {P : α → Prop} {dump : α → Json}
    (h : ∀ x y, P x → P y → ((dump x).Same (dump y) ↔ x = y)) {a b : Option α}
    (ha : ∀ x ∈ a, P x) (hb : ∀ y ∈ b, P y) :
    Option.Rel Json.Same (a.map dump) (b.map dump) ↔ a = b := by
  cases a with
  | none => cases b <;> simp
  | some x =>
    cases b with
    | none => simp
    | some y => simpa using h x y (ha x rfl) (hb y rfl)

theorem float_same_iff (x y : PyFloat) (hx : (Json.float x).WellFormed)
    (hy : (Json.float y).WellFormed) : (Json.float x).Same (.float y) ↔ x = y := by
  cases hx
  cases hy
  simp [Json.same_finite_iff]

theorem Telemetry.modelDump_eq (telemetry : Telemetry) : telemetry.modelDump =
    .dict (present [("metrics", some (.dict (present
      [("throughput_rps", telemetry.metrics.throughputRps.map .float),
        ("availability", telemetry.metrics.availability.map .float),
        ("latency_p95_ms", telemetry.metrics.latencyP95Ms.map .float)])))]) := by
  simp only [Telemetry.modelDump, optional_eq, List.append_assoc, ← Json.present_append]
  rfl

theorem Telemetry.same_iff (a b : Telemetry) (ha : a.WellFormed) (hb : b.WellFormed) :
    a.modelDump.Same b.modelDump ↔ a = b := by
  rw [Telemetry.modelDump_eq, Telemetry.modelDump_eq]
  refine Iff.trans (Json.present_same_iff (by rfl) (by simp)) ?_
  simp only [List.forall₂_cons, List.forall₂_nil_left_iff, and_true, Option.rel_some_some]
  refine Iff.trans (Json.present_same_iff (by rfl) (by simp)) ?_
  simp only [List.forall₂_cons, List.forall₂_nil_left_iff, and_true,
    rel_map_eq_iff float_same_iff ha.throughputRps hb.throughputRps,
    rel_map_eq_iff float_same_iff ha.availability hb.availability,
    rel_map_eq_iff float_same_iff ha.latencyP95Ms hb.latencyP95Ms]
  obtain ⟨throughput, availability, latency⟩ := a
  obtain ⟨throughput', availability', latency'⟩ := b
  simp

namespace AgentFacts

theorem signableBody_eq (facts : AgentFacts) : facts.signableBody = .dict (present
    [("id", some (.str facts.id)), ("agent_name", some (.str facts.agentName)),
      ("label", some (.str facts.label)), ("description", some (.str facts.description)),
      ("version", some (.str facts.version)), ("provider", some facts.provider.modelDump),
      ("endpoints", some facts.endpoints.modelDump),
      ("capabilities", some facts.capabilities.modelDump),
      ("skills", some (.list (facts.skills.map Skill.modelDump))),
      ("documentationUrl", facts.documentationUrl.map .str),
      ("jurisdiction", facts.jurisdiction.map .str),
      ("certification", facts.certification.map Certification.modelDump),
      ("telemetry", facts.telemetry.map Telemetry.modelDump),
      ("evaluations", facts.evaluations.map (fun entries => .list (entries.map .dict))),
      ("x-massclaw", facts.xMassclaw.map AgentFactsExtensions.modelDump)]) := by
  simp only [signableBody, optional_eq, List.append_assoc, ← Json.present_append]
  rfl

/-- The signed bodies of two documents are the same exactly if the documents
are. -/
theorem signableBody_same_iff {a b : AgentFacts} (ha : a.WellFormed) (hb : b.WellFormed) :
    a.signableBody.Same b.signableBody ↔ a.Alike b := by
  rw [signableBody_eq, signableBody_eq]
  refine Iff.trans (Json.present_same_iff (by rfl) (by simp)) ?_
  simp only [List.forall₂_cons, List.forall₂_nil_left_iff, and_true, Json.faithful_str.field,
    Json.faithful_str.option, Provider.faithful.field, Capabilities.faithful.field,
    Skill.faithful.list.field, Certification.faithful.option, Option.rel_some_some, Endpoints.same_iff,
    rel_map_eq_iff Telemetry.same_iff ha.telemetry hb.telemetry, rel_map_iff (R := List.Forall₂ SameDict) (fun _ _ => same_dicts_iff),
    rel_map_iff AgentFactsExtensions.same_iff]
  constructor
  · rintro ⟨hid, hname, hlabel, hdescription, hversion, hprovider, hendpoints, hcapabilities,
      hskills, hurl, hjurisdiction, hcertification, htelemetry, hevaluations, hextensions⟩
    exact ⟨hid, hname, hlabel, hdescription, hversion, hprovider, hendpoints, hcapabilities,
      hskills, hurl, hjurisdiction, hcertification, htelemetry, hevaluations, hextensions⟩
  · intro h
    exact ⟨h.id, h.agentName, h.label, h.description, h.version, h.provider, h.endpoints,
      h.capabilities, h.skills, h.documentationUrl, h.jurisdiction, h.certification, h.telemetry,
      h.evaluations, h.xMassclaw⟩

end AgentFacts

theorem wellFormed_strings (items : List String) : (strings items).WellFormed :=
  Json.wellFormed_list (fun item _ => .str item)

theorem wellFormed_texts (field : Option String) : ∀ value ∈ field.map Json.str, value.WellFormed :=
  Json.wellFormed_option (fun text _ => .str text)

theorem Provider.wellFormed (provider : Provider) : provider.modelDump.WellFormed := by
  rw [Provider.modelDump_eq]
  refine Json.wellFormed_present (by simp) ?_
  exact ⟨Json.wellFormed_some (.str _), Json.wellFormed_some (.str _), wellFormed_texts _⟩

theorem Endpoints.wellFormed {endpoints : Endpoints}
    (h : ∀ entries ∈ endpoints.adaptiveResolver, (Json.dict entries).WellFormed) :
    endpoints.modelDump.WellFormed := by
  rw [Endpoints.modelDump_eq]
  refine Json.wellFormed_present (by simp) ?_
  exact ⟨Json.wellFormed_some (wellFormed_strings _), Json.wellFormed_option h⟩

theorem Capabilities.wellFormed (capabilities : Capabilities) :
    capabilities.modelDump.WellFormed := by
  rw [Capabilities.modelDump_eq]
  refine Json.wellFormed_present (by simp) ?_
  refine ⟨Json.wellFormed_some (wellFormed_strings _), Json.wellFormed_some ?_⟩
  refine Json.wellFormed_present (by simp) ?_
  exact Json.wellFormed_some (wellFormed_strings _)

theorem Skill.wellFormed (skill : Skill) : skill.modelDump.WellFormed := by
  rw [Skill.modelDump_eq]
  refine Json.wellFormed_present (by simp) ?_
  exact ⟨Json.wellFormed_some (.str _), Json.wellFormed_some (.str _),
    Json.wellFormed_some (wellFormed_strings _), Json.wellFormed_some (wellFormed_strings _),
    Json.wellFormed_option (fun _ _ => wellFormed_strings _),
    Json.wellFormed_option (fun n _ => .int n), Json.wellFormed_option (fun n _ => .int n)⟩

theorem Certification.wellFormed (certification : Certification) :
    certification.modelDump.WellFormed := by
  rw [Certification.modelDump_eq]
  refine Json.wellFormed_present (by simp) ?_
  exact ⟨Json.wellFormed_some (.str _), wellFormed_texts _, wellFormed_texts _, wellFormed_texts _⟩

theorem Telemetry.WellFormed.modelDump {telemetry : Telemetry} (h : telemetry.WellFormed) :
    telemetry.modelDump.WellFormed := by
  rw [Telemetry.modelDump_eq]
  refine Json.wellFormed_present (by simp) ?_
  refine Json.wellFormed_some (Json.wellFormed_present (by simp) ?_)
  exact ⟨Json.wellFormed_option h.throughputRps, Json.wellFormed_option h.availability,
    Json.wellFormed_option h.latencyP95Ms⟩

theorem AgentFactsExtensions.WellFormed.modelDump {extensions : AgentFactsExtensions}
    (h : extensions.WellFormed) : extensions.modelDump.WellFormed := by
  rw [AgentFactsExtensions.modelDump_eq]
  refine Json.wellFormed_present (by simp) ?_
  exact ⟨Json.wellFormed_some (Json.wellFormed_list h.exampleRequests),
    Json.wellFormed_option h.errorSchema, Json.wellFormed_option h.limits, wellFormed_texts _⟩

/-- The signed body of such a document has a canonical form. -/
theorem AgentFacts.WellFormed.signableBody {facts : AgentFacts} (h : facts.WellFormed) :
    facts.signableBody.WellFormed := by
  rw [AgentFacts.signableBody_eq]
  refine Json.wellFormed_present (by simp) ?_
  exact ⟨Json.wellFormed_some (.str _), Json.wellFormed_some (.str _),
    Json.wellFormed_some (.str _), Json.wellFormed_some (.str _), Json.wellFormed_some (.str _),
    Json.wellFormed_some facts.provider.wellFormed,
    Json.wellFormed_some (Endpoints.wellFormed h.adaptiveResolver),
    Json.wellFormed_some facts.capabilities.wellFormed,
    Json.wellFormed_some (Json.wellFormed_list (fun skill _ => skill.wellFormed)),
    wellFormed_texts _, wellFormed_texts _,
    Json.wellFormed_option (fun certification _ => certification.wellFormed),
    Json.wellFormed_option (fun telemetry hmem => (h.telemetry telemetry hmem).modelDump),
    Json.wellFormed_option (fun entries hmem => Json.wellFormed_list (h.evaluations entries hmem)),
    Json.wellFormed_option (fun extensions hmem => (h.xMassclaw extensions hmem).modelDump)⟩

end Dumps

/-! ## Signing -/

namespace AgentFacts

variable (host : Host)

/-- `attach_integrity_credential`: the credential, and the document with it;
`none` is the `CanonicalizationError` or the `MalformedDIDError`. -/
def attachIntegrityCredential (facts : AgentFacts) (keypair : KeyPair) (now : String) :
    Option (IntegrityCredential × AgentFacts) := do
  let issuerDid ← (buildDidKey keypair.publicBytes).toOption
  let payload ← facts.signableBytes host
  let signature := host.sign payload keypair.privateSeed
  let credential : IntegrityCredential :=
    { issuer := issuerDid, issued := now
      proof :=
        { created := now, verificationMethod := issuerDid ++ "#ed25519"
          proofPurpose := "assertionMethod", proofValue := encodeMultibase signature } }
  return (credential,
    { facts with verifiableCredentials := facts.verifiableCredentials ++ [credential] })

end AgentFacts

/-- The signatures of a key pair verify, and each for its own message only. -/
def Host.SignsFor (host : Host) (keypair : KeyPair) : Prop :=
  ∀ message message', host.verify message' (host.sign message keypair.privateSeed)
    keypair.publicBytes = true ↔ message' = message

theorem publicKeyFromAnyDid_of_forDid {did : String} {key : Bytes}
    (h : publicKeyForDid did = .ok (some key)) : AgentFacts.publicKeyFromAnyDid did = some key := by
  unfold publicKeyForDid at h
  unfold AgentFacts.publicKeyFromAnyDid
  cases hparsed : parseDid did with
  | error error =>
    rw [hparsed] at h
    cases h
  | ok parsed =>
    rw [hparsed] at h
    simp only [bind, Except.bind, pure, Except.pure] at h
    dsimp only
    by_cases hkey : parsed.method = "key".toList
    · rw [if_pos hkey] at h ⊢
      cases hdecoded : decodeDidKey did with
      | error error =>
        rw [hdecoded] at h
        cases h
      | ok decoded =>
        rw [hdecoded] at h
        cases h
        rfl
    · rw [if_neg hkey] at h ⊢
      by_cases hnanda : parsed.method = "nanda".toList
      · rw [if_pos hnanda] at h ⊢
        cases hdecoded : decodeDidNanda did with
        | error error =>
          rw [hdecoded] at h
          cases h
        | ok decoded =>
          rw [hdecoded] at h
          cases h
          rfl
      · rw [if_neg hnanda] at h
        cases h

/-- The fragment of a verification method can be cut off again. -/
theorem takeWhile_buildDidKey {key : Bytes} {did : String} (h : buildDidKey key = .ok did) :
    String.ofList ((did ++ "#ed25519").toList.takeWhile (· != '#')) = did := by
  have hnone : '#' ∉ did.toList := by
    unfold buildDidKey at h
    split at h
    · cases h
    · cases h
      intro hmem
      rw [String.toList_append, List.mem_append] at hmem
      rcases hmem with hprefix | hencoded
      · revert hprefix
        decide
      · rw [encodeMultibase, String.toList_ofList] at hencoded
        rcases List.mem_cons.1 hencoded with hz | hencoded
        · revert hz
          decide
        · have halphabet := Base58.mem_encode hencoded
          revert halphabet
          decide
  rw [String.toList_append, List.takeWhile_append_of_pos]
  · show String.ofList (did.toList ++ []) = did
    rw [List.append_nil, String.ofList_toList]
  · intro c hc
    simp only [bne_iff_ne, ne_eq]
    rintro rfl
    exact hnone hc

namespace AgentFacts

variable {host : Host} {keypair : KeyPair} {a b signed : AgentFacts}
  {credential : IntegrityCredential} {now : String}

/-- What a signed document is. -/
theorem attach_cases (h : a.attachIntegrityCredential host keypair now = some (credential, signed)) :
    signed = { a with verifiableCredentials := a.verifiableCredentials ++ [credential] } ∧
      buildDidKey keypair.publicBytes = .ok credential.issuer ∧
      ∃ payload, a.signableBytes host = some payload ∧
        credential = { issuer := credential.issuer, issued := now
                       proof :=
                        { created := now, verificationMethod := credential.issuer ++ "#ed25519"
                          proofValue := encodeMultibase
                            (host.sign payload keypair.privateSeed) } } := by
  unfold attachIntegrityCredential at h
  cases hdid : buildDidKey keypair.publicBytes with
  | error error =>
    rw [hdid] at h
    cases h
  | ok did =>
    rw [hdid] at h
    cases hpayload : a.signableBytes host with
    | none =>
      rw [hpayload] at h
      cases h
    | some payload =>
      rw [hpayload] at h
      cases h
      exact ⟨rfl, rfl, payload, rfl, rfl⟩

/-- A document that JSON has can be signed. -/
theorem attach_isSome (host : Host) (keypair : KeyPair) (now : String) (h : a.WellFormed) :
    ∃ result, a.attachIntegrityCredential host keypair now = some result := by
  obtain ⟨payload, hpayload⟩ := Option.isSome_iff_exists.1 (canonicalize_isSome host h.signableBody)
  have hbytes : a.signableBytes host = some payload := hpayload
  unfold attachIntegrityCredential buildDidKey
  rw [if_neg (not_not_intro keypair.publicLength), hbytes]
  exact ⟨_, rfl⟩

/-- The credential of a document verifies for exactly the documents with the
same fields. -/
theorem attached_verifies_iff (hfloats : host.WritesFloats) (hsigns : host.SignsFor keypair)
    (ha : a.WellFormed) (hb : b.WellFormed)
    (h : a.attachIntegrityCredential host keypair now = some (credential, signed)) :
    b.verifyIntegrity host credential = some true ↔ a.Alike b := by
  obtain ⟨-, hissuer, payload, hpayload, hcredential⟩ := attach_cases h
  have hkey : publicKeyFromAnyDid (verificationDid credential) = some keypair.publicBytes := by
    unfold verificationDid
    rw [hcredential]
    dsimp only
    rw [takeWhile_buildDidKey hissuer]
    exact publicKeyFromAnyDid_of_forDid (publicKeyForDid_buildDidKey hissuer)
  have hsignature : decodeMultibase? credential.proof.proofValue =
      some (host.sign payload keypair.privateSeed) := by
    rw [hcredential]
    exact decodeMultibase?_encodeMultibase _
  have hproof : credential.proof.type = integrityProofType ∧
      credential.proof.cryptosuite = integrityCryptosuite := by
    rw [hcredential]
    exact ⟨rfl, rfl⟩
  obtain ⟨other, hother⟩ := Option.isSome_iff_exists.1 (canonicalize_isSome host hb.signableBody)
  have hsame : a.signableBody.Same b.signableBody ↔ payload = other := by
    rw [← canonicalize_eq_iff hfloats ha.signableBody hb.signableBody, hother]
    show a.signableBytes host = some other ↔ _
    rw [hpayload, Option.some.injEq]
  unfold verifyIntegrity
  rw [if_neg (not_not_intro hproof.1), if_neg (not_not_intro hproof.2), hkey, hsignature, hother]
  dsimp only [Option.map_some]
  rw [Option.some.injEq, hsigns, ← signableBody_same_iff ha hb, hsame]
  exact eq_comm

end AgentFacts

end MassClaw
