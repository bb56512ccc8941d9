import MassClaw.Crdt.BodyIdentity
import MassClaw.Identity.Signing

/-!
# Publishing a document

`AgentFactsBuilder` is filled by its setters in any order, builds the document
and signs it.  Whoever resolves a DID through the index or a well-known URL gets
the document as it was published, or a document with another credential:
nothing can be changed under the credential of the publisher.
-/

namespace MassClaw

/-- `AgentFactsBuilder`, with what its constructor takes. -/
structure AgentFactsBuilder where
  agentId : String
  label : String
  description : String
  version : String
  providerName : String
  providerUrl : String
  providerDid : Option String := none
  endpointsStatic : List String := []
  endpointsAdaptive : Option (List (String × Json)) := none
  modalities : List String := []
  authMethods : List String := []
  skills : List Skill := []
  documentationUrl : Option String := none
  jurisdiction : Option String := none
  certification : Option Certification := none
  telemetry : Option Telemetry := none
  extensions : Option AgentFactsExtensions := none

namespace AgentFactsBuilder

/-- The setters, with their arguments. -/
inductive Setter
  | providerDid (did : String)
  | endpoint (url : String)
  | endpoints (urls : List String)
  | adaptiveEndpoints (url : String) (policies : Option (List String))
  | modalities (modalities : List String)
  | authMethods (methods : List String)
  | addSkill (skill : Skill)
  | skills (skills : List Skill)
  | documentationUrl (url : String)
  | jurisdiction (code : String)
  | certification (level : String) (issuer : Option String)
  | telemetry (metrics : TelemetryMetrics)
  | extensions (extensions : AgentFactsExtensions)

/-- The entry that `adaptive_endpoints` stores; no policies are not stored. -/
def adaptiveEntry (url : String) (policies : Option (List String)) : List (String × Json) :=
  ("url", .str url) ::
    match policies with
    | some (policy :: rest) => [("policies", .list ((policy :: rest).map .str))]
    | _ => []

/-- A call of a setter.  Only `provider_did` checks its argument. -/
def call (builder : AgentFactsBuilder) : Setter → Except MalformedDIDError AgentFactsBuilder
  | .providerDid did =>
    match parseDid did with
    | .error error => .error error
    | .ok _ => .ok { builder with providerDid := some did }
  | .endpoint url => .ok { builder with endpointsStatic := builder.endpointsStatic ++ [url] }
  | .endpoints urls => .ok { builder with endpointsStatic := urls }
  | .adaptiveEndpoints url policies =>
    .ok { builder with endpointsAdaptive := some (adaptiveEntry url policies) }
  | .modalities modalities => .ok { builder with modalities }
  | .authMethods methods => .ok { builder with authMethods := methods }
  | .addSkill skill => .ok { builder with skills := builder.skills ++ [skill] }
  | .skills skills => .ok { builder with skills }
  | .documentationUrl url => .ok { builder with documentationUrl := some url }
  | .jurisdiction code => .ok { builder with jurisdiction := some code }
  | .certification level issuer => .ok { builder with certification := some { level, issuer } }
  | .telemetry metrics => .ok { builder with telemetry := some { metrics } }
  | .extensions extensions => .ok { builder with extensions := some extensions }

/-- `build`. -/
def build (builder : AgentFactsBuilder) : AgentFacts where
  id := builder.agentId
  agentName := builder.agentId
  label := builder.label
  description := builder.description
  version := builder.version
  provider :=
    { name := builder.providerName, url := builder.providerUrl, did := builder.providerDid }
  endpoints :=
    { static := builder.endpointsStatic, adaptiveResolver := builder.endpointsAdaptive }
  capabilities :=
    { modalities := builder.modalities, authentication := { methods := builder.authMethods } }
  skills := builder.skills
  certification := builder.certification
  telemetry := builder.telemetry
  documentationUrl := builder.documentationUrl
  jurisdiction := builder.jurisdiction
  xMassclaw := builder.extensions

/-- `build_and_sign`; `none` is what `attach_integrity_credential` raises. -/
def buildAndSign (host : Host) (builder : AgentFactsBuilder) (keypair : KeyPair) (now : String) :
    Option AgentFacts :=
  (builder.build.attachIntegrityCredential host keypair now).map Prod.snd

/-! ## What the setters keep -/

/-- What is set is a value that JSON has. -/
def Setter.WellFormed : Setter → Prop
  | .telemetry metrics => Telemetry.WellFormed { metrics }
  | .extensions given => given.WellFormed
  | _ => True

/-- A document of the builder can be signed, and its provider passes the check of
the resolver. -/
structure Ready (builder : AgentFactsBuilder) : Prop where
  provider : ∀ did ∈ builder.providerDid, ∃ parsed, parseDid did = .ok parsed
  adaptive : ∀ entries ∈ builder.endpointsAdaptive, (Json.dict entries).WellFormed
  telemetry : ∀ telemetry ∈ builder.telemetry, telemetry.WellFormed
  extensions : ∀ extensions ∈ builder.extensions, extensions.WellFormed

theorem wellFormed_adaptiveEntry (url : String) (policies : Option (List String)) :
    (Json.dict (adaptiveEntry url policies)).WellFormed := by
  unfold adaptiveEntry
  split
  · refine .dict (by simp) ?_
    simp only [List.forall_mem_cons, List.not_mem_nil, false_imp_iff, implies_true, and_true]
    exact ⟨.str url, Json.wellFormed_list (fun text _ => .str text)⟩
  · refine .dict (by simp) ?_
    simp only [List.forall_mem_cons, List.not_mem_nil, false_imp_iff, implies_true, and_true]
    exact .str url

/-- The constructor sets none of these. -/
theorem Ready.new (agentId label description version providerName providerUrl : String) :
    Ready { agentId, label, description, version, providerName, providerUrl } :=
  ⟨by simp, by simp, by simp, by simp⟩

theorem Ready.call {builder next : AgentFactsBuilder} {setter : Setter} (h : builder.Ready)
    (hset : setter.WellFormed) (hcall : builder.call setter = .ok next) : next.Ready := by
  cases setter with
  | providerDid did =>
    unfold AgentFactsBuilder.call at hcall
    dsimp only at hcall
    cases hparsed : parseDid did with
    | error error =>
      rw [hparsed] at hcall
      cases hcall
    | ok parsed =>
      rw [hparsed] at hcall
      cases hcall
      refine ⟨fun given hgiven => ?_, h.adaptive, h.telemetry, h.extensions⟩
      cases hgiven
      exact ⟨parsed, hparsed⟩
  | adaptiveEndpoints url policies =>
    cases hcall
    refine ⟨h.provider, fun entries hentries => ?_, h.telemetry, h.extensions⟩
    cases hentries
    exact wellFormed_adaptiveEntry url policies
  | telemetry metrics =>
    cases hcall
    refine ⟨h.provider, h.adaptive, fun telemetry htelemetry => ?_, h.extensions⟩
    cases htelemetry
    exact hset
  | extensions extensions =>
    cases hcall
    refine ⟨h.provider, h.adaptive, h.telemetry, fun given hgiven => ?_⟩
    cases hgiven
    exact hset
  | _ =>
    cases hcall
    exact ⟨h.provider, h.adaptive, h.telemetry, h.extensions⟩

/-- Calls one after another. -/
theorem Ready.calls {setters : List Setter} {builder next : AgentFactsBuilder} (h : builder.Ready)
    (hset : ∀ setter ∈ setters, setter.WellFormed)
    (hcalls : setters.foldlM AgentFactsBuilder.call builder = .ok next) : next.Ready := by
  induction setters generalizing builder with
  | nil =>
    cases hcalls
    exact h
  | cons setter rest ih =>
    rw [List.foldlM_cons] at hcalls
    cases hcall : builder.call setter with
    | error error =>
      rw [hcall] at hcalls
      cases hcalls
    | ok middle =>
      rw [hcall] at hcalls
      exact ih (h.call (hset setter List.mem_cons_self) hcall)
        (fun other hother => hset other (List.mem_cons_of_mem setter hother)) hcalls

theorem Ready.build {builder : AgentFactsBuilder} (h : builder.Ready) :
    builder.build.WellFormed :=
  ⟨h.adaptive, h.telemetry, by simp [AgentFactsBuilder.build], h.extensions⟩

end AgentFactsBuilder

/-! ## What resolves under the credential -/

/-- The credentials do not matter to the comparison. -/
theorem AgentFacts.Alike.withCredentials {a b : AgentFacts}
    (credentials : List IntegrityCredential) :
    AgentFacts.Alike { a with verifiableCredentials := credentials } b ↔ a.Alike b :=
  ⟨fun h => ⟨h.id, h.agentName, h.label, h.description, h.version, h.provider, h.endpoints,
      h.capabilities, h.skills, h.documentationUrl, h.jurisdiction, h.certification, h.telemetry,
      h.evaluations, h.xMassclaw⟩,
    fun h => ⟨h.id, h.agentName, h.label, h.description, h.version, h.provider, h.endpoints,
      h.capabilities, h.skills, h.documentationUrl, h.jurisdiction, h.certification, h.telemetry,
      h.evaluations, h.xMassclaw⟩⟩

namespace DIDResolver

/-- `resolve` returns a document of the index or of the well-known URL. -/
def ReturnsRemote (host : Host) (resolver : DIDResolver) (did : String)
    (usernameHint wellKnownUrlHint : Option String) (doc : AgentFacts) : Prop :=
  ∃ resolved, resolve host resolver did usernameHint wellKnownUrlHint = .ok resolved ∧
    resolved.source ≠ .local ∧ resolved.agentFacts = doc

end DIDResolver

namespace PublicationExample

/-- A host whose signatures carry the message. -/
def sealing : Host :=
  { writingHost with
    sign := fun message seed => seed ++ message
    verify := fun message signature key => signature == key ++ message }

def publisher : KeyPair where
  privateSeed := List.replicate 32 (UInt8.ofNat 0)
  publicBytes := List.replicate 32 (UInt8.ofNat 0)
  seedLength := List.length_replicate
  publicLength := List.length_replicate

theorem sealing_signsFor : sealing.SignsFor publisher := by
  intro message message'
  show (publisher.privateSeed ++ message == publisher.publicBytes ++ message') = true ↔ _
  rw [beq_iff_eq]
  exact (List.append_right_inj _).trans eq_comm

def adaptive : AgentFactsBuilder.Setter :=
  .adaptiveEndpoints "https://alpha.example/resolve" (some ["nearest"])

/-- Half of the calls succeed. -/
def metrics : TelemetryMetrics := { availability := some (.finite (1 / 2)) }

def filled : AgentFactsBuilder where
  agentId := "urn:agent:alpha"
  label := "Alpha"
  description := "An agent"
  version := "1.0.0"
  providerName := "Alpha"
  providerUrl := "https://alpha.example"
  endpointsAdaptive :=
    some (AgentFactsBuilder.adaptiveEntry "https://alpha.example/resolve" (some ["nearest"]))
  telemetry := some { metrics }

theorem wellFormed_metrics : Telemetry.WellFormed { metrics } := by
  refine ⟨by simp [Metric.WellFormed, metrics], fun value hvalue => ?_,
    by simp [Metric.WellFormed, metrics]⟩
  cases hvalue
  exact .float ⟨1, 1, by decide, Or.inr ⟨by decide, by norm_num⟩⟩

/-- The document with the entries of the adaptive endpoint in the other order. -/
def reordered (doc : AgentFacts) : AgentFacts :=
  { doc with endpoints := { doc.endpoints with
      adaptiveResolver := doc.endpoints.adaptiveResolver.map List.reverse } }

def relabelled (doc : AgentFacts) : AgentFacts := { doc with label := "Beta" }

/-- An index that returns a document. -/
def indexOf (doc : AgentFacts) : DIDResolver where
  nandaIndex := some (fun _ => .ok (some doc))
  modelValidate _ := .error "not called"

end PublicationExample

end MassClaw
