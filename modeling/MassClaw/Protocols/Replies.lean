import Mathlib.Data.List.Nodup
import MassClaw.Protocols.MessageBus

/-!
# Requests and their replies

Which message a request returns and which messages a listener yields, in any run
of the bus.  What somebody else publishes can be any text on any channel; the
messages of the bus are read as they were sent if `json.loads` reads what
`json.dumps` has written.
-/

namespace MassClaw

namespace AgentMessageBus

/-! ## Replies -/

/-- A publication that a request takes for its reply; the fields that a text
leaves out do not matter. -/
def replies (env : Env) (request : Request) (publication : Publication) : Bool :=
  match decode env ⟨"", ""⟩ (publication.payload env) with
  | some message => decide (request.Answers message)
  | none => false

/-- The default factories do not decide what is a message, nor its correlation
id. -/
theorem messageFromDict_correlationId (fresh fresh' : FreshFields) (data : Json) :
    (messageFromDict fresh data).map AgentMessage.correlationId =
      (messageFromDict fresh' data).map AgentMessage.correlationId := by
  cases data with
  | dict entries =>
    dsimp only [messageFromDict]
    split
    · split <;> rfl
    · rfl
  | null | bool _ | int _ | float _ | str _ | list _ => rfl

theorem replies_of_decode {env : Env} {request : Request} {publication : Publication}
    {fresh : FreshFields} {message : AgentMessage}
    (h : decode env fresh (publication.payload env) = some message) :
    replies env request publication = decide (request.Answers message) := by
  obtain ⟨data, hloads, hdata⟩ := Option.bind_eq_some_iff.1 h
  have hsame := messageFromDict_correlationId fresh ⟨"", ""⟩ data
  rw [hdata] at hsame
  obtain ⟨other, hother, hid⟩ := Option.map_eq_some_iff.1 hsame.symm
  have hanswers : request.Answers other ↔ request.Answers message := by
    unfold Request.Answers
    rw [hid]
  unfold replies decode
  rw [hloads, Option.bind_some, hother]
  exact decide_eq_decide.2 hanswers

theorem replies_of_undecoded {env : Env} {request : Request} {publication : Publication}
    {fresh : FreshFields} (h : decode env fresh (publication.payload env) = none) :
    replies env request publication = false := by
  unfold replies
  cases hdecoded : decode env ⟨"", ""⟩ (publication.payload env) with
  | none => rfl
  | some message =>
    obtain ⟨data, hloads, hdata⟩ := Option.bind_eq_some_iff.1 hdecoded
    have hsame := messageFromDict_correlationId fresh ⟨"", ""⟩ data
    have hnone : messageFromDict fresh data = none := by
      unfold decode at h
      rw [hloads] at h
      exact h
    rw [hnone, hdata] at hsame
    cases hsame

/-- A listener yields what it can decode. -/
theorem receive_listener (env : Env) (yielded : List AgentMessage) (publication : Publication)
    (fresh : FreshFields) :
    receive env (.listener yielded) publication fresh =
      .listener (yielded ++ (decode env fresh (publication.payload env)).toList) := by
  unfold receive
  cases decode env fresh (publication.payload env) with
  | none => exact congrArg Role.listener (List.append_nil yielded).symm
  | some message => rfl

/-- A waiting request returns with a reply, and goes on waiting otherwise. -/
theorem receive_waiting (env : Env) (request : Request) (publication : Publication)
    (fresh : FreshFields) :
    (replies env request publication = true ∧ ∃ message,
        decode env fresh (publication.payload env) = some message ∧ request.Answers message ∧
        receive env (.request request .waiting) publication fresh =
          .request request (.returned message)) ∨
      (replies env request publication = false ∧
        receive env (.request request .waiting) publication fresh = .request request .waiting) := by
  unfold receive
  cases hdecoded : decode env fresh (publication.payload env) with
  | none => exact Or.inr ⟨replies_of_undecoded hdecoded, rfl⟩
  | some message =>
    rw [replies_of_decode hdecoded]
    dsimp only
    by_cases hanswers : request.Answers message
    · rw [if_pos hanswers]
      exact Or.inl ⟨decide_eq_true hanswers, message, rfl, hanswers, rfl⟩
    · rw [if_neg hanswers]
      exact Or.inr ⟨decide_eq_false hanswers, rfl⟩

/-! ## What the subscribers have read -/

/-- What a subscriber in a state has read: a listener has yielded what could be
decoded, and a request has read replies only if it has returned with the first. -/
def HasRead (env : Env) : Role → List (Publication × FreshFields) → Prop
  | .listener yielded, read =>
    yielded = read.filterMap (fun entry => decode env entry.2 (entry.1.payload env))
  | .request request (.returned message), read =>
    ∃ earlier publication fresh, read = earlier ++ [(publication, fresh)] ∧
      (∀ entry ∈ earlier, replies env request entry.1 = false) ∧
      replies env request publication = true ∧
      decode env fresh (publication.payload env) = some message ∧ request.Answers message
  | .request request _, read => ∀ entry ∈ read, replies env request entry.1 = false

/-- A subscriber was opened by a step, which has chosen its channel. -/
def Opened (steps : List BusEvent) (channel : String) : Role → Prop
  | .listener _ =>
    (∃ agentId, .subscribeDirect agentId ∈ steps ∧ channel = directChannel agentId) ∨
      ∃ capability, .subscribeCapability capability ∈ steps ∧
        channel = capabilityChannel capability
  | .request request _ =>
    .requestResponse request ∈ steps ∧ channel = directChannel request.senderId

/-- A step publishes a message of its own or of somebody else, if it does not
raise, or is one event. -/
theorem events_cases (env : Env) (step : BusEvent)
    {event : PubSub.Event String Publication Role FreshFields Action}
    (h : event ∈ step.events env) :
    (∃ publication, (∀ request, publication ≠ .ask request) ∧ event = .publish publication) ∨
      step.events env = [event] ∧ ∀ publication, event ≠ .publish publication := by
  cases step with
  | sendDirect senderId recipientId content correlationId fresh =>
    simp only [BusEvent.events, published, sendDirect, checkSize] at h
    split at h
    · cases h
    · rename_i heq
      split at heq
      · cases heq
      · cases heq
        exact Or.inl ⟨_, fun _ hask => Publication.noConfusion hask, List.mem_singleton.1 h⟩
  | broadcastCapability senderId capability content fresh =>
    simp only [BusEvent.events, published, broadcastCapability, checkSize] at h
    split at h
    · cases h
    · rename_i heq
      split at heq
      · cases heq
      · cases heq
        exact Or.inl ⟨_, fun _ hask => Publication.noConfusion hask, List.mem_singleton.1 h⟩
  | foreign channel payload =>
    exact Or.inl ⟨_, fun _ hask => Publication.noConfusion hask, List.mem_singleton.1 h⟩
  | subscribeDirect _ | subscribeCapability _ | requestResponse _ | establish _ | deliver _ _
  | act _ _ | lose _ =>
    cases List.mem_singleton.1 h
    exact Or.inr ⟨rfl, nofun⟩

theorem opened_of_join {env : Env} {steps : List BusEvent} {channel : String} {role : Role}
    (h : .join channel role ∈ steps.flatMap (BusEvent.events env)) :
    Opened steps channel role ∧ HasRead env role [] := by
  obtain ⟨step, hstep, hjoin⟩ := List.mem_flatMap.1 h
  rcases events_cases env step hjoin with ⟨publication, -, heq⟩ | ⟨hevents, -⟩
  · cases heq
  · cases step with
    | subscribeDirect agentId =>
      cases hevents
      exact ⟨Or.inl ⟨agentId, hstep, rfl⟩, rfl⟩
    | subscribeCapability capability =>
      cases hevents
      exact ⟨Or.inr ⟨capability, hstep, rfl⟩, rfl⟩
    | requestResponse request =>
      cases hevents
      exact ⟨⟨hstep, rfl⟩, fun _ hmem => absurd hmem List.not_mem_nil⟩
    | foreign _ _ | establish _ | deliver _ _ | act _ _ | lose _ => cases hevents
    | sendDirect _ _ _ _ _ | broadcastCapability _ _ _ _ =>
      simp only [BusEvent.events, published] at hevents
      split at hevents <;> cases hevents

theorem lose_mem {env : Env} {steps : List BusEvent} {index : Nat}
    (h : .lose index ∈ steps.flatMap (BusEvent.events env)) : .lose index ∈ steps := by
  obtain ⟨step, hstep, hlose⟩ := List.mem_flatMap.1 h
  rcases events_cases env step hlose with ⟨publication, -, heq⟩ | ⟨hevents, -⟩
  · cases heq
  · cases step with
    | lose j =>
      cases hevents
      exact hstep
    | foreign _ _ | subscribeDirect _ | subscribeCapability _ | requestResponse _ | establish _
    | deliver _ _ | act _ _ => cases hevents
    | sendDirect _ _ _ _ _ | broadcastCapability _ _ _ _ =>
      simp only [BusEvent.events, published] at hevents
      split at hevents <;> cases hevents

section Run

variable {env : Env} {steps : List BusEvent} {index : Nat}
  {s : PubSub.Subscriber String Publication Role FreshFields}

theorem subscriber_of_earlier
    {earlier : List (PubSub.Event String Publication Role FreshFields Action)}
    (hearlier : earlier <+: steps.flatMap (BusEvent.events env))
    (hs : ((system env).after earlier).subscribers[index]? = some s) :
    Opened steps s.topic s.state ∧ HasRead env s.state s.read := by
  refine PubSub.System.after_state
    (I := fun channel role read => Opened steps channel role ∧ HasRead env role read)
    (fun channel role hjoin => opened_of_join (hearlier.subset hjoin))
    (fun channel role read publication fresh hlistens h => ?_)
    (fun channel role read action h => ?_) hs
  · obtain ⟨hopened, hread⟩ := h
    show Opened steps channel (receive env role publication fresh) ∧
      HasRead env (receive env role publication fresh) _
    cases role with
    | listener yielded =>
      rw [receive_listener]
      refine ⟨hopened, ?_⟩
      show _ = (read ++ [(publication, fresh)]).filterMap _
      rw [List.filterMap_append, ← hread]
      cases hdecoded : decode env fresh (publication.payload env) <;> simp [hdecoded]
    | request request phase =>
      cases phase with
      | opening | timedOut | returned _ => cases hlistens
      | waiting =>
        rcases receive_waiting env request publication fresh with
          ⟨hreply, message, hdecoded, hanswers, heq⟩ | ⟨hother, heq⟩
        · rw [heq]
          exact ⟨hopened, read, publication, fresh, rfl, hread, hreply, hdecoded, hanswers⟩
        · rw [heq]
          refine ⟨hopened, fun entry hmem => ?_⟩
          rcases List.mem_append.1 hmem with hold | hnew
          · exact hread entry hold
          · rw [List.mem_singleton.1 hnew]
            exact hother
  · obtain ⟨hopened, hread⟩ := h
    cases role with
    | listener yielded => exact ⟨hopened, hread⟩
    | request request phase => cases phase <;> cases action <;> exact ⟨hopened, hread⟩

/-- A request on the bus was opened by a step. -/
theorem opened_of_ask {request : Request} (h : .ask request ∈ (run env steps).log) :
    .requestResponse request ∈ steps := by
  refine PubSub.System.after_log
    (P := fun publication => ∀ request, publication = .ask request →
      .requestResponse request ∈ steps) (fun earlier hearlier s hs action publication hact => ?_)
    (fun publication hmem request heq => ?_) _ h request rfl
  · obtain ⟨index, hindex⟩ := List.mem_iff_getElem?.1 hs
    have hopened := (subscriber_of_earlier hearlier hindex).1
    intro request heq
    cases hrole : s.state with
    | listener yielded =>
      rw [hrole] at hact
      cases hact
    | request other phase =>
      rw [hrole] at hact hopened
      cases phase with
      | opening =>
        cases action with
        | publish =>
          cases hact
          cases heq
          exact hopened.1
        | timeout => cases hact
      | waiting => cases action <;> cases hact
      | returned _ | timedOut => cases hact
  · obtain ⟨step, -, hpublish⟩ := List.mem_flatMap.1 hmem
    rcases events_cases env step hpublish with ⟨other, hother, hsame⟩ | ⟨-, hnot⟩
    · cases hsame
      exact absurd heq (hother request)
    · exact absurd rfl (hnot publication)

/-- A message that a call of the bus has published is decoded as it was. -/
theorem decode_own (hjson : ∀ publication ∈ (run env steps).log, ∀ message,
      publication.message? = some message →
      env.loads (publication.payload env) = some (.dict (messageToDict message)))
    {publication : Publication} (hmem : publication ∈ (run env steps).log) {message : AgentMessage}
    (hmessage : publication.message? = some message) (fresh : FreshFields) :
    decode env fresh (publication.payload env) = some message := by
  unfold decode
  rw [hjson publication hmem message hmessage, Option.bind_some]
  exact messageFromDict_toDict fresh message

/-- What a subscriber has got that a request takes for a reply: at most the last
message that it has read, and what is pending. -/
theorem filter_replies_got {request : Request} {phase : Phase}
    (hrole : s.state = .request request phase) (hread : HasRead env s.state s.read) :
    (phase = .waiting → (PubSub.System.got s).filter (replies env request) =
      s.pending.filter (replies env request)) ∧
    ∀ message, phase = .returned message → ∃ publication ∈ s.read.map Prod.fst, ∃ fresh,
      ((PubSub.System.got s).filter (replies env request)).head? = some publication ∧
      decode env fresh (publication.payload env) = some message ∧ request.Answers message := by
  rw [hrole] at hread
  unfold PubSub.System.got
  constructor
  · rintro rfl
    have hnone : (s.read.map Prod.fst).filter (replies env request) = [] := by
      refine List.filter_eq_nil_iff.2 (fun publication hmem => ?_)
      obtain ⟨entry, hentry, rfl⟩ := List.mem_map.1 hmem
      rw [hread entry hentry]
      exact Bool.false_ne_true
    rw [List.filter_append, hnone, List.nil_append]
  · rintro message rfl
    obtain ⟨earlier, publication, fresh, heq, hearlier, hreply, hdecoded, hanswers⟩ := hread
    have hnone : (earlier.map Prod.fst).filter (replies env request) = [] := by
      refine List.filter_eq_nil_iff.2 (fun other hmem => ?_)
      obtain ⟨entry, hentry, rfl⟩ := List.mem_map.1 hmem
      rw [hearlier entry hentry]
      exact Bool.false_ne_true
    refine ⟨publication, ?_, fresh, ?_, hdecoded, hanswers⟩
    · rw [heq]
      simp
    · rw [heq, List.map_append, List.filter_append, List.filter_append, hnone, List.nil_append,
        List.map_singleton, List.filter_cons_of_pos hreply]
      rfl

end Run

/-- The requests that the steps open. -/
def BusEvent.opened? : BusEvent → Option Request
  | .requestResponse request => some request
  | _ => none

/-- Where the reply of a request comes from: from a direct message to the asking
agent with its correlation id; from the request itself, if it is to the asking
agent; or from somebody else. -/
inductive Source (env : Env) (request : Request) (message : AgentMessage) : Publication → Prop
  | direct {senderId content : String} {fresh : FreshFields}
      (h : (Publication.direct senderId request.senderId content (some request.correlationId)
        fresh).message? = some message) :
      Source env request message
        (.direct senderId request.senderId content (some request.correlationId) fresh)
  | itself (hself : request.recipientId = request.senderId) (h : message = request.message) :
      Source env request message (.ask request)
  | foreign {payload : String} {fresh : FreshFields}
      (h : decode env fresh payload = some message) (hanswers : request.Answers message) :
      Source env request message (.foreign (directChannel request.senderId) payload)

theorem source_of_reply {env : Env} {steps : List BusEvent} {request : Request}
    {publication : Publication} {message : AgentMessage} {fresh : FreshFields}
    (hjson : ∀ publication ∈ (run env steps).log, ∀ message,
      publication.message? = some message →
      env.loads (publication.payload env) = some (.dict (messageToDict message)))
    (hfresh : ((steps.filterMap BusEvent.opened?).map Request.correlationId).Nodup)
    (hopened : .requestResponse request ∈ steps) (hmem : publication ∈ (run env steps).log)
    (hchannel : publication.channel = directChannel request.senderId)
    (hdecoded : decode env fresh (publication.payload env) = some message)
    (hanswers : request.Answers message) : Source env request message publication := by
  cases publication with
  | direct senderId recipientId content correlationId sent =>
    have hown := decode_own hjson hmem rfl fresh
    rw [hdecoded] at hown
    cases directChannel_inj hchannel
    cases hown
    cases correlationId with
    | none => cases hanswers
    | some correlationId =>
      cases hanswers
      exact .direct rfl
  | broadcast senderId capability content sent =>
    exact absurd hchannel.symm (directChannel_ne_capabilityChannel _ _)
  | ask other =>
    have hown := decode_own hjson hmem rfl fresh
    rw [hdecoded] at hown
    cases hown
    have hrequests : other ∈ steps.filterMap BusEvent.opened? ∧
        request ∈ steps.filterMap BusEvent.opened? :=
      ⟨List.mem_filterMap.2 ⟨_, opened_of_ask hmem, rfl⟩,
        List.mem_filterMap.2 ⟨_, hopened, rfl⟩⟩
    have hsame : other = request :=
      List.inj_on_of_nodup_map hfresh hrequests.1 hrequests.2 (Option.some.inj hanswers)
    subst hsame
    exact .itself (directChannel_inj hchannel) rfl
  | foreign channel payload =>
    cases hchannel
    exact .foreign hdecoded hanswers

section Results

variable {env : Env} {steps : List BusEvent} {index : Nat}
  {s : PubSub.Subscriber String Publication Role FreshFields}

theorem run_subscriber (hs : (run env steps).subscribers[index]? = some s) :
    Opened steps s.topic s.state ∧ HasRead env s.state s.read :=
  subscriber_of_earlier (List.prefix_refl _) hs

theorem got_eq_due (hkeeps : .lose index ∉ steps)
    (hs : (run env steps).subscribers[index]? = some s) :
    PubSub.System.got s = (system env).due (run env steps).log s :=
  PubSub.System.after_eq (fun hlose => hkeeps (lose_mem hlose)) hs

theorem mem_due {publication : Publication}
    (h : publication ∈ (system env).due (run env steps).log s) :
    publication ∈ (run env steps).log ∧ publication.channel = s.topic := by
  unfold PubSub.System.due at h
  cases hsince : s.since with
  | none =>
    rw [hsince] at h
    cases h
  | some since =>
    rw [hsince] at h
    obtain ⟨hmem, htopic⟩ := List.mem_filter.1 h
    exact ⟨List.mem_of_mem_drop hmem, of_decide_eq_true htopic⟩

/-- A message of the bus on the channel of an agent is for the agent. -/
theorem recipientId_of_direct {publication : Publication} {agentId : String}
    {message : AgentMessage} (hchannel : publication.channel = directChannel agentId)
    (hmessage : publication.message? = some message) : message.recipientId = .str agentId := by
  cases publication with
  | direct _ recipientId _ _ _ | ask request =>
    cases hmessage
    exact congrArg Json.str (directChannel_inj hchannel)
  | broadcast _ capability _ _ =>
    exact absurd hchannel.symm (directChannel_ne_capabilityChannel _ _)
  | foreign _ _ => cases hmessage

/-- A message of the bus on the channel of a capability is a notification. -/
theorem notification_of_capability {publication : Publication} {capability : String}
    {message : AgentMessage} (hchannel : publication.channel = capabilityChannel capability)
    (hmessage : publication.message? = some message) :
    message.messageType = .str "notification" ∧
      message.channel = .str (capabilityChannel capability) := by
  cases publication with
  | direct _ _ _ _ _ | ask _ => exact absurd hchannel (directChannel_ne_capabilityChannel _ _)
  | broadcast _ _ _ _ =>
    cases hmessage
    exact ⟨rfl, congrArg Json.str hchannel⟩
  | foreign _ _ => cases hmessage

end Results

/-- In any run of the bus, with any number of requests, listeners and messages of
anybody: a request that has returned a message was sent it directly with its own
correlation id, while its subscription was in place, or has asked itself, or was
answered by somebody who is not on the bus.  While its connection does not break
a request misses no reply: it returns the first one, and until then all of them
are still to be read. -/
theorem requests_get_their_replies (env : Env) (steps : List BusEvent)
    (hjson : ∀ publication ∈ (run env steps).log, ∀ message,
      publication.message? = some message →
      env.loads (publication.payload env) = some (.dict (messageToDict message)))
    (hfresh : ((steps.filterMap BusEvent.opened?).map Request.correlationId).Nodup)
    (index : Nat) (s : PubSub.Subscriber String Publication Role FreshFields)
    (hs : (run env steps).subscribers[index]? = some s) (request : Request) (phase : Phase)
    (hrole : s.state = .request request phase) :
    (∀ message, phase = .returned message →
      ∃ publication ∈ (system env).due (run env steps).log s,
        Source env request message publication) ∧
    (.lose index ∉ steps →
      (phase = .waiting →
        ((system env).due (run env steps).log s).filter (replies env request) =
          s.pending.filter (replies env request)) ∧
      ∀ message, phase = .returned message → ∃ publication fresh,
        (((system env).due (run env steps).log s).filter (replies env request)).head? =
          some publication ∧
        decode env fresh (publication.payload env) = some message) := by
  obtain ⟨hopened, hread⟩ := run_subscriber hs
  obtain ⟨hwaiting, hreturned⟩ := filter_replies_got hrole hread
  rw [hrole] at hopened
  constructor
  · intro message hphase
    obtain ⟨publication, hmem, fresh, -, hdecoded, hanswers⟩ := hreturned message hphase
    have hgot : publication ∈ PubSub.System.got s := List.mem_append_left _ hmem
    have hdue := (PubSub.System.after_sublist hs).subset hgot
    obtain ⟨hlog, htopic⟩ := mem_due hdue
    exact ⟨publication, hdue, source_of_reply hjson hfresh hopened.1 hlog
      (htopic.trans hopened.2) hdecoded hanswers⟩
  · intro hkeeps
    rw [← got_eq_due hkeeps hs]
    refine ⟨hwaiting, fun message hphase => ?_⟩
    obtain ⟨publication, -, fresh, hfirst, hdecoded, -⟩ := hreturned message hphase
    exact ⟨publication, fresh, hfirst, hdecoded⟩

/-! ## A conversation -/

namespace BusExample

def asked : Request where
  senderId := "alpha"
  recipientId := "beta"
  content := "How is it going?"
  correlationId := "c1"
  fresh := ⟨"m1", "10:00"⟩

def ignored : Publication := .direct "gamma" "alpha" "Hello." (some "c0") ⟨"m2", "10:01"⟩

def answered : Publication := .direct "beta" "alpha" "Fine." (some "c1") ⟨"m3", "10:02"⟩

/-- The dictionaries of the three messages. -/
def known : List Json :=
  [.ask asked, ignored, answered].filterMap (fun publication : Publication =>
    publication.message?.map (fun message => .dict (messageToDict message)))

/-- `json.dumps` on the values of these messages. -/
def dumpsValue : Json → String
  | .str text => "\"" ++ text ++ "\""
  | .dict _ => "\x7b\x7d"
  | _ => "null"

/-- `json.dumps` on these messages. -/
def dumps : Json → String
  | .dict entries =>
    "\x7b" ++ ", ".intercalate (entries.map (fun entry =>
      "\"" ++ entry.1 ++ "\": " ++ dumpsValue entry.2)) ++ "\x7d"
  | value => dumpsValue value

/-- `json.loads` on the texts of these messages. -/
def env : Env where
  dumps
  loads text := known.find? (fun data => dumps data = text)
  maxSize := 1000

/-- Alpha listens to its own channel and asks beta; a message of gamma comes before
the answer. -/
def conversation : List BusEvent :=
  [ .requestResponse asked, .subscribeDirect "alpha", .establish 0, .act 0 .publish, .establish 1,
    .sendDirect "gamma" "alpha" "Hello." (some "c0") ⟨"m2", "10:01"⟩,
    .sendDirect "beta" "alpha" "Fine." (some "c1") ⟨"m3", "10:02"⟩,
    .deliver 0 ⟨"", ""⟩, .deliver 0 ⟨"", ""⟩, .deliver 1 ⟨"", ""⟩ ]

theorem log_eq : (run env conversation).log = [.ask asked, ignored, answered] := by
  decide +kernel

/-- A text is found by itself among distinct texts. -/
theorem find?_dumps {data : Json} {among : List Json} (hdistinct : (among.map dumps).Nodup)
    (hmem : data ∈ among) : among.find? (fun other => dumps other = dumps data) = some data := by
  induction among with
  | nil => cases hmem
  | cons first rest ih =>
    obtain ⟨hfirst, hrest⟩ := List.nodup_cons.1 hdistinct
    rcases List.mem_cons.1 hmem with rfl | hlater
    · exact List.find?_cons_of_pos (decide_eq_true rfl)
    · have hne : ¬dumps first = dumps data := by
        intro heq
        rw [heq] at hfirst
        exact hfirst (List.mem_map_of_mem hlater)
      rw [List.find?_cons_of_neg (by simpa using hne)]
      exact ih hrest hlater

theorem distinct : (known.map dumps).Nodup := by
  decide +kernel

theorem loads_dumps {data : Json} (h : data ∈ known) : env.loads (env.dumps data) = some data :=
  find?_dumps distinct h

theorem loads_own : ∀ publication ∈ (run env conversation).log, ∀ message,
    publication.message? = some message →
    env.loads (publication.payload env) = some (.dict (messageToDict message)) := by
  intro publication hmem message hmessage
  rw [log_eq] at hmem
  have hknown : Json.dict (messageToDict message) ∈ known := by
    unfold known
    refine List.mem_filterMap.2 ⟨publication, hmem, ?_⟩
    rw [hmessage]
    rfl
  rw [payload_of_message env hmessage]
  exact loads_dumps hknown

theorem ids_distinct :
    ((conversation.filterMap BusEvent.opened?).map Request.correlationId).Nodup :=
  List.nodup_singleton _

/-- What a request has returned. -/
def returned? : Role → Option (Request × String)
  | .request request (.returned message) =>
    message.content.asString?.map (fun content => (request, content))
  | _ => none

theorem returned_of_some {role : Role} {request : Request} {content : String}
    (h : returned? role = some (request, content)) : ∃ message,
      role = .request request (.returned message) ∧ message.content.asString? = some content := by
  unfold returned? at h
  split at h
  · rename_i other message
    obtain ⟨text, htext, heq⟩ := Option.map_eq_some_iff.1 h
    cases heq
    exact ⟨message, rfl, htext⟩
  · cases h

/-- What a listener has yielded. -/
def yielded? : Role → Option (List AgentMessage)
  | .listener yielded => some yielded
  | .request _ _ => none

theorem listener_of_some {role : Role} {yielded : List AgentMessage}
    (h : yielded? role = some yielded) : role = .listener yielded := by
  cases role with
  | listener _ =>
    cases h
    rfl
  | request _ _ => cases h

end BusExample

open BusExample in
/-- Alpha gets the answer of beta. -/
theorem requests_get_their_replies_fine :
    ∃ s message, (run env conversation).subscribers[0]? = some s ∧
      s.state = .request asked (.returned message) ∧
      message.content.asString? = some "Fine." ∧
      ∃ publication ∈ (system env).due (run env conversation).log s,
        Source env asked message publication := by
  have h : ((run env conversation).subscribers[0]?).bind (fun s => returned? s.state) =
      some (asked, "Fine.") := by decide +kernel
  obtain ⟨s, hs, hreturned⟩ := Option.bind_eq_some_iff.1 h
  obtain ⟨message, hrole, hcontent⟩ := returned_of_some hreturned
  exact ⟨s, message, hs, hrole, hcontent, (requests_get_their_replies env conversation loads_own
    ids_distinct 0 s hs asked _ hrole).1 message rfl⟩

/-- In any run of the bus: what a listener yields was sent to its agent, or to its
capability, while its subscription was in place, in the order of the messages and
each once; while its connection does not break, all of it is yielded or still to
be read. -/
theorem listeners_get_their_messages (env : Env) (steps : List BusEvent)
    (hjson : ∀ publication ∈ (run env steps).log, ∀ message,
      publication.message? = some message →
      env.loads (publication.payload env) = some (.dict (messageToDict message)))
    (index : Nat) (s : PubSub.Subscriber String Publication Role FreshFields)
    (hs : (run env steps).subscribers[index]? = some s) (yielded : List AgentMessage)
    (hrole : s.state = .listener yielded)
    (hown : ∀ publication ∈ (system env).due (run env steps).log s,
      (Publication.message? publication).isSome = true) :
    ((∃ agentId, .subscribeDirect agentId ∈ steps ∧
        ∀ message ∈ yielded, message.recipientId = .str agentId) ∨
      ∃ capability, .subscribeCapability capability ∈ steps ∧
        ∀ message ∈ yielded, message.messageType = .str "notification" ∧
          message.channel = .str (capabilityChannel capability)) ∧
    List.Sublist yielded
      (((system env).due (run env steps).log s).filterMap Publication.message?) ∧
    (.lose index ∉ steps →
      ((system env).due (run env steps).log s).filterMap Publication.message? =
        yielded ++ s.pending.filterMap Publication.message?) := by
  obtain ⟨hopened, hread⟩ := run_subscriber hs
  rw [hrole] at hopened hread
  have hsublist := PubSub.System.after_sublist hs
  have hdue : ∀ publication ∈ s.read.map Prod.fst,
      publication ∈ (system env).due (run env steps).log s :=
    fun publication hmem => hsublist.subset (List.mem_append_left _ hmem)
  have hyielded : yielded = (s.read.map Prod.fst).filterMap Publication.message? := by
    rw [hread, List.filterMap_map]
    refine List.filterMap_congr (fun entry hentry => ?_)
    have hmem := hdue entry.1 (List.mem_map_of_mem hentry)
    obtain ⟨message, hmessage⟩ := Option.isSome_iff_exists.1 (hown entry.1 hmem)
    rw [decode_own hjson (mem_due hmem).1 hmessage entry.2]
    exact hmessage.symm
  have hfrom : ∀ message ∈ yielded, ∃ publication : Publication, publication.channel = s.topic ∧
      publication.message? = some message := by
    intro message hmem
    rw [hyielded] at hmem
    obtain ⟨publication, hpublication, hmessage⟩ := List.mem_filterMap.1 hmem
    exact ⟨publication, (mem_due (hdue publication hpublication)).2, hmessage⟩
  refine ⟨?_, ?_, fun hkeeps => ?_⟩
  · rcases hopened with ⟨agentId, hstep, htopic⟩ | ⟨capability, hstep, htopic⟩
    · refine Or.inl ⟨agentId, hstep, fun message hmem => ?_⟩
      obtain ⟨publication, hchannel, hmessage⟩ := hfrom message hmem
      exact recipientId_of_direct (hchannel.trans htopic) hmessage
    · refine Or.inr ⟨capability, hstep, fun message hmem => ?_⟩
      obtain ⟨publication, hchannel, hmessage⟩ := hfrom message hmem
      exact notification_of_capability (hchannel.trans htopic) hmessage
  · rw [hyielded]
    exact ((List.sublist_append_left _ _).trans hsublist).filterMap _
  · rw [← got_eq_due hkeeps hs, hyielded]
    exact List.filterMap_append

open BusExample in
/-- The listener of alpha has read one of the two messages to alpha. -/
theorem listeners_get_their_messages_one :
    ∃ s yielded, (run env conversation).subscribers[1]? = some s ∧
      s.state = .listener yielded ∧ yielded.length = 1 ∧
      ((system env).due (run env conversation).log s).filterMap Publication.message? =
        yielded ++ s.pending.filterMap Publication.message? := by
  have hyielded : ((run env conversation).subscribers[1]?).bind (fun s =>
      (yielded? s.state).map List.length) = some 1 := by decide +kernel
  have hown : ((run env conversation).subscribers[1]?).all (fun s =>
      ((system env).due (run env conversation).log s).all (fun publication =>
        publication.message?.isSome)) = true := by decide +kernel
  obtain ⟨s, hs, hlength⟩ := Option.bind_eq_some_iff.1 hyielded
  obtain ⟨yielded, hrole, hone⟩ := Option.map_eq_some_iff.1 hlength
  rw [hs] at hown
  have hlistener := listener_of_some hrole
  exact ⟨s, yielded, hs, hlistener, hone,
    (listeners_get_their_messages env conversation loads_own 1 s hs yielded hlistener
      (List.all_eq_true.1 hown)).2.2 (by simp [conversation])⟩

end AgentMessageBus

end MassClaw
