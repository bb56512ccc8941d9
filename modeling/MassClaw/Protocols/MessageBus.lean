import MassClaw.Core.Operators
import MassClaw.Lib.PubSub

/-!
# Messages between agents, `app/protocols/message_bus.py`

Agents publish JSON texts on Redis channels, one channel for each agent and one
for each capability.  `request_response` subscribes to the channel of the asking
agent, publishes its request and reads until a message has the request's
correlation id.

The command that subscribes and the one that publishes go over different
connections, so a subscription can come into place before or after the request
is published.  Redis passes a message on once at most: what waits in a
connection that breaks is lost.
-/

namespace MassClaw

/-- `AgentMessage`, `app/protocols/base.py`.  A dataclass checks no types, so a
message that was read can have any value in a field. -/
structure AgentMessage where
  senderId : Json
  channel : Json
  content : Json
  messageType : Json
  recipientId : Json
  messageId : Json
  timestamp : Json
  correlationId : Json
  metadata : Json

/-- What the default factories of a message return: `uuid4` and the clock. -/
structure FreshFields where
  messageId : String
  timestamp : String
  deriving DecidableEq

namespace AgentMessageBus

/-- `_DIRECT_CHANNEL_PREFIX`. -/
def directChannelPrefix : String := "massclaw:agent:direct:"

/-- `_CAPABILITY_CHANNEL_PREFIX`. -/
def capabilityChannelPrefix : String := "massclaw:agent:capability:"

/-- The channel of an agent. -/
def directChannel (agentId : String) : String := directChannelPrefix ++ agentId

/-- The channel of a capability. -/
def capabilityChannel (capability : String) : String := capabilityChannelPrefix ++ capability

theorem directChannel_inj {a b : String} (h : directChannel a = directChannel b) : a = b := by
  unfold directChannel at h
  rw [← String.toList_inj, String.toList_append, String.toList_append] at h
  exact String.toList_inj.1 (List.append_cancel_left h)

theorem directChannel_ne_capabilityChannel (agentId capability : String) :
    directChannel agentId ≠ capabilityChannel capability := by
  intro h
  unfold directChannel capabilityChannel at h
  rw [← String.toList_inj, String.toList_append, String.toList_append] at h
  have hletter := congrArg (fun letters : List Char => letters[15]?) h
  rw [List.getElem?_append_left (by decide), List.getElem?_append_left (by decide)] at hletter
  exact absurd hletter (by decide)

/-! ## The JSON form -/

/-- `_message_to_dict`. -/
def messageToDict (message : AgentMessage) : List (String × Json) :=
  [ ("sender_id", message.senderId),
    ("channel", message.channel),
    ("content", message.content),
    ("message_type", message.messageType),
    ("recipient_id", message.recipientId),
    ("message_id", message.messageId),
    ("timestamp", message.timestamp),
    ("correlation_id", message.correlationId),
    ("metadata", message.metadata) ]

/-- The names of the fields. -/
def fieldNames : List String :=
  ["sender_id", "channel", "content", "message_type", "recipient_id", "message_id", "timestamp",
    "correlation_id", "metadata"]

/-- `_message_from_dict`; `none` is a `TypeError`: for a value that is no
dictionary, an unknown key or a missing one. -/
def messageFromDict (fresh : FreshFields) : Json → Option AgentMessage
  | .dict entries =>
    if ∀ key ∈ entries.map Prod.fst, key ∈ fieldNames then
      match Json.get? entries "sender_id", Json.get? entries "channel",
          Json.get? entries "content", Json.get? entries "message_type" with
      | some senderId, some channel, some content, some messageType =>
        some
          { senderId, channel, content, messageType
            recipientId := Json.getD entries "recipient_id" .null
            messageId := Json.getD entries "message_id" (.str fresh.messageId)
            timestamp := Json.getD entries "timestamp" (.str fresh.timestamp)
            correlationId := Json.getD entries "correlation_id" .null
            metadata := Json.getD entries "metadata" (.dict []) }
      | _, _, _, _ => none
    else none
  | _ => none

/-- A message has a value for every field. -/
theorem messageFromDict_toDict (fresh : FreshFields) (message : AgentMessage) :
    messageFromDict fresh (.dict (messageToDict message)) = some message := by
  have hkeys : ∀ key ∈ (messageToDict message).map Prod.fst, key ∈ fieldNames :=
    fun key hmem => hmem
  dsimp only [messageFromDict]
  rw [if_pos hkeys]
  rfl

/-- `json.dumps` and `json.loads`, for which `none` is an exception, and
`agent_message_max_size_bytes`. -/
structure Env where
  dumps : Json → String
  loads : String → Option Json
  maxSize : Nat

/-- What both loops do with the data of a message. -/
def decode (env : Env) (fresh : FreshFields) (payload : String) : Option AgentMessage :=
  (env.loads payload).bind (messageFromDict fresh)

/-! ## Publications -/

/-- A call of `request_response`, with the ids and the time that it takes. -/
structure Request where
  senderId : String
  recipientId : String
  content : String
  correlationId : String
  fresh : FreshFields
  deriving DecidableEq

/-- What is published: by the calls of the bus, or by somebody else. -/
inductive Publication
  | direct (senderId recipientId content : String) (correlationId : Option String)
    (fresh : FreshFields)
  | broadcast (senderId capability content : String) (fresh : FreshFields)
  | ask (request : Request)
  | foreign (channel payload : String)
  deriving DecidableEq

/-- The message of a request. -/
def Request.message (request : Request) : AgentMessage where
  senderId := .str request.senderId
  recipientId := .str request.recipientId
  channel := .str (directChannel request.recipientId)
  content := .str request.content
  messageType := .str "request"
  correlationId := .str request.correlationId
  messageId := .str request.fresh.messageId
  timestamp := .str request.fresh.timestamp
  metadata := .dict []

/-- `msg.channel`. -/
def Publication.channel : Publication → String
  | .direct _ recipientId _ _ _ => directChannel recipientId
  | .broadcast _ capability _ _ => capabilityChannel capability
  | .ask request => directChannel request.recipientId
  | .foreign channel _ => channel

/-- The message that a call of the bus builds. -/
def Publication.message? : Publication → Option AgentMessage
  | .direct senderId recipientId content correlationId fresh =>
    some
      { senderId := .str senderId
        recipientId := .str recipientId
        channel := .str (directChannel recipientId)
        content := .str content
        messageType := .str "request"
        correlationId := (correlationId.map Json.str).getD .null
        messageId := .str fresh.messageId
        timestamp := .str fresh.timestamp
        metadata := .dict [] }
  | .broadcast senderId capability content fresh =>
    some
      { senderId := .str senderId
        recipientId := .null
        channel := .str (capabilityChannel capability)
        content := .str content
        messageType := .str "notification"
        correlationId := .null
        messageId := .str fresh.messageId
        timestamp := .str fresh.timestamp
        metadata := .dict [] }
  | .ask request => some request.message
  | .foreign _ _ => none

/-- The text that is published. -/
def Publication.payload (env : Env) : Publication → String
  | .foreign _ payload => payload
  | publication =>
    ((publication.message?).map (fun message => env.dumps (.dict (messageToDict message)))).getD ""

theorem payload_of_message (env : Env) {publication : Publication} {message : AgentMessage}
    (h : publication.message? = some message) :
    publication.payload env = env.dumps (.dict (messageToDict message)) := by
  cases publication with
  | direct _ _ _ _ _ | broadcast _ _ _ _ | ask _ =>
    cases h
    rfl
  | foreign _ _ => cases h

/-- `send_direct` and `broadcast_capability` check the size of the text that they
publish. -/
def checkSize (env : Env) (publication : Publication) : Except String Publication :=
  if env.maxSize < (publication.payload env).utf8ByteSize then
    .error ("Message size exceeds limit (" ++ toString env.maxSize ++ " bytes)")
  else .ok publication

/-- `send_direct`. -/
def sendDirect (env : Env) (senderId recipientId content : String) (correlationId : Option String)
    (fresh : FreshFields) : Except String Publication :=
  checkSize env (.direct senderId recipientId content correlationId fresh)

/-- `broadcast_capability`. -/
def broadcastCapability (env : Env) (senderId capability content : String) (fresh : FreshFields) :
    Except String Publication :=
  checkSize env (.broadcast senderId capability content fresh)

/-! ## Subscribers -/

/-- Where a call of `request_response` is. -/
inductive Phase
  | opening
  | waiting
  | returned (message : AgentMessage)
  | timedOut

/-- A generator of `subscribe_direct` or `subscribe_capability` with what it has
yielded, or a call of `request_response`. -/
inductive Role
  | listener (yielded : List AgentMessage)
  | request (request : Request) (phase : Phase)

/-- `candidate.correlation_id == correlation_id`. -/
def Request.Answers (request : Request) (message : AgentMessage) : Prop :=
  message.correlationId.asString? = some request.correlationId

instance (request : Request) (message : AgentMessage) : Decidable (request.Answers message) := by
  unfold Request.Answers; infer_instance

/-- The steps of a request beside its reading: its publication, for which no size
is checked, and the timeout. -/
inductive Action
  | publish
  | timeout

/-- What a subscriber does with the data of a message. -/
def receive (env : Env) (role : Role) (publication : Publication) (fresh : FreshFields) : Role :=
  match role, decode env fresh (publication.payload env) with
  | .listener yielded, some message => .listener (yielded ++ [message])
  | .request request .waiting, some message =>
    if request.Answers message then .request request (.returned message)
    else .request request .waiting
  | role, _ => role

/-- The steps of a call of `request_response`. -/
def act : Role → Action → Role × Option Publication
  | .request request .opening, .publish => (.request request .waiting, some (.ask request))
  | .request request .waiting, .timeout => (.request request .timedOut, none)
  | role, _ => (role, none)

/-- The bus: generators read whenever they are asked, requests while they wait. -/
def system (env : Env) : PubSub.System String Publication Role FreshFields Action where
  topic := Publication.channel
  listens
    | .listener _ => true
    | .request _ .waiting => true
    | .request _ _ => false
  receive := receive env
  act := act

/-! ## Runs -/

/-- A step of somebody on the bus. -/
inductive BusEvent
  | sendDirect (senderId recipientId content : String) (correlationId : Option String)
    (fresh : FreshFields)
  | broadcastCapability (senderId capability content : String) (fresh : FreshFields)
  | foreign (channel payload : String)
  | subscribeDirect (agentId : String)
  | subscribeCapability (capability : String)
  | requestResponse (request : Request)
  | establish (index : Nat)
  | deliver (index : Nat) (fresh : FreshFields)
  | act (index : Nat) (action : Action)
  | lose (index : Nat)

/-- A call that raises publishes nothing. -/
def published : Except String Publication →
    List (PubSub.Event String Publication Role FreshFields Action)
  | .error _ => []
  | .ok publication => [.publish publication]

/-- A step in terms of publications and subscriptions. -/
def BusEvent.events (env : Env) :
    BusEvent → List (PubSub.Event String Publication Role FreshFields Action)
  | .sendDirect senderId recipientId content correlationId fresh =>
    published (AgentMessageBus.sendDirect env senderId recipientId content correlationId fresh)
  | .broadcastCapability senderId capability content fresh =>
    published (AgentMessageBus.broadcastCapability env senderId capability content fresh)
  | .foreign channel payload => [.publish (.foreign channel payload)]
  | .subscribeDirect agentId => [.join (directChannel agentId) (.listener [])]
  | .subscribeCapability capability => [.join (capabilityChannel capability) (.listener [])]
  | .requestResponse request =>
    [.join (directChannel request.senderId) (.request request .opening)]
  | .establish index => [.establish index]
  | .deliver index fresh => [.deliver index fresh]
  | .act index action => [.act index action]
  | .lose index => [.lose index]

/-- The bus after the steps. -/
def run (env : Env) (steps : List BusEvent) : PubSub.Broker String Publication Role FreshFields :=
  (system env).after (steps.flatMap (BusEvent.events env))

end AgentMessageBus

end MassClaw
