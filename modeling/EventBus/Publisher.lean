import EventBus.Event.Outbound
import EventBus.Publisher.Session
import EventBus.Topic.Prefix

namespace EventBus

/-- One session for what goes out. A failure to publish is a result, never an error. The counters
are taken modulo `2 ^ 64` where they are shown. -/
structure Publisher where
  settings : BrokerSettings
  session : Option Publisher.Session := none
  published : Nat := 0
  /-- Messages that were refused while there was a connection, or are no messages. -/
  errors : Nat := 0
  deriving DecidableEq, Repr

namespace Publisher

inductive Refusal where
  | notConnected
  | wildcardTopic
  | linkGone
  | noRoom (seconds : UInt64)
  | serializerFailed (error : String)
  | notSerializable (error : NotAnObject)
  deriving DecidableEq, Repr

def Refusal.message : Refusal → String
  | .notConnected => "Not connected to MQTT broker"
  | .wildcardTopic | .linkGone => "Publish failed: Failed to send mqtt requests to eventloop"
  | .noRoom seconds => s!"Publish timed out after {seconds.toNat}s"
  | .serializerFailed error =>
    "Failed to serialize payload: " ++ ("Failed to serialize payload: " ++ error)
  | .notSerializable error => "Failed to serialize payload: " ++ error.message

def isConnected (p : Publisher) : Bool := p.session.any (·.connected)

def state? (p : Publisher) : Option Connection.State := p.session.map (·.state)

/-- Open a session and wait until the broker acknowledges it. Nothing happens while there is a
connection. An attempt that fails leaves no session. -/
def connect (network : Connection.Network) (files : Connection.FileReader)
    (provider : Option Connection.TokenProvider) (p : Publisher) :
    Option Connection.TokenProvider × Publisher × Except Connection.Error Unit :=
  if p.isConnected then (provider, p, .ok ())
  else
    let (provider, token) := Connection.TokenProvider.request provider
    let closed := { p with session := none }
    match Connection.Options.prepare files p.settings p.settings.clientId token with
    | .error error => (provider, closed, .error error)
    | .ok options =>
      let session := (Session.new (.ofSettings p.settings) options).begin (network options)
      match session.outcome p.settings.connectTimeout with
      | .ok () => (provider, { p with session := some session }, .ok ())
      | .error error => (provider, closed, .error error)

def disconnect (p : Publisher) : Publisher := { p with session := none }

def request (p : Publisher) (message : Message) (now : Timestamp) : Request where
  topic := Topic.addPrefix p.settings.topicPrefix message.topic
  qos := message.qos
  retain := message.retain
  payload := Payload.encode message now
  properties := Payload.properties message

def isWildcard (c : Char) : Bool := c = '+' || c = '#'

def submit (timeout : UInt64) (request : Request) (link : Link) : Except Refusal Link :=
  if request.topic.any isWildcard then .error .wildcardTopic
  else if link.isFull then .error (.noRoom timeout)
  else .ok (link.enqueue request)

/-- Count a refusal, unless it is for want of a connection. -/
def refuse (p : Publisher) (refusal : Refusal) : Publisher × PublishResult :=
  (match refusal with
    | .notConnected => p
    | _ => { p with errors := p.errors + 1 },
    .failed refusal.message)

/-- Queue a request with the client of a session's link. The id is for the message if it is
accepted. -/
def put (id : String) (p : Publisher) (session : Session) (live : Bool) (request : Request) :
    Publisher × PublishResult :=
  if live then
    match submit p.settings.publishTimeout request session.link with
    | .error refusal => p.refuse refusal
    | .ok link =>
      ({ p with session := some { session with link }, published := p.published + 1 }, .ok id)
  else p.refuse .linkGone

def publish (now : Timestamp) (id : String) (p : Publisher) (message : Message) :
    Publisher × PublishResult :=
  match p.session with
  | none => p.refuse .notConnected
  | some session =>
    if !session.connected then p.refuse .notConnected
    else p.put id session (session.phase ≠ .ended) (p.request message now)

/-- The payload that a serializer makes of a value, if it makes an object of it. -/
def payloadOf : Except String Json → Except Refusal (SortedMap Json)
  | .error error => .error (.serializerFailed error)
  | .ok json => (Message.payloadOfJson json).mapError .notSerializable

def publishSerialized (now : Timestamp) (id : String) (p : Publisher) (topic : String)
    (value : Except String Json) (qos : Qos) (retain : Bool) : Publisher × PublishResult :=
  match payloadOf value with
  | .error refusal => p.refuse refusal
  | .ok payload => p.publish now id { topic, payload, qos, retain }

def publishJson (now : Timestamp) (id : String) (p : Publisher) (topic : String) (value : Json)
    (qos : Qos) (retain : Bool) : Publisher × PublishResult :=
  p.publishSerialized now id topic (.ok value) qos retain

def statsJson (p : Publisher) : Json :=
  .ofFields [("connected", .bool p.isConnected), ("publish_count", .ofCount p.published),
    ("error_count", .ofCount p.errors)]

end Publisher
end EventBus
