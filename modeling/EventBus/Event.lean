import EventBus.Message
import EventBus.Topic

namespace EventBus

structure Event.Source where
  appKey : String := "unknown"
  appVersion : String := "unknown"
  moduleName : Option String := none
  instanceId : Option String := none
  deriving DecidableEq, Repr

/-- The linked-data context of an event: the address of one, or its terms. -/
inductive Event.Context where
  | uri (address : String)
  | terms (named : SortedMap Json)

def Event.defaultContext : Event.Context :=
  .uri "https://schemas.mqtt-eventbus.dev/contexts/event.jsonld"

/-- What an event is given that brings no id or no time of its own. -/
structure Event.Stamp where
  id : String
  time : Timestamp

structure Event where
  id : String
  eventType : String
  context : Event.Context := Event.defaultContext
  source : Event.Source := {}
  timestamp : Timestamp
  correlationId : Option String := none
  payload : Json
  metadata : SortedMap Json := .empty

namespace Event

def unknownType : String := "unknown"

def new (stamp : Stamp) (eventType : String) (payload : Json) : Event :=
  { id := stamp.id, eventType, timestamp := stamp.time, payload }

/-- The topic an event goes to when the sender names none. -/
def derivedTopic (event : Event) : String := Topic.ofEventType event.eventType

def Source.toJson (source : Source) : Json :=
  .ofFields <|
    [("app_key", .string source.appKey), ("app_version", .string source.appVersion)] ++
    Json.member? "module" (source.moduleName.map .string) ++
    Json.member? "instance_id" (source.instanceId.map .string)

def Context.toJson : Context → Json
  | .uri address => .string address
  | .terms named => .object named.entries

/-- The members of the envelope. Correlation id and metadata are written only when there are
any. -/
def members (event : Event) : List (String × Json) :=
  [("id", .string event.id), ("@type", .string event.eventType),
    ("@context", event.context.toJson), ("source", event.source.toJson),
    ("timestamp", .string event.timestamp.text)] ++
  Json.member? "correlation_id" (event.correlationId.map .string) ++
  [("payload", event.payload)] ++
  Json.member? "metadata"
    (if event.metadata.isEmpty then none else some (.object event.metadata.entries))

def toJson (event : Event) : Json := .ofFields event.members

end Event
end EventBus
