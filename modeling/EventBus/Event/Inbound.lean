import EventBus.Event

namespace EventBus.Event

/-- The keys that may name the type, the first one with a text that is not empty wins. -/
def typeKeys : List String := ["@type", "event_type", "type"]

namespace Inbound

def text? (fields : Entries Json) (key : String) : Option String :=
  Entries.find? key fields >>= Json.string?

/-- The text under the first of the keys that holds one. -/
def firstText? (fields : Entries Json) (keys : List String) : Option String :=
  keys.findSome? (text? fields)

def eventType? (fields : Entries Json) : Option String :=
  typeKeys.findSome? fun key => (text? fields key).filter (· ≠ "")

def sourceOf : Option Json → Source
  | some (.object fields) =>
    { appKey := (text? fields "app_key").getD "unknown"
      appVersion := (text? fields "app_version").getD "unknown"
      moduleName := text? fields "module"
      instanceId := text? fields "instance_id" }
  | some (.string appKey) => { appKey }
  | _ => {}

def contextOf : Option Json → Context
  | some (.string address) => .uri address
  | some (.object fields) => .terms (SortedMap.ofList fields)
  | _ => defaultContext

def metadataOf : Option Json → SortedMap Json
  | some (.object fields) => SortedMap.ofList fields
  | _ => .empty

end Inbound

open Inbound in
def ofTypedFields (stamp : Stamp) (eventType : String) (fields : Entries Json) : Event where
  id := (text? fields "id").getD stamp.id
  eventType
  context := contextOf (Entries.find? "@context" fields)
  source := sourceOf (Entries.find? "source" fields)
  timestamp :=
    ((firstText? fields ["timestamp", "_timestamp"]) >>= Timestamp.read?).getD stamp.time
  correlationId := firstText? fields ["correlation_id", "_correlationId"]
  payload := (Entries.find? "payload" fields).getD (.object [])
  metadata := metadataOf (Entries.find? "metadata" fields)

/-- A payload without a type becomes the `data` of an event of unknown type. -/
def untyped (stamp : Stamp) (raw : Json) : Event :=
  .new stamp unknownType (.object [("data", raw)])

/-- An object that names its type is taken apart field by field, with a default for whatever is
missing or of the wrong kind. Anything else is wrapped whole. -/
def ofJson (stamp : Stamp) (raw : Json) : Event :=
  match raw.object? with
  | none => untyped stamp raw
  | some fields =>
    match Inbound.eventType? fields with
    | none => untyped stamp raw
    | some eventType => ofTypedFields stamp eventType fields

end EventBus.Event
