import EventBus.Json.Record
import EventBus.Qos

namespace EventBus

structure Message where
  topic : String
  payload : SortedMap Json
  qos : Qos := .standard
  retain : Bool := false
  headers : SortedMap String := .empty
  correlationId : Option String := none
  timestamp : Option Timestamp := none

namespace Json

def kind : Json → String
  | .null => "null"
  | .bool _ => "a boolean"
  | .number _ => "a number"
  | .string _ => "a string"
  | .array _ => "an array"
  | .object _ => "an object"

end Json

structure NotAnObject where
  kind : String
  deriving DecidableEq, Repr

def NotAnObject.message (error : NotAnObject) : String :=
  s!"Payload must serialize to a JSON object, got {error.kind}"

namespace Message

def payloadOfJson : Json → Except NotAnObject (SortedMap Json)
  | .object fields => .ok (SortedMap.ofList fields)
  | json => .error ⟨json.kind⟩

def withHeader (message : Message) (key value : String) : Message :=
  { message with headers := message.headers.insert key value }

/-- Headers, correlation id and time are written only when there are any. -/
def toJson (message : Message) : Json :=
  .ofFields <|
    [("topic", .string message.topic), ("payload", .object message.payload.entries),
      ("qos", message.qos.toJson), ("retain", .bool message.retain)] ++
    Json.member? "headers"
      (if message.headers.isEmpty then none
        else some (.object (message.headers.mapValues fun _ v => Json.string v).entries)) ++
    Json.member? "correlation_id" (message.correlationId.map .string) ++
    Json.member? "timestamp" (message.timestamp.map fun t => .string t.text)

def fieldNames : List String :=
  ["topic", "payload", "qos", "retain", "headers", "correlation_id", "timestamp"]

end Message

def Qos.ofTree? (tree : Json.Tree) : Option Qos := Json.Record.natural? 256 tree >>= Qos.ofLevel?

def Qos.read? (text : String) : Option Qos := Json.Tree.read text.toList >>= Qos.ofTree?

open Record Json.Record in
def Message.ofTree? (tree : Json.Tree) : Option Message := do
  match ← slots? fieldNames Json.maxDepth tree with
  | ([topic, payload, qos, retain, headers, correlationId, timestamp], depth) =>
    some {
      topic := ← required text? topic
      payload := ← required (map? depth) payload
      qos := ← withDefault .standard Qos.ofTree? qos
      retain := ← withDefault false bool? retain
      headers := ← withDefault .empty (mapOf? text?) headers
      correlationId := ← optional text? correlationId
      timestamp := ← optional time? timestamp }
  | _ => none

def Message.read? (text : String) : Option Message := Json.Tree.read text.toList >>= Message.ofTree?

/-- The outcome of publishing. A failure is an outcome like a success, never an exception. -/
structure PublishResult where
  success : Bool
  messageId : Option String
  error : Option String
  deriving DecidableEq, Repr

namespace PublishResult

def ok (messageId : String) : PublishResult := ⟨true, some messageId, none⟩

def failed (error : String) : PublishResult := ⟨false, none, some error⟩

def toJson (result : PublishResult) : Json :=
  .ofFields <|
    [("success", .bool result.success)] ++
    Json.member? "message_id" (result.messageId.map .string) ++
    Json.member? "error" (result.error.map .string)

open Record Json.Record in
def ofTree? (tree : Json.Tree) : Option PublishResult := do
  match ← slots? ["success", "message_id", "error"] Json.maxDepth tree with
  | ([success, messageId, error], _) =>
    some {
      success := ← required bool? success
      messageId := ← optional text? messageId
      error := ← optional text? error }
  | _ => none

def read? (text : String) : Option PublishResult := Json.Tree.read text.toList >>= ofTree?

end PublishResult
end EventBus
