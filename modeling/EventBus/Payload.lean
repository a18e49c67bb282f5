import EventBus.Json.Writer
import EventBus.Message
import EventBus.Utf8

namespace EventBus.Payload

def timestampKey : String := "_timestamp"

def correlationIdKey : String := "_correlationId"

/-- A key that is already present keeps its value. -/
def stamped (message : Message) (now : Timestamp) : SortedMap Json :=
  let timed :=
    message.payload.insertNew timestampKey
      (.string (message.timestamp.getD now).textWithOffset)
  match message.correlationId with
  | some id => timed.insertNew correlationIdKey (.string id)
  | none => timed

def text (message : Message) (now : Timestamp) : List Char :=
  (Json.object (stamped message now).entries).write

def encode (message : Message) (now : Timestamp) : List UInt8 := Utf8.encode (text message now)

inductive DecodeError where
  | notUtf8 (fault : Utf8.Fault)
  | notJson
  deriving DecidableEq, Repr

def decode (bytes : List UInt8) : Except DecodeError Json :=
  match Utf8.decode bytes with
  | .error fault => .error (.notUtf8 fault)
  | .ok text =>
    match Json.ofChars? text with
    | some json => .ok json
    | none => .error .notJson

structure Properties where
  contentType : String
  correlationData : Option String
  userProperties : List (String × String)
  deriving DecidableEq, Repr

def properties (message : Message) : Properties :=
  ⟨"application/json", message.correlationId, message.headers.entries⟩

end EventBus.Payload
