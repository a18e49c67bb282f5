import EventBus.Connection.Error
import EventBus.Event.Outbound

namespace EventBus.Broker

inductive Error where
  | connection (error : Connection.Error)
  | unknown (name : String)
  | duplicate (name : String)
  | noBrokers
  | other (text : String)
  deriving DecidableEq, Repr

namespace Error

def message : Error → String
  | .connection error => "MQTT transport error: " ++ error.message
  | .unknown name => String.join ["Broker '", name, "' is not registered"]
  | .duplicate name => String.join ["Broker '", name, "' is already registered"]
  | .noBrokers => "No brokers configured"
  | .other text => "Transport error: " ++ text

def chain (error : Error) : List String :=
  match error with
  | .connection inner => error.message :: inner.chain
  | _ => [error.message]

end Error

/-- A broker that keeps in memory what is published, or one that always fails. -/
structure Memory where
  failing : Bool
  connected : Bool := false
  /-- In order of publishing. -/
  published : List Message := []

namespace Memory

def connect (b : Memory) : Memory × Except Error Unit :=
  if b.failing then (b, .error (.other "Mock connection failure"))
  else ({ b with connected := true }, .ok ())

def disconnect (b : Memory) : Memory := { b with connected := false }

def publish (b : Memory) (id : String) (message : Message) : Memory × PublishResult :=
  if b.failing then (b, .failed "Mock publish failure")
  else if !b.connected then (b, .failed "Not connected")
  else ({ b with published := b.published ++ [message] }, .ok id)

def clearHistory (b : Memory) : Memory := { b with published := [] }

end Memory
end EventBus.Broker
