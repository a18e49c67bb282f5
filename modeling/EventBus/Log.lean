namespace EventBus.Log

inductive Level where
  | error
  | warn
  | info
  | debug
  | trace
  deriving DecidableEq, Repr

inductive Format where
  | json
  | pretty
  | compact
  deriving DecidableEq, Repr

namespace Level

def name : Level → String
  | .error => "ERROR"
  | .warn => "WARN"
  | .info => "INFO"
  | .debug => "DEBUG"
  | .trace => "TRACE"

def rank : Level → Nat
  | .error => 0
  | .warn => 1
  | .info => 2
  | .debug => 3
  | .trace => 4

/-- Only ASCII letters need folding: no other letter has one of these as its other case. -/
def ofName (text : String) : Level :=
  match text.toUpper with
  | "ERROR" => .error
  | "WARN" => .warn
  | "DEBUG" => .debug
  | "TRACE" => .trace
  | _ => .info

def shows (limit level : Level) : Bool := level.rank ≤ limit.rank

end Level

def Format.ofName (text : String) : Format :=
  match text.toLower with
  | "pretty" => .pretty
  | "compact" => .compact
  | _ => .json

inductive Part where
  | program
  | registry
  | declarations
  | service
  | connection
  | options
  | publisher
  | subscriber
  deriving DecidableEq, Repr

def Part.path : Part → String
  | .program => "eventbus"
  | .registry => "mqtt_eventbus::subscription::registry"
  | .declarations => "mqtt_eventbus::subscription::declarations"
  | .service => "mqtt_eventbus::subscription::service"
  | .connection => "mqtt_eventbus::transport::mqtt::reconnect"
  | .options => "mqtt_eventbus::transport::mqtt::connection"
  | .publisher => "mqtt_eventbus::transport::mqtt::publisher"
  | .subscriber => "mqtt_eventbus::transport::mqtt::subscriber"

structure Span where
  part : Part
  name : String
  level : Level
  fields : List String
  deriving DecidableEq, Repr

structure Line where
  part : Part
  level : Level
  message : String
  fields : List String := []
  span : Option Span := none
  ofSpan : Bool := false
  deriving DecidableEq, Repr

def error (part : Part) (message : String) (fields : List String := []) : Line :=
  { part, level := .error, message, fields }

def warn (part : Part) (message : String) (fields : List String := []) : Line :=
  { part, level := .warn, message, fields }

def info (part : Part) (message : String) (fields : List String := []) : Line :=
  { part, level := .info, message, fields }

namespace Span

def tell (span : Span) (message : String) : Line :=
  { part := span.part, level := span.level, message, span := some span, ofSpan := true }

def opened (span : Span) : Line := span.tell "new"

def closed (span : Span) : Line := span.tell "close"

def around (span : Span) (lines : List Line) : List Line :=
  lines.map fun line => { line with span := some span }

end Span
end EventBus.Log
