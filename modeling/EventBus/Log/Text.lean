import EventBus.Json.Writer
import EventBus.Log
import EventBus.Timestamp.Rfc3339

namespace EventBus.Log

def Line.record (time : Timestamp) (line : Line) : Json :=
  .ofFields [("timestamp", .string time.text), ("level", .string line.level.name),
    ("fields", .ofFields [("message", .string line.message)]), ("target", .string line.part.path)]

def Line.text (format : Format) (time : Timestamp) (line : Line) : String :=
  match format with
  | .json => (line.record time).compact
  | .compact => String.join [time.text, " ", line.level.name, " ", line.message]
  | .pretty => String.join [time.text, " ", line.level.name, " ", line.part.path, ": ",
      line.message]

end EventBus.Log
