import EventBus.Config.Record
import EventBus.Config.Substitution
import EventBus.Toml.Reader

namespace EventBus.Config

def load (environment : String → Option String) (clientId : String) (text : String) :
    Except ConfigError Config :=
  match substitute environment text.toList with
  | .error name => .error (.variableMissing name)
  | .ok resolved =>
    match Toml.read? (String.ofList resolved) >>= ofToml? clientId with
    | none => .error .notToml
    | some config =>
      match config.validate with
      | .error fault => .error (.invalid fault)
      | .ok () => .ok config

end EventBus.Config
