import EventBus.Config
import EventBus.Url

namespace EventBus.BrokerSettings

def encrypted? (scheme : String) : Option Bool :=
  if scheme = "mqtt" ∨ scheme = "tcp" then some false
  else if scheme = "mqtts" ∨ scheme = "ssl" then some true
  else none

def defaultPort (encrypted : Bool) : UInt16 := if encrypted then 8883 else 1883

/-- Everything a URL does not say is standard. A password without a user name is dropped. -/
def ofUrl? (clientId url : String) : Option BrokerSettings := do
  let parts ← Url.read? url
  let useTls ← encrypted? parts.scheme
  let anonymous := parts.username = ""
  some { standard clientId with
    host := parts.host
    port := parts.port.getD (defaultPort useTls)
    useTls := useTls
    username := if anonymous then none else some parts.username
    password := if anonymous then none else parts.password }

def ofUrl (clientId url : String) : Except ConfigError BrokerSettings :=
  match ofUrl? clientId url with
  | some settings => .ok settings
  | none => .error (.invalidUrl url)

end EventBus.BrokerSettings
