import EventBus.Double.Shortest
import EventBus.Duration
import EventBus.Json.Basic
import EventBus.Qos
import EventBus.Text.Blank

namespace EventBus

structure BrokerSettings where
  host : String
  port : UInt16
  clientId : String
  username : Option String
  password : Option String
  useTls : Bool
  caCerts : Option String
  certFile : Option String
  keyFile : Option String
  keepAlive : UInt64
  cleanSession : Bool
  /-- Seconds between attempts to connect again. -/
  reconnectInterval : Double
  /-- Zero means no limit. -/
  maxReconnectAttempts : UInt32
  topicPrefix : String
  connectTimeout : UInt64
  publishTimeout : UInt64
  maxPacketSize : UInt32
  deriving DecidableEq, Repr

structure ServiceSettings where
  brokerName : String
  maxHandlers : UInt64
  qos : Qos
  deriving DecidableEq, Repr

structure SubscriptionSpec where
  id : String
  topics : List String
  handler : String
  enabled : Bool
  metadata : SortedMap Json

structure Config where
  broker : Option BrokerSettings
  service : ServiceSettings
  subscriptions : List SubscriptionSpec

inductive SettingsFault where
  | hostEmpty
  | portZero
  | clientIdEmpty
  | keepAliveTooShort (seconds : UInt64)
  | reconnectInterval (seconds : Double)
  | certificateAlone
  | noHandlers
  | subscriptionIdEmpty
  deriving DecidableEq, Repr

namespace BrokerSettings

def standard (clientId : String) : BrokerSettings where
  host := "localhost"
  port := 1883
  clientId := clientId
  username := none
  password := none
  useTls := false
  caCerts := none
  certFile := none
  keyFile := none
  keepAlive := 60
  cleanSession := true
  reconnectInterval := .ofNat 5
  maxReconnectAttempts := 0
  topicPrefix := ""
  connectTimeout := 10
  publishTimeout := 5
  maxPacketSize := 262144

def minKeepAlive : UInt64 := 5

def validate (s : BrokerSettings) : Except SettingsFault Unit :=
  if Text.allBlank s.host then .error .hostEmpty
  else if s.port = 0 then .error .portZero
  else if Text.allBlank s.clientId then .error .clientIdEmpty
  else if s.keepAlive < minKeepAlive then .error (.keepAliveTooShort s.keepAlive)
  else if !s.reconnectInterval.isFinite || s.reconnectInterval.lt (.zero false) then
    .error (.reconnectInterval s.reconnectInterval)
  else if s.certFile.isSome ≠ s.keyFile.isSome then .error .certificateAlone
  else .ok ()

/-- Settings that were not validated are raised to the shortest keep-alive. -/
def keepAliveDuration (s : BrokerSettings) : Duration :=
  .ofSeconds (if s.keepAlive < minKeepAlive then minKeepAlive else s.keepAlive)

/-- No wait at all when the interval is no duration. -/
def reconnectDelay (s : BrokerSettings) : Duration :=
  (Duration.ofDouble? s.reconnectInterval).getD .zero

def connectTimeoutDuration (s : BrokerSettings) : Duration := .ofSeconds s.connectTimeout

def publishTimeoutDuration (s : BrokerSettings) : Duration := .ofSeconds s.publishTimeout

def redaction : String := "***"

def redacted (s : BrokerSettings) : BrokerSettings :=
  { s with password := s.password.map fun _ => redaction }

end BrokerSettings

def ServiceSettings.standard : ServiceSettings := ⟨"mqtt_default", 100, .standard⟩

def SettingsFault.message : SettingsFault → String
  | .hostEmpty => "mqtt.host cannot be empty"
  | .portZero => "mqtt.port must be non-zero"
  | .clientIdEmpty => "mqtt.client_id cannot be empty"
  | .keepAliveTooShort seconds =>
    String.join ["mqtt.keepalive must be at least ", toString BrokerSettings.minKeepAlive.toNat,
      " seconds, got ", toString seconds.toNat]
  | .reconnectInterval seconds =>
    "mqtt.reconnect_interval must be a non-negative number of seconds, got " ++
      String.ofList (Double.Layout.plain.render seconds)
  | .certificateAlone => "mqtt.certfile and mqtt.keyfile must be set together"
  | .noHandlers => "service.max_concurrent_handlers must be greater than 0"
  | .subscriptionIdEmpty => "subscription id cannot be empty"

namespace Config

/-- The first fault wins: the broker's, the service's, then the subscriptions'. -/
def validate (c : Config) : Except SettingsFault Unit :=
  match c.broker.elim (.ok ()) BrokerSettings.validate with
  | .error fault => .error fault
  | .ok () =>
    if c.service.maxHandlers = 0 then .error .noHandlers
    else if c.subscriptions.any fun spec => Text.allBlank spec.id then .error .subscriptionIdEmpty
    else .ok ()

end Config

inductive ConfigError where
  | unreadable (reason : String)
  | notToml
  | variableMissing (name : String)
  | invalidUrl (url : String)
  | invalid (fault : SettingsFault)
  deriving DecidableEq, Repr

def ConfigError.message : ConfigError → String
  | .unreadable reason => "Failed to read config file: " ++ reason
  | .notToml => "Failed to parse TOML"
  | .variableMissing name => "Environment variable not found: " ++ name
  | .invalidUrl url => "Invalid broker URL: " ++ url
  | .invalid fault => "Invalid configuration: " ++ fault.message

end EventBus
