import EventBus.Config
import EventBus.Toml.Writer

namespace EventBus

namespace Toml

mutual

def ofJson? : Json → Option Toml
  | .null => none
  | .bool b => some (.bool b)
  | .number (.integer i) =>
    if i.value < 2 ^ 63 then some (.integer (Int64.ofInt i.value)) else none
  | .number (.real x) => some (.real x)
  | .string s => some (.string s)
  | .array items => (itemsOfJson? items).map .array
  | .object fields => (membersOfJson? fields).map .table

def itemsOfJson? : List Json → Option (List Toml)
  | [] => some []
  | item :: rest => do
    let value ← ofJson? item
    let values ← itemsOfJson? rest
    some (value :: values)

def membersOfJson? : List (String × Json) → Option (List (String × Toml))
  | [] => some []
  | (key, item) :: rest => do
    let value ← ofJson? item
    let members ← membersOfJson? rest
    some ((key, value) :: members)

end

def ofUInt64 (n : UInt64) : Toml := .integer (Int64.ofNat n.toNat)

end Toml

def BrokerSettings.toToml (s : BrokerSettings) : Toml :=
  let whenSet (key : String) (value : Option String) : List (String × Toml) :=
    (value.map fun text => (key, .string text)).toList
  .table <|
    [("host", .string s.host), ("port", .ofUInt64 s.port.toUInt64),
      ("client_id", .string s.clientId)] ++
    whenSet "username" s.username ++ whenSet "password" s.password ++
    [("use_tls", .bool s.useTls)] ++
    whenSet "ca_certs" s.caCerts ++ whenSet "certfile" s.certFile ++ whenSet "keyfile" s.keyFile ++
    [("keepalive", .ofUInt64 s.keepAlive), ("clean_session", .bool s.cleanSession),
      ("reconnect_interval", .real s.reconnectInterval),
      ("max_reconnect_attempts", .ofUInt64 s.maxReconnectAttempts.toUInt64),
      ("topic_prefix", .string s.topicPrefix), ("connect_timeout", .ofUInt64 s.connectTimeout),
      ("publish_timeout", .ofUInt64 s.publishTimeout),
      ("max_packet_size", .ofUInt64 s.maxPacketSize.toUInt64)]

def ServiceSettings.toToml (s : ServiceSettings) : Toml :=
  .table [("broker_name", .string s.brokerName),
    ("max_concurrent_handlers", .ofUInt64 s.maxHandlers),
    ("subscriber_qos", .integer (Int64.ofNat s.qos.level))]

def SubscriptionSpec.toToml? (spec : SubscriptionSpec) : Option Toml :=
  (Toml.membersOfJson? spec.metadata.entries).map fun metadata =>
    .table [("id", .string spec.id), ("topics", .array (spec.topics.map .string)),
      ("handler", .string spec.handler), ("enabled", .bool spec.enabled),
      ("metadata", .table metadata)]

namespace Config

def members? (c : Config) : Option (List (String × Toml)) := do
  let subscriptions ← c.subscriptions.mapM SubscriptionSpec.toToml?
  some ((c.broker.map fun settings => ("mqtt", settings.toToml)).toList ++
    [("service", c.service.toToml), ("subscriptions", .array subscriptions)])

def redacted (c : Config) : Config := { c with broker := c.broker.map BrokerSettings.redacted }

inductive DocumentFault where
  | nothing
  | tooManyQuotes
  deriving DecidableEq, Repr

def shown (c : Config) : Except DocumentFault String :=
  match c.redacted.members? with
  | none => .error .nothing
  | some members =>
    if Toml.membersWritable members then .ok (Toml.documentText members) else .error .tooManyQuotes

end Config
end EventBus
