import EventBus.Config
import EventBus.Record
import EventBus.Toml

namespace EventBus

namespace Toml

/-- A section is a table, or an array with its fields in order. Other keys and spare items do not
matter. -/
def slots? (names : List String) : Toml → Option (List (Option Toml))
  | .array items => some ((List.range names.length).map fun i => items[i]?)
  | value => do
    let members ← value.members?
    some (names.map fun name => (members.find? fun m => m.1 = name).map (·.2))

def text? : Toml → Option String
  | .string s => some s
  | _ => none

def bool? : Toml → Option Bool
  | .bool b => some b
  | _ => none

def natural? (limit : Nat) : Toml → Option Nat
  | .integer i => if 0 ≤ i.toInt ∧ i.toInt < limit then some i.toInt.toNat else none
  | _ => none

def double? : Toml → Option Double
  | .integer i => some (.ofInt i.toInt)
  | .real x => some x
  | _ => none

def items? : Toml → Option (List Toml)
  | .array items => some items
  | _ => none

def texts? (value : Toml) : Option (List String) := do
  let items ← value.items?
  items.mapM text?

mutual

def json : Toml → Json
  | .string s => .string s
  | .integer i => .ofInt64 i
  | .real x => .ofDouble x
  | .bool b => .bool b
  | .dateTime text => .object [(dateTimeKey, .string text)]
  | .array items => .array (itemsJson items)
  | .table members => .ofFields (membersJson members)

def itemsJson : List Toml → List Json
  | [] => []
  | item :: rest => json item :: itemsJson rest

def membersJson : List (String × Toml) → List (String × Json)
  | [] => []
  | (key, value) :: rest => (key, json value) :: membersJson rest

end

def map? (value : Toml) : Option (SortedMap Json) := do
  let members ← value.members?
  some (SortedMap.ofList (membersJson members))

instance : Record.Format Toml where
  text? := text?
  bool? := bool?
  natural? := natural?
  double? := double?
  texts? := texts?
  map? := map?
  isNull _ := false

end Toml

open Record

variable {σ : Type u} [Format σ]

namespace BrokerSettings

def fields : List String :=
  ["host", "port", "client_id", "username", "password", "use_tls", "ca_certs", "certfile",
    "keyfile", "keepalive", "clean_session", "reconnect_interval", "max_reconnect_attempts",
    "topic_prefix", "connect_timeout", "publish_timeout", "max_packet_size"]

def ofSlots? (clientId : String) (slots : List (Option σ)) : Option BrokerSettings := do
  let standard := BrokerSettings.standard clientId
  let number (default limit : Nat) : Option σ → Option Nat :=
    withDefault default (Format.natural? limit)
  match slots with
  | [host, port, clientId, username, password, useTls, caCerts, certFile, keyFile, keepAlive,
      cleanSession, reconnectInterval, maxReconnectAttempts, topicPrefix, connectTimeout,
      publishTimeout, maxPacketSize] =>
    some {
      host := ← withDefault standard.host Format.text? host
      port := (← number standard.port.toNat (2 ^ 16) port).toUInt16
      clientId := ← withDefault standard.clientId Format.text? clientId
      username := ← optionalText username
      password := ← optionalText password
      useTls := ← withDefault standard.useTls Format.bool? useTls
      caCerts := ← optionalText caCerts
      certFile := ← optionalText certFile
      keyFile := ← optionalText keyFile
      keepAlive := (← number standard.keepAlive.toNat (2 ^ 64) keepAlive).toUInt64
      cleanSession := ← withDefault standard.cleanSession Format.bool? cleanSession
      reconnectInterval :=
        ← withDefault standard.reconnectInterval Format.double? reconnectInterval
      maxReconnectAttempts :=
        (← number standard.maxReconnectAttempts.toNat (2 ^ 32) maxReconnectAttempts).toUInt32
      topicPrefix := ← withDefault standard.topicPrefix Format.text? topicPrefix
      connectTimeout := (← number standard.connectTimeout.toNat (2 ^ 64) connectTimeout).toUInt64
      publishTimeout := (← number standard.publishTimeout.toNat (2 ^ 64) publishTimeout).toUInt64
      maxPacketSize := (← number standard.maxPacketSize.toNat (2 ^ 32) maxPacketSize).toUInt32 }
  | _ => none

end BrokerSettings

namespace ServiceSettings

def fields : List String := ["broker_name", "max_concurrent_handlers", "subscriber_qos"]

def ofSlots? (slots : List (Option σ)) : Option ServiceSettings := do
  let standard := ServiceSettings.standard
  match slots with
  | [brokerName, maxHandlers, qos] =>
    some {
      brokerName := ← withDefault standard.brokerName Format.text? brokerName
      maxHandlers :=
        (← withDefault standard.maxHandlers.toNat (Format.natural? (2 ^ 64)) maxHandlers).toUInt64
      qos := ← withDefault standard.qos (fun v => Format.natural? 256 v >>= Qos.ofLevel?) qos }
  | _ => none

end ServiceSettings

namespace SubscriptionSpec

def fields : List String := ["id", "topics", "handler", "enabled", "metadata"]

def ofSlots? (slots : List (Option σ)) : Option SubscriptionSpec := do
  match slots with
  | [id, topics, handler, enabled, metadata] =>
    some {
      id := ← required Format.text? id
      topics := ← required Format.texts? topics
      handler := ← required Format.text? handler
      enabled := ← withDefault true Format.bool? enabled
      metadata := ← withDefault .empty Format.map? metadata }
  | _ => none

end SubscriptionSpec

def BrokerSettings.ofToml? (clientId : String) (value : Toml) : Option BrokerSettings :=
  value.slots? fields >>= ofSlots? clientId

def ServiceSettings.ofToml? (value : Toml) : Option ServiceSettings :=
  value.slots? fields >>= ofSlots?

def SubscriptionSpec.ofToml? (value : Toml) : Option SubscriptionSpec :=
  value.slots? fields >>= ofSlots?

def Config.ofToml? (clientId : String) (document : Toml) : Option Config := do
  let slots ← document.slots? ["mqtt", "service", "subscriptions"]
  let specs (value : Toml) : Option (List SubscriptionSpec) := do
    let items ← value.items?
    items.mapM SubscriptionSpec.ofToml?
  match slots with
  | [broker, service, subscriptions] =>
    some {
      broker :=
        ← withDefault none (fun v => (BrokerSettings.ofToml? clientId v).map some) broker
      service := ← withDefault .standard ServiceSettings.ofToml? service
      subscriptions := ← withDefault [] specs subscriptions }
  | _ => none

end EventBus
