import EventBus.Config.Record
import EventBus.Json.Record

namespace EventBus

namespace Json.Record

def double? : Tree → Option Double
  | .number n =>
    match n.value? with
    | some (.integer i) => some (.ofInt i.value)
    | some (.real x) => some x
    | none => none
  | _ => none

instance : EventBus.Record.Format Tree where
  text? := text?
  bool? := bool?
  natural? := natural?
  double? := double?
  texts? := listOf? text?
  map? := map? maxDepth
  isNull tree := tree matches .null

end Json.Record

def BrokerSettings.ofTree? (clientId : String) (tree : Json.Tree) : Option BrokerSettings :=
  Json.Record.slots? fields Json.maxDepth tree >>= fun (slots, _) => ofSlots? clientId slots

def ServiceSettings.ofTree? (tree : Json.Tree) : Option ServiceSettings :=
  Json.Record.slots? fields Json.maxDepth tree >>= fun (slots, _) => ofSlots? slots

def SubscriptionSpec.ofTree? (tree : Json.Tree) : Option SubscriptionSpec :=
  Json.Record.slots? fields Json.maxDepth tree >>= fun (slots, _) => ofSlots? slots

def BrokerSettings.toJson (s : BrokerSettings) : Json :=
  let whenSet (key : String) (value : Option String) := Json.member? key (value.map .string)
  .ofFields <|
    [("host", .string s.host), ("port", .ofUInt64 s.port.toUInt64),
      ("client_id", .string s.clientId), ("use_tls", .bool s.useTls),
      ("keepalive", .ofUInt64 s.keepAlive), ("clean_session", .bool s.cleanSession),
      ("reconnect_interval", .ofDouble s.reconnectInterval),
      ("max_reconnect_attempts", .ofUInt64 s.maxReconnectAttempts.toUInt64),
      ("topic_prefix", .string s.topicPrefix), ("connect_timeout", .ofUInt64 s.connectTimeout),
      ("publish_timeout", .ofUInt64 s.publishTimeout),
      ("max_packet_size", .ofUInt64 s.maxPacketSize.toUInt64)] ++
    whenSet "username" s.username ++ whenSet "password" s.password ++
    whenSet "ca_certs" s.caCerts ++ whenSet "certfile" s.certFile ++ whenSet "keyfile" s.keyFile

def ServiceSettings.toJson (s : ServiceSettings) : Json :=
  .ofFields [("broker_name", .string s.brokerName),
    ("max_concurrent_handlers", .ofUInt64 s.maxHandlers), ("subscriber_qos", s.qos.toJson)]

def SubscriptionSpec.toJson (spec : SubscriptionSpec) : Json :=
  .ofFields [("id", .string spec.id), ("topics", .ofStrings spec.topics),
    ("handler", .string spec.handler), ("enabled", .bool spec.enabled),
    ("metadata", .object spec.metadata.entries)]

end EventBus
