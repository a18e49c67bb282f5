import EventBus.Dispatch
import EventBus.Event.Inbound
import EventBus.Subscriber
import EventBus.Subscription.Declaration

namespace EventBus

/-- The subscriber lives from start to stop. It is told of topics once more at the end of a start,
for those that were registered while it was starting. -/
structure Service (η : Type u) where
  settings : ServiceSettings
  broker : Option BrokerSettings := none
  registry : Registry η := .empty
  dispatcher : Dispatcher
  /-- What the first start registers. -/
  declarations : List (Subscription η) := []
  subscriber : Option Subscriber := none
  running : Bool := false

namespace Service

variable {η : Type u}

def standardPermits : Nat := 100

def permits (settings : ServiceSettings) : Nat :=
  if settings.maxHandlers = 0 then standardPermits else settings.maxHandlers.toNat

def new (settings : ServiceSettings) (broker : Option BrokerSettings)
    (declarations : List (Subscription η)) : Service η :=
  { settings, broker, declarations, dispatcher := .new (permits settings) }

def localOnly : Service η := new .standard none []

def localBroker : String := "local"

def enroll (registry : Registry η) (subscription : Subscription η) : Registry η :=
  match registry.register subscription with
  | .ok registry => registry
  | .error _ => registry

def materialize (s : Service η) : Service η :=
  { s with registry := s.declarations.foldl enroll s.registry, declarations := [] }

/-- A subscriber that was started with topics, if there is a broker. -/
def subscriberOn (s : Service η) (topics : List String) : Option Subscriber :=
  s.broker.map fun settings => ({ settings, qos := s.settings.qos } : Subscriber).start topics

def watch (topics : List String) (s : Service η) : Service η :=
  { s with subscriber := s.subscriber.map (·.addTopics topics) }

def start (s : Service η) : Service η :=
  if s.running then s
  else
    let s := s.materialize
    let s := { s with subscriber := s.subscriberOn s.registry.topics, running := true }
    s.watch s.registry.topics

def stop (s : Service η) : Service η :=
  if s.running then { s with subscriber := none, running := false } else s

/-- The subscriber learns of the topics of a subscription that came after the start. -/
def announce (s : Service η) (subscription : Subscription η) : Service η :=
  if s.running && subscription.enabled then s.watch subscription.topics else s

def register (s : Service η) (subscription : Subscription η) :
    Except SubscriptionError (Service η) :=
  match s.registry.register subscription with
  | .ok registry => .ok ({ s with registry }.announce subscription)
  | .error error => .error error

/-- The subscriber goes on watching, since others may share the topics. -/
def unsubscribe (s : Service η) (id : String) : Service η :=
  { s with registry := s.registry.unregister id }

def setEnabled (s : Service η) (id : String) (enabled : Bool) : Service η :=
  { s with registry := s.registry.setEnabled id enabled }

def dispatch (behave : Behaviour η) (s : Service η) (event : Event) (arrival : Arrival) :
    Service η × List (Subscription η) :=
  let (dispatcher, invoked) := s.dispatcher.dispatch behave s.registry event arrival
  ({ s with dispatcher }, invoked)

/-- How a local event arrives. Without a topic it goes where its type says. -/
def localArrival (event : Event) (topic : Option String) : Arrival :=
  { topic := topic.getD event.derivedTopic, brokerName := localBroker }

def dispatchLocal (behave : Behaviour η) (s : Service η) (event : Event) (topic : Option String) :
    Service η × List (Subscription η) :=
  s.dispatch behave event (localArrival event topic)

def dispatchJson (behave : Behaviour η) (stamp : Event.Stamp) (s : Service η) (json : Json)
    (arrival : Arrival) : Service η × List (Subscription η) :=
  s.dispatch behave (Event.ofJson stamp json) arrival

def networkArrival (s : Service η) (delivery : Subscriber.Delivery) : Arrival :=
  { topic := delivery.topic, brokerName := s.settings.brokerName, raw := some delivery.raw }

def deliver (behave : Behaviour η) (stamp : Event.Stamp) (s : Service η)
    (delivery : Subscriber.Delivery) : Service η :=
  (s.dispatchJson behave stamp delivery.payload (s.networkArrival delivery)).1

/-- A delivery is never refused, whatever the handlers do with it. -/
def sink : Subscriber.Sink := fun _ _ => .done

def resetCounters (s : Service η) : Service η :=
  { s with dispatcher := s.dispatcher.resetCounters }

structure Stats where
  running : Bool
  subscriptions : Nat
  enabled : Nat
  dispatched : Nat
  errors : Nat
  subscriber : Option Subscriber

def stats (s : Service η) : Stats where
  running := s.running
  subscriptions := s.registry.size
  enabled := s.registry.enabled.length
  dispatched := s.dispatcher.dispatched
  errors := s.dispatcher.errors
  subscriber := s.subscriber

def Stats.toJson (stats : Stats) : Json :=
  .ofFields <|
    [("running", .bool stats.running), ("subscription_count", .ofCount stats.subscriptions),
      ("enabled_subscriptions", .ofCount stats.enabled),
      ("dispatch_count", .ofCount stats.dispatched), ("dispatch_errors", .ofCount stats.errors)] ++
    Json.member? "mqtt" (stats.subscriber.map (·.statsJson))

end Service
end EventBus
