import EventBus.Service.Null

namespace EventBus.Service

structure Invocation (η : Type u) where
  subscription : Subscription η
  event : Event
  arrival : Arrival

class Kind (σ : Type u) (η : outParam (Type u)) where
  start : σ → σ
  stop : σ → σ
  isRunning : σ → Bool
  register : σ → Subscription η → Except SubscriptionError σ
  unsubscribe : σ → String → σ × Bool
  list : σ → List Subscription.Info
  dispatch : Behaviour η → σ → Event → Option String → σ × List (Invocation η)
  stats : σ → Stats

variable {η : Type u}

def invocations (event : Event) (topic : Option String) (invoked : List (Subscription η)) :
    List (Invocation η) :=
  invoked.map fun subscription => ⟨subscription, event, localArrival event topic⟩

instance : Kind (Service η) η where
  start := start
  stop := stop
  isRunning := running
  register := register
  unsubscribe s id := (s.unsubscribe id, s.registry.contains id)
  list s := s.registry.all.map (·.info)
  dispatch behave s event topic :=
    let (s, invoked) := s.dispatchLocal behave event topic
    (s, invocations event topic invoked)
  stats := stats

instance : Kind (Null η) η where
  start := Null.start
  stop := Null.stop
  isRunning := Null.running
  register := Null.register
  unsubscribe n id := (n.unsubscribe id, n.inner.registry.contains id)
  list n := Kind.list n.inner
  dispatch behave n event topic :=
    let (n, invoked) := n.dispatchLocal behave event topic
    (n, invocations event topic invoked)
  stats := Null.stats

inductive Request (η : Type u) where
  | start
  | stop
  | isRunning
  | register (subscription : Subscription η)
  /-- The id is a generated one. -/
  | subscribe (id : String) (topics : List String) (handler : η)
  | unsubscribe (id : String)
  | list
  | dispatch (behave : Behaviour η) (event : Event) (topic : Option String)
  | stats

inductive Reply where
  | done
  | isRunning (running : Bool)
  | registered (id : String)
  | refused (error : SubscriptionError)
  | removed (found : Bool)
  | list (infos : List Subscription.Info)
  | dispatched (count : Nat)
  | stats (stats : Stats)

variable {σ : Type u} [Kind σ η]

def enlist (s : σ) (subscription : Subscription η) : σ × Reply :=
  match Kind.register s subscription with
  | .ok s => (s, .registered subscription.id)
  | .error error => (s, .refused error)

/-- What becomes of a service, what it says, and which handlers it calls. -/
def ask (s : σ) : Request η → σ × Reply × List (Invocation η)
  | .start => (Kind.start s, .done, [])
  | .stop => (Kind.stop s, .done, [])
  | .isRunning => (s, .isRunning (Kind.isRunning s), [])
  | .register subscription =>
    let (s, reply) := enlist s subscription
    (s, reply, [])
  | .subscribe id topics handler =>
    let (s, reply) := enlist s { id, topics, handler }
    (s, reply, [])
  | .unsubscribe id =>
    let (s, found) := Kind.unsubscribe s id
    (s, .removed found, [])
  | .list => (s, .list (Kind.list s), [])
  | .dispatch behave event topic =>
    let (s, invoked) := Kind.dispatch behave s event topic
    (s, .dispatched invoked.length, invoked)
  | .stats => (s, .stats (Kind.stats s), [])

/-- The replies to one request after the other, each with the calls it made. -/
def replies (s : σ) : List (Request η) → List (Reply × List (Invocation η))
  | [] => []
  | request :: requests =>
    let (s, said) := ask s request
    said :: replies s requests

end EventBus.Service
