import EventBus.Publisher
import EventBus.Service

namespace EventBus

structure Listener where
  subscriber : Subscriber
  wake : Nat := 0

namespace Listener

def due? (l : Listener) (now : Nat) : Option Nat :=
  match l.subscriber.phase with
  | .over => none
  | .opening | .acknowledged | .closing => some now
  | .subscribed _ => if l.subscriber.reconnectRequested then some now else none
  | .waiting _ => some (max now l.wake)

def schedule (now : Nat) (s : Subscriber) : Listener :=
  match s.phase with
  | .waiting delay => ⟨s, now + delay.nanoseconds⟩
  | _ => ⟨s, now⟩

end Listener

/-- A publisher, a subscriber and a service on one network. Time passes only while somebody waits,
and a listener takes its turn when it has something to do and everyone else rests. -/
structure World (η : Type u) where
  network : Connection.Network
  files : Connection.FileReader
  stamp : Event.Stamp
  sink : Subscriber.Sink
  behave : Behaviour η
  provider : Option Connection.TokenProvider := none
  publisher : Publisher
  subscriber : Listener
  service : Service η
  serviceWake : Nat := 0
  now : Nat := 0

namespace World

variable {η : Type u}

def tokenRequests (w : World η) : Nat := w.provider.elim 0 (·.requests)

def turn (w : World η) (sink : Subscriber.Sink) (l : Listener) :
    Option Connection.TokenProvider × Listener :=
  let s := l.subscriber
  if (l.due? w.now).any (· ≤ w.now) then
    match s.phase with
    | .over => (w.provider, l)
    | .opening | .waiting _ =>
      let (provider, token) := Connection.TokenProvider.request w.provider
      (provider, .schedule w.now (s.resume.connect w.network w.files token))
    | .acknowledged => (w.provider, .schedule w.now s.subscribe)
    | .subscribed _ => (w.provider, { l with subscriber := s.cycle })
    | .closing => (w.provider, { l with subscriber := s.close sink w.stamp.time })
  else (w.provider, l)

def serviceListener? (w : World η) : Option Listener :=
  w.service.subscriber.map fun s => ⟨s, w.serviceWake⟩

def serviceTurn (w : World η) : World η :=
  match w.serviceListener? with
  | none => w
  | some before =>
    let (provider, after) := w.turn Service.sink before
    let deliveries :=
      after.subscriber.worker.delivered.drop before.subscriber.worker.delivered.length
    let service := { w.service with subscriber := some after.subscriber }
    { w with
      provider
      service := deliveries.foldl (Service.deliver w.behave w.stamp) service
      serviceWake := after.wake }

def settle (w : World η) : World η :=
  let (provider, subscriber) := w.turn w.sink w.subscriber
  { w with provider, subscriber }.serviceTurn

def next? (w : World η) : Option Nat :=
  match w.subscriber.due? w.now, w.serviceListener?.bind (·.due? w.now) with
  | some a, some b => some (min a b)
  | a, b => a <|> b

/-- Wait until something holds, but not past a deadline, and say whether it does. The fuel bounds
how much may happen meanwhile. -/
def waitUntil (holds : World η → Bool) (deadline : Nat) : Nat → World η → World η × Bool
  | 0, w => (w, holds w)
  | fuel + 1, w =>
    if holds w then (w, true)
    else
      match w.next? with
      | some time =>
        if time ≤ deadline then waitUntil holds deadline fuel { w with now := time }.settle
        else ({ w with now := deadline }, false)
      | none => ({ w with now := deadline }, false)

def patience : Nat := 5 * 10 ^ 9

def turns : Nat := 20000

def wait (w : World η) (holds : World η → Bool) : World η × Bool :=
  w.waitUntil holds (w.now + patience) turns

/-- The listeners take a turn while the publisher waits for an answer from the network. -/
def connectPublisher (w : World η) : World η × Except Connection.Error Unit :=
  let (provider, publisher, result) := w.publisher.connect w.network w.files w.provider
  let w := { w with provider, publisher }
  match result with
  | .ok () | .error (.notReached _) | .error (.timedOut _) => (w.settle, result)
  | .error _ => (w, result)

end World
end EventBus
