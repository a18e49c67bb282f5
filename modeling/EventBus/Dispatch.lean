import EventBus.Event
import EventBus.Outcome
import EventBus.Subscription.Registry

namespace EventBus

structure Arrival where
  topic : String
  brokerName : String
  messageId : Option String := none
  raw : Option (List UInt8) := none
  deriving DecidableEq, Repr

abbrev Behaviour (η : Type u) := η → Event → Arrival → Outcome

/-- Handlers run side by side, as many at once as there are permits. Events and errors are taken
modulo `2 ^ 64` where they are shown. -/
structure Dispatcher where
  permits : Nat
  dispatched : Nat := 0
  errors : Nat := 0
  deriving DecidableEq, Repr

namespace Dispatcher

/-- More permits than this cannot be counted, since three bits of a word are needed otherwise. -/
def mostPermits : Nat := 2 ^ 61 - 1

/-- Without a permit nothing would ever run, so there is at least one. -/
def new (permits : Nat) : Dispatcher := { permits := max permits 1 }

/-- One call per subscription that wants the event's topic, which are given in order. -/
def dispatch (behave : Behaviour η) (registry : Registry η) (d : Dispatcher) (event : Event)
    (arrival : Arrival) : Dispatcher × List (Subscription η) :=
  let invoked := registry.matching arrival.topic
  let failures := invoked.countP fun s => (behave s.handler event arrival).isError
  ({ d with dispatched := d.dispatched + 1, errors := d.errors + failures }, invoked)

def resetCounters (d : Dispatcher) : Dispatcher := { d with dispatched := 0, errors := 0 }

/-- How many of so many calls run at once: the others wait for a permit. -/
def peak (d : Dispatcher) (calls : Nat) : Nat := min d.permits calls

end Dispatcher
end EventBus
