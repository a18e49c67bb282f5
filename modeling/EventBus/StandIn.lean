import EventBus.Dispatch

namespace EventBus.StandIn

inductive Part where
  | record
  | fail
  | panic
  | slow
  | demandType
  deriving DecidableEq, Repr

structure Handler where
  part : Part
  label : Option String := none
  deriving DecidableEq, Repr

def behave : Behaviour Handler := fun handler event _ =>
  match handler.part with
  | .record | .slow => .done
  | .fail => .failed
  | .panic => .panicked
  | .demandType => if event.eventType = Event.unknownType then .failed else .done

structure Call where
  label : String
  part : Part
  event : Event
  arrival : Arrival

def Call.of (event : Event) (arrival : Arrival) (subscription : Subscription Handler) : Call :=
  ⟨subscription.handler.label.getD subscription.id, subscription.handler.part, event, arrival⟩

structure Notes where
  calls : List Call := []
  recorded : List Call := []
  slow : Nat := 0
  peak : Nat := 0

namespace Notes

def add (n : Notes) (dispatcher : Dispatcher) (calls : List Call) : Notes :=
  let slow := calls.countP (·.part = .slow)
  { calls := n.calls ++ calls
    recorded := n.recorded ++ calls.filter (·.part = .record)
    slow := n.slow + slow
    peak := max n.peak (dispatcher.peak slow) }

def forget (n : Notes) : Notes := { n with calls := [] }

def sorted (n : Notes) : List Call := n.calls.mergeSort fun a b => a.label ≤ b.label

def recordedTexts (n : Notes) : List String :=
  (n.recorded.map fun call => String.join [call.arrival.topic, " ", call.event.eventType]).mergeSort
    (· ≤ ·)

end Notes
end EventBus.StandIn
