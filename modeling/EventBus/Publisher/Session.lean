import EventBus.Connection.Network
import EventBus.Connection.Retry
import EventBus.Packet
import EventBus.Payload

namespace EventBus.Publisher

structure Request where
  topic : String
  qos : Qos
  retain : Bool
  payload : List UInt8
  properties : Payload.Properties
  deriving DecidableEq, Repr

/-- One connection: what it is opened with, and the requests it has yet to write. -/
structure Link where
  options : Connection.Options
  queue : List Request := []
  deriving DecidableEq, Repr

namespace Link

def capacity : Nat := 10

def isFull (l : Link) : Bool := capacity ≤ l.queue.length

def enqueue (l : Link) (request : Request) : Link := { l with queue := l.queue ++ [request] }

def write? (l : Link) : Option (Request × Link) :=
  match l.queue with
  | [] => none
  | request :: rest => some (request, { l with queue := rest })

end Link

inductive Phase where
  | polling
  | waiting (delay : Duration)
  | ended
  deriving DecidableEq, Repr

/-- A failure before the broker has ever acknowledged a session ends it at once. After that the
policy decides, and every attempt to connect again has a link of its own if it can be made. -/
structure Session where
  policy : Connection.RetryPolicy
  link : Link
  phase : Phase := .polling
  state : Connection.State := .connecting
  connected : Bool := false
  established : Bool := false
  /-- Failures since the broker last acknowledged it. -/
  attempts : UInt32 := 0
  deriving DecidableEq, Repr

namespace Session

def new (policy : Connection.RetryPolicy) (options : Connection.Options) : Session :=
  { policy, link := { options } }

/-- Connected is what is said of the state, and nothing else. -/
def enter (s : Session) (event : Connection.Event) : Session :=
  let state := Connection.State.after event
  { s with state, connected := state.isConnected }

def finish (s : Session) : Session := { s with phase := .ended, connected := false }

def observe (s : Session) (traffic : Traffic) : Session :=
  match s.phase, traffic.route with
  | .polling, .connected => { s with established := true, attempts := 0 }.enter .acknowledged
  | .polling, .disconnected => s.enter .closedByBroker
  | _, _ => s

def write? (s : Session) : Option (Request × Session) :=
  match s.phase with
  | .polling => s.link.write?.map fun (request, link) => (request, { s with link })
  | .waiting _ | .ended => none

def exhaustedReason (policy : Connection.RetryPolicy) : String :=
  s!"Max reconnection attempts ({policy.maxAttempts.toNat}) exceeded"

/-- The next attempt, if there is to be one. A driver that panics leaves the state as it was. -/
def retry (s : Session) (shutdown : Bool) : Session :=
  match s.policy.decide s.attempts shutdown with
  | .proceed attempt delay =>
    { s with attempts := attempt, phase := .waiting delay }.enter (.reconnectionStarted attempt)
  | .shutdownRequested | .overflowed => s.finish
  | .attemptsExceeded => (s.enter (.permanentFailure (exhaustedReason s.policy))).finish

def fail (s : Session) (reason : String) (shutdown : Bool) : Session :=
  match s.phase with
  | .polling =>
    let s := s.enter (.networkError reason)
    if s.established then s.retry shutdown else s.finish
  | .waiting _ | .ended => s

/-- The wait is over. A link that cannot be made again is kept, with the options it had. -/
def resume (s : Session) (rebuilt : Except Connection.Error Connection.Options) : Session :=
  match s.phase, rebuilt with
  | .waiting _, .ok options => { s with phase := .polling, link := { options } }
  | .waiting _, .error _ => { s with phase := .polling }
  | _, _ => s

def begin (s : Session) : Connection.Attempt → Session
  | .acknowledged => s.observe (.incoming .connectAnswer)
  | .failed reason => s.fail reason false
  | .unanswered => s

/-- What an attempt has come to once it has left the connecting state, or time is up. -/
def outcome (s : Session) (timeout : UInt64) : Except Connection.Error Unit :=
  match s.state with
  | .connected => .ok ()
  | .disconnected reason => .error (.notReached reason)
  | .permanentlyDisconnected reason => .error (.notReached ("Permanently disconnected: " ++ reason))
  | .reconnecting attempt => .error (.notConnected (.reconnecting attempt))
  | .connecting =>
    let seconds := Double.Layout.plain.render (.ofNat timeout.toNat)
    .error (.timedOut (String.join ["no ConnAck within ", String.ofList seconds, "s"]))

end Session
end EventBus.Publisher
