import EventBus.Outcome
import EventBus.Payload
import EventBus.Topic.Prefix

namespace EventBus.Subscriber

structure Received where
  topic : String
  payload : List UInt8
  deriving DecidableEq, Repr

/-- What the sink is handed: the topic below the site's base, and the payload read and as it was. -/
structure Delivery where
  topic : String
  payload : Json
  raw : List UInt8

/-- What the sink does with a delivery, given those before it. -/
abbrev Sink := List Delivery → Delivery → Outcome

/-- Messages, and those of them that could not be read or were refused. Both are taken modulo
`2 ^ 64` where they are shown. -/
structure Tally where
  messages : Nat := 0
  errors : Nat := 0
  lastAt : Option Timestamp := none
  deriving DecidableEq, Repr

namespace Tally

def countMessage (t : Tally) (now : Timestamp) : Tally :=
  { t with messages := t.messages + 1, lastAt := some now }

def countError (t : Tally) : Tally := { t with errors := t.errors + 1 }

end Tally

structure Worker where
  queue : List Received := []
  /-- What the sink was handed so far. -/
  delivered : List Delivery := []
  tally : Tally := {}
  alive : Bool := true

namespace Worker

/-- So many messages may wait. While the queue is full the session reads nothing more. -/
def capacity : Nat := 256

def isFull (w : Worker) : Bool := capacity ≤ w.queue.length

/-- Put a message into the queue. A worker that has ended drops it. -/
def accept (w : Worker) (message : Received) : Worker :=
  if w.alive then { w with queue := w.queue ++ [message] } else w

def handle (base : String) (sink : Sink) (now : Timestamp) (w : Worker) (message : Received) :
    Worker :=
  let tally := w.tally.countMessage now
  match Payload.decode message.payload with
  | .error _ => { w with tally := tally.countError }
  | .ok payload =>
    let delivery : Delivery := ⟨Topic.stripPrefix base message.topic, payload, message.payload⟩
    let delivered := w.delivered ++ [delivery]
    match sink w.delivered delivery with
    | .done => { w with tally, delivered }
    | .failed => { w with tally := tally.countError, delivered }
    | .panicked => { w with queue := [], tally, delivered, alive := false }

def work (base : String) (sink : Sink) (now : Timestamp) (w : Worker) : Worker :=
  match w.queue with
  | [] => w
  | message :: rest => { w with queue := rest }.handle base sink now message

/-- Hand over messages until there are no more, or the worker has ended. -/
def handleAll (base : String) (sink : Sink) (now : Timestamp) (w : Worker) :
    List Received → Worker
  | [] => w
  | message :: rest =>
    if w.alive then handleAll base sink now (w.handle base sink now message) rest else w

def drain (base : String) (sink : Sink) (now : Timestamp) (w : Worker) : Worker :=
  handleAll base sink now { w with queue := [] } w.queue

def abandon (w : Worker) : Worker := { w with queue := [] }

/-- The worker of the next session. The tally and what the sink remembers go on. -/
def renew (w : Worker) : Worker := { w with queue := [], alive := true }

end Worker
end EventBus.Subscriber
