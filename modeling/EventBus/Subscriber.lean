import EventBus.Connection.Network
import EventBus.Connection.Retry
import EventBus.Packet
import EventBus.Subscriber.Delivery
import EventBus.Topic.Filter

namespace EventBus

namespace Subscriber

inductive State where
  | stopped
  | connecting
  | listening
  | reconnecting (attempt : UInt32)
  deriving DecidableEq, Repr

inductive Phase where
  | over
  /-- It opens a session next. -/
  | opening
  /-- The broker acknowledged a session. It reads the topics next. -/
  | acknowledged
  | subscribed (filters : List String)
  /-- It takes leave of the broker. What comes in meanwhile is passed over. -/
  | closing
  | waiting (delay : Duration)
  deriving DecidableEq, Repr

/-- The topics, with those at the end that were not among them. -/
def watchAlso (topics more : List String) : List String :=
  more.foldl (fun topics topic => if topic ∈ topics then topics else topics ++ [topic]) topics

def watchNoMore (topics gone : List String) : List String := topics.filter (· ∉ gone)

end Subscriber

/-- A listener keeps one session with the broker open, subscribed to the topics as they were when it
began. A change of topics raises a flag, and a session that sees the flag makes way for the next
one. Each step is one of its own, since others may come in between. -/
structure Subscriber where
  settings : BrokerSettings
  qos : Qos := .standard
  topics : List String := []
  running : Bool := false
  state : Subscriber.State := .stopped
  /-- Raised when the open session is out of date. -/
  reconnectRequested : Bool := false
  phase : Subscriber.Phase := .over
  /-- Failures since the broker last acknowledged a session. -/
  attempts : UInt32 := 0
  worker : Subscriber.Worker := {}

namespace Subscriber

def clientIdEnding : String := "-sub"

def clientId (s : Subscriber) : String := s.settings.clientId ++ clientIdEnding

def plan (s : Subscriber) : List String := Topic.plan s.settings.topicPrefix s.topics

def start (s : Subscriber) (topics : List String) : Subscriber :=
  if s.running then s
  else
    { s with
      topics
      reconnectRequested := false
      running := true
      state := .connecting
      phase := .opening
      attempts := 0 }

def halt (s : Subscriber) : Subscriber :=
  { s with running := false, state := .stopped, phase := .over }

def stop (s : Subscriber) : Subscriber := { s.halt with worker := s.worker.abandon }

def setTopics (s : Subscriber) (topics : List String) : Subscriber := { s with topics }

/-- The second half: raise the flag if anything changed and someone is listening. -/
def noteChange (s : Subscriber) (changed : Bool) : Subscriber :=
  if changed && s.running then { s with reconnectRequested := true } else s

def changeTopics (s : Subscriber) (topics : List String) : Subscriber :=
  (s.setTopics topics).noteChange (topics != s.topics)

def addTopics (s : Subscriber) (more : List String) : Subscriber :=
  s.changeTopics (watchAlso s.topics more)

def removeTopics (s : Subscriber) (gone : List String) : Subscriber :=
  s.changeTopics (watchNoMore s.topics gone)

def acknowledge (s : Subscriber) : Subscriber :=
  { s with reconnectRequested := false, attempts := 0, state := .listening, phase := .acknowledged }

/-- A session or an attempt at one failed. A listener that panics says nothing more of itself. -/
def fail (s : Subscriber) : Subscriber :=
  match (Connection.RetryPolicy.ofSettings s.settings).decide s.attempts false with
  | .proceed attempt delay =>
    { s with attempts := attempt, state := .reconnecting attempt, phase := .waiting delay }
  | .shutdownRequested | .attemptsExceeded => s.halt
  | .overflowed => { s with phase := .over }

/-- Try to open a session. The token is asked for at every attempt. -/
def connect (network : Connection.Network) (files : Connection.FileReader)
    (token : Option (Except String Connection.AccessToken)) (s : Subscriber) : Subscriber :=
  match Connection.Options.prepare files s.settings s.clientId token with
  | .error _ => s.fail
  | .ok options =>
    match network options with
    | .acknowledged => s.acknowledge
    | .failed _ | .unanswered => s.fail

/-- Ask the broker for the plan. It is not even sent if a filter of it is not well formed. -/
def subscribe (s : Subscriber) : Subscriber :=
  if s.plan.all fun filter => (Topic.filterFault filter).isNone then
    { s with phase := .subscribed s.plan, worker := s.worker.renew }
  else s.fail

def work (sink : Sink) (now : Timestamp) (s : Subscriber) : Subscriber :=
  { s with worker := s.worker.work s.settings.topicPrefix sink now }

/-- No more messages come in, and the queue is worked off. -/
def drain (sink : Sink) (now : Timestamp) (s : Subscriber) : Subscriber :=
  { s with worker := s.worker.drain s.settings.topicPrefix sink now }

/-- Queue a message for the worker. While its queue is full the session waits for it. -/
def receive (sink : Sink) (now : Timestamp) (s : Subscriber) (message : Received) : Subscriber :=
  let s := if s.worker.isFull then s.work sink now else s
  { s with worker := s.worker.accept message }

def hear (sink : Sink) (now : Timestamp) (s : Subscriber) (traffic : Traffic) : Subscriber :=
  match s.phase, traffic.route with
  | .subscribed _, .message topic payload _ => s.receive sink now ⟨topic, payload⟩
  | .subscribed _, .disconnected => (s.drain sink now).fail
  | _, _ => s

def cycle (s : Subscriber) : Subscriber :=
  match s.phase with
  | .subscribed _ => if s.reconnectRequested then { s with phase := .closing } else s
  | _ => s

def close (sink : Sink) (now : Timestamp) (s : Subscriber) : Subscriber :=
  match s.phase with
  | .closing => { s.drain sink now with state := .connecting, phase := .opening }
  | _ => s

def resume (s : Subscriber) : Subscriber :=
  match s.phase with
  | .waiting _ => { s with phase := .opening }
  | _ => s

def State.toJson : State → Json
  | .stopped => .string "stopped"
  | .connecting => .string "connecting"
  | .listening => .string "listening"
  | .reconnecting attempt =>
    .ofFields [("reconnecting", .ofFields [("attempt", .ofUInt64 attempt.toUInt64)])]

def statsJson (s : Subscriber) : Json :=
  let tally := s.worker.tally
  .ofFields [("running", .bool s.running), ("state", s.state.toJson),
    ("message_count", .ofCount tally.messages), ("error_count", .ofCount tally.errors),
    ("topics", .ofStrings s.topics),
    ("last_message_at", (tally.lastAt.map fun t => Json.string t.text).getD .null)]

end Subscriber
end EventBus
