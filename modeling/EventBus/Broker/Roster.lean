import EventBus.Broker

namespace EventBus.Broker

/-- What a kind of broker does to the world, and what it answers. -/
class Transport (β : Type u) (ω : Type v) where
  connect : β → ω → ω × Except Error Unit
  disconnect : β → ω → ω × Except Error Unit
  publish : β → Message → ω → ω × PublishResult
  publishEvent (broker : β) (event : Event) (topic : Option String) (qos : Qos) (retain : Bool) :
      ω → ω × PublishResult :=
    publish broker (.ofEvent event topic qos retain)

/-- Which broker has which name. What a broker does, it does to a world that all may share, and one
broker may have several names. -/
structure Roster (β : Type u) where
  brokers : SortedMap β := .empty
  default : Option String := none

namespace Roster

variable {β : Type u} {ω : Type v} {α : Type w}

/-- The first broker becomes the default. -/
def register (r : Roster β) (name : String) (broker : β) : Except Error (Roster β) :=
  if r.brokers.contains name then .error (.duplicate name)
  else .ok ⟨r.brokers.insert name broker, r.default <|> some name⟩

def registerDefault (r : Roster β) (name : String) (broker : β) : Except Error (Roster β) :=
  (r.register name broker).map fun r => { r with default := some name }

/-- The broker of a name, or the default, with the name it goes by. -/
def find (r : Roster β) (name : Option String) : Except Error (String × β) :=
  match name <|> r.default with
  | none => .error .noBrokers
  | some name =>
    match r.brokers.get? name with
    | some broker => .ok (name, broker)
    | none => .error (.unknown name)

/-- Have one broker publish. One that cannot be found is a failure to publish. -/
def throughOne (act : β → ω → ω × PublishResult) (r : Roster β) (name : Option String)
    (world : ω) : ω × PublishResult :=
  match r.find name with
  | .error error => (world, .failed error.message)
  | .ok (_, broker) => act broker world

def turn (act : β → ω → ω × α) (s : ω × SortedMap α) (entry : String × β) : ω × SortedMap α :=
  let (world, answer) := act entry.2 s.1
  (world, s.2.insert entry.1 answer)

def throughAll (act : β → ω → ω × α) (r : Roster β) (world : ω) : ω × SortedMap α :=
  r.brokers.entries.foldl (turn act) (world, .empty)

variable [Transport β ω]

def connectAll (r : Roster β) (world : ω) : ω × SortedMap Bool :=
  let (world, answers) := r.throughAll Transport.connect world
  (world, answers.mapValues fun _ answer => answer.toBool)

def disconnectAll (r : Roster β) (world : ω) : ω := (r.throughAll Transport.disconnect world).1

def publish (r : Roster β) (name : Option String) (message : Message) : ω → ω × PublishResult :=
  r.throughOne (Transport.publish · message) name

def publishEvent (r : Roster β) (name : Option String) (event : Event) (topic : Option String)
    (qos : Qos) (retain : Bool) : ω → ω × PublishResult :=
  r.throughOne (Transport.publishEvent · event topic qos retain) name

def publishToAll (r : Roster β) (message : Message) : ω → ω × SortedMap PublishResult :=
  r.throughAll (Transport.publish · message)

end Roster
end EventBus.Broker
