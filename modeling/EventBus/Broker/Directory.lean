import EventBus.Broker.Roster

namespace EventBus.Broker

structure Slot where
  name : String

structure Memories where
  brokers : SortedMap Memory
  nextId : String → String := id

def Memories.visit (m : Memories) (slot : Slot) (act : Memory → Memory × α) (absent : α) :
    Memories × α :=
  match m.brokers.get? slot.name with
  | none => (m, absent)
  | some broker =>
    let (broker, answer) := act broker
    ({ m with brokers := m.brokers.insert slot.name broker }, answer)

instance : Transport Slot Memories where
  connect slot m := m.visit slot Memory.connect (.error (.unknown slot.name))
  disconnect slot m :=
    m.visit slot (fun broker => (broker.disconnect, .ok ())) (.error (.unknown slot.name))
  publish slot message m :=
    m.visit slot (·.publish (m.nextId slot.name) message)
      (.failed (Error.unknown slot.name).message)

abbrev Directory := Roster Memory

namespace Directory

def slots (d : Directory) : Roster Slot := ⟨d.brokers.mapValues fun name _ => ⟨name⟩, d.default⟩

def through (act : Roster Slot → Memories → Memories × α) (d : Directory)
    (nextId : String → String := id) : Directory × α :=
  let (m, answer) := act d.slots ⟨d.brokers, nextId⟩
  ({ d with brokers := m.brokers }, answer)

def put (d : Directory) (name : String) (broker : Memory) : Directory :=
  { d with brokers := d.brokers.insert name broker }

def connect (d : Directory) (name : Option String) : Except Error Directory := do
  let (name, broker) ← d.find name
  let (broker, answer) := broker.connect
  answer.map fun () => d.put name broker

def disconnect (d : Directory) (name : Option String) : Except Error Directory := do
  let (name, broker) ← d.find name
  .ok (d.put name broker.disconnect)

def connectAll (d : Directory) : Directory × SortedMap Bool := d.through Roster.connectAll

def disconnectAll (d : Directory) : Directory :=
  (d.through fun slots m => (slots.disconnectAll m, ())).1

def publish (d : Directory) (name : Option String) (id : String) (message : Message) :
    Directory × PublishResult :=
  d.through (·.publish name message) fun _ => id

def publishToAll (d : Directory) (id : String → String) (message : Message) :
    Directory × SortedMap PublishResult :=
  d.through (·.publishToAll message) id

end Directory
end EventBus.Broker
