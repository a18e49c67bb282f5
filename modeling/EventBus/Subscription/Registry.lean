import EventBus.Subscription

namespace EventBus

structure Registry (η : Type u) where
  byId : SortedMap (Subscription η) := .empty

namespace Registry

variable {η : Type u}

def empty : Registry η := {}

def register (r : Registry η) (s : Subscription η) : Except SubscriptionError (Registry η) :=
  match s.validate with
  | .error error => .error error
  | .ok () =>
    if r.byId.contains s.id then .error (.duplicateId s.id) else .ok ⟨r.byId.insert s.id s⟩

def get? (r : Registry η) (id : String) : Option (Subscription η) := r.byId.get? id

def contains (r : Registry η) (id : String) : Bool := r.byId.contains id

def unregister (r : Registry η) (id : String) : Registry η := ⟨r.byId.erase id⟩

def setEnabled (r : Registry η) (id : String) (enabled : Bool) : Registry η :=
  ⟨r.byId.adjust id fun s => { s with enabled }⟩

def clear (_ : Registry η) : Registry η := empty

def all (r : Registry η) : List (Subscription η) := r.byId.values

def enabled (r : Registry η) : List (Subscription η) := r.all.filter (·.enabled)

/-- The enabled subscriptions that want a topic, in order of their ids. -/
def matching (r : Registry η) (topic : String) : List (Subscription η) :=
  r.enabled.filter (·.wants topic)

/-- The filters of all enabled subscriptions, each once, in ascending order. -/
def topics (r : Registry η) : List String :=
  Entries.keys (Entries.ofList ((r.enabled.flatMap (·.topics)).map fun filter => (filter, ())))

def size (r : Registry η) : Nat := r.byId.size

end Registry
end EventBus
