import EventBus.Service

namespace EventBus.Service

structure Null (η : Type u) where
  inner : Service η
  running : Bool := false

namespace Null

variable {η : Type u}

def new : Null η := { inner := .localOnly }

def start (n : Null η) : Null η := { n with running := true }

def stop (n : Null η) : Null η := { n with running := false }

def register (n : Null η) (subscription : Subscription η) : Except SubscriptionError (Null η) :=
  (n.inner.register subscription).map fun inner => { n with inner }

def unsubscribe (n : Null η) (id : String) : Null η := { n with inner := n.inner.unsubscribe id }

def dispatchLocal (behave : Behaviour η) (n : Null η) (event : Event) (topic : Option String) :
    Null η × List (Subscription η) :=
  let (inner, invoked) := n.inner.dispatchLocal behave event topic
  ({ n with inner }, invoked)

def stats (n : Null η) : Stats := { n.inner.stats with running := n.running }

end Null
end EventBus.Service
