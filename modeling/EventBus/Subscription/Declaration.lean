import EventBus.Config
import EventBus.Subscription

namespace EventBus

namespace Subscription

variable {η : Type u}

def sourceKey : String := "source"

def handlerKey : String := "handler"

def declared (s : Subscription η) : Subscription η :=
  { s with metadata := s.metadata.insertNew sourceKey (.string "declared") }

def ofSpec (spec : SubscriptionSpec) (handler : η) : Subscription η where
  id := spec.id
  topics := spec.topics
  handler := handler
  metadata :=
    (spec.metadata.insertNew sourceKey (.string "config")).insert handlerKey (.string spec.handler)

def listText (subscriptions : List (Subscription η)) : String :=
  "[" ++ ", ".intercalate (subscriptions.map text) ++ "]"

end Subscription

abbrev Catalog (η : Type u) := SortedMap η

namespace Catalog

variable {η : Type u}

def text (catalog : Catalog η) : String :=
  String.join ["HandlerCatalog \x7b handlers: ", Text.quotedList catalog.keys, " \x7d"]

/-- The enabled entries with their handlers. The first name without a handler is the error. -/
def resolve (catalog : Catalog η) :
    List SubscriptionSpec → Except SubscriptionError (List (Subscription η))
  | [] => .ok []
  | spec :: rest =>
    if spec.enabled then
      match catalog.get? spec.handler with
      | none => .error (.unknownHandler spec.id spec.handler)
      | some handler => do
        let more ← resolve catalog rest
        .ok (.ofSpec spec handler :: more)
    else resolve catalog rest

end Catalog

variable {σ : Type u} {η : Type v}

/-- Register one after the other, and give the ids that were registered. An id that is taken is
passed over; any other refusal ends it, and what was registered by then stays. -/
def registerAll (register : σ → Subscription η → Except SubscriptionError σ) (s : σ) :
    List (Subscription η) → σ × Except SubscriptionError (List String)
  | [] => (s, .ok [])
  | subscription :: rest =>
    match register s subscription with
    | .ok s =>
      let (s, ids) := registerAll register s rest
      (s, ids.map (subscription.id :: ·))
    | .error (.duplicateId _) => registerAll register s rest
    | .error error => (s, .error error)

/-- Register the enabled entries of a configuration. All handlers are looked up before anything is
registered. -/
def registerSpecs (register : σ → Subscription η → Except SubscriptionError σ)
    (catalog : Catalog η) (s : σ) (specs : List SubscriptionSpec) :
    σ × Except SubscriptionError (List String) :=
  match catalog.resolve specs with
  | .error error => (s, .error error)
  | .ok subscriptions => registerAll register s subscriptions

end EventBus
