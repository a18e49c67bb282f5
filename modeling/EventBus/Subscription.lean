import EventBus.Json.Diagnostic
import EventBus.Topic.Filter

namespace EventBus

structure Subscription (η : Type u) where
  id : String
  topics : List String
  handler : η
  enabled : Bool := true
  metadata : SortedMap Json := .empty

inductive SubscriptionError where
  | duplicateId (id : String)
  | noTopics (id : String)
  | invalidTopic (id filter : String) (fault : Topic.FilterError)
  | unknownHandler (id handler : String)
  deriving DecidableEq, Repr

namespace SubscriptionError

def message : SubscriptionError → String
  | .duplicateId id => String.join ["Subscription '", id, "' is already registered"]
  | .noTopics id => String.join ["Subscription '", id, "' must name at least one topic"]
  | .invalidTopic id filter fault =>
    String.join ["Subscription '", id, "' has invalid topic filter '", filter, "': ", fault.message]
  | .unknownHandler id handler =>
    String.join ["Subscription '", id, "' references unknown handler '", handler, "'"]

def chain (error : SubscriptionError) : List String :=
  match error with
  | .invalidTopic _ _ fault => [error.message, fault.message]
  | _ => [error.message]

end SubscriptionError

namespace Subscription

variable {η : Type u}

structure Info where
  id : String
  topics : List String
  enabled : Bool
  metadata : SortedMap Json

def info (s : Subscription η) : Info := ⟨s.id, s.topics, s.enabled, s.metadata⟩

def Info.toJson (info : Info) : Json :=
  .ofFields [("id", .string info.id), ("topics", .ofStrings info.topics),
    ("enabled", .bool info.enabled), ("metadata", .object info.metadata.entries)]

def wants (s : Subscription η) (topic : String) : Bool :=
  s.topics.any (Topic.matchesFilter topic)

def firstBadFilter : List String → Option (String × Topic.FilterError)
  | [] => none
  | filter :: rest =>
    match Topic.filterFault filter with
    | some fault => some (filter, fault)
    | none => firstBadFilter rest

def validate (s : Subscription η) : Except SubscriptionError Unit :=
  if s.topics = [] then .error (.noTopics s.id)
  else
    match firstBadFilter s.topics with
    | some (filter, fault) => .error (.invalidTopic s.id filter fault)
    | none => .ok ()

def text (s : Subscription η) : String :=
  String.join ["Subscription \x7b id: ", Text.quoted s.id, ", topics: ", Text.quotedList s.topics,
    ", enabled: ", if s.enabled then "true" else "false", ", metadata: ", s.metadata.shown,
    ", .. \x7d"]

end Subscription
end EventBus
