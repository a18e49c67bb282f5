import EventBus.Event

namespace EventBus.Event

def fieldNames : List String :=
  ["id", "@type", "@context", "source", "timestamp", "correlation_id", "payload", "metadata"]

open Record Json.Record

def Source.ofTree? (depth : Nat) (tree : Json.Tree) : Option Source := do
  match ← slots? ["app_key", "app_version", "module", "instance_id"] depth tree with
  | ([appKey, appVersion, moduleName, instanceId], _) =>
    some {
      appKey := ← required text? appKey
      appVersion := ← required text? appVersion
      moduleName := ← optional text? moduleName
      instanceId := ← optional text? instanceId }
  | _ => none

def Context.ofTree? (depth : Nat) (tree : Json.Tree) : Option Context := do
  match ← tree.json? depth with
  | .string address => some (.uri address)
  | .object fields => some (.terms (SortedMap.ofList fields))
  | _ => none

def ofTree? (now : Timestamp) (tree : Json.Tree) : Option Event := do
  match ← slots? fieldNames Json.maxDepth tree with
  | ([id, eventType, context, source, timestamp, correlationId, payload, metadata], depth) =>
    some {
      id := ← required text? id
      eventType := ← required text? eventType
      context := ← withDefault defaultContext (Context.ofTree? depth) context
      source := ← withDefault {} (Source.ofTree? depth) source
      timestamp := ← withDefault now time? timestamp
      correlationId := ← optional text? correlationId
      payload := ← withDefault (.object []) (fun tree => tree.json? depth) payload
      metadata := ← withDefault .empty (map? depth) metadata }
  | _ => none

def read? (now : Timestamp) (text : String) : Option Event :=
  Json.Tree.read text.toList >>= ofTree? now

end EventBus.Event
