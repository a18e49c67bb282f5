import EventBus.Event.Inbound
import EventBus.Event.Record
import EventBus.Proofs.Json.Value
import EventBus.Proofs.Timestamp

namespace EventBus.Event

open Json Entries Record

def Source.ofValue? (json : Json) : Option Source := do
  match ← Value.slots? ["app_key", "app_version", "module", "instance_id"] json with
  | [appKey, appVersion, moduleName, instanceId] =>
    some {
      appKey := ← required string? appKey
      appVersion := ← required string? appVersion
      moduleName := ← Value.optional string? moduleName
      instanceId := ← Value.optional string? instanceId }
  | _ => none

def Context.ofValue? : Json → Option Context
  | .string address => some (.uri address)
  | .object fields => some (.terms (SortedMap.ofList fields))
  | _ => none

def ofValue? (now : Timestamp) (json : Json) : Option Event := do
  match ← Value.slots? fieldNames json with
  | [id, eventType, context, source, timestamp, correlationId, payload, metadata] =>
    some {
      id := ← required string? id
      eventType := ← required string? eventType
      context := ← withDefault defaultContext Context.ofValue? context
      source := ← withDefault {} Source.ofValue? source
      timestamp := ← withDefault now Value.time? timestamp
      correlationId := ← Value.optional string? correlationId
      payload := ← withDefault (.object []) some payload
      metadata := ← withDefault .empty Value.map? metadata }
  | _ => none

theorem Source.faithful (depth : Nat) :
    Faithful depth (Source.ofTree? depth) Source.ofValue? := by
  intro tree json source hjson h
  simp only [Source.ofTree?, Option.bind_eq_bind, Option.bind_eq_some_iff] at h
  obtain ⟨⟨slots, inner⟩, hslots, h⟩ := h
  obtain ⟨found, hfound, hholds⟩ := Record.slotHolds_slots? (by decide) hslots hjson
  split at h
  · next heq =>
    obtain ⟨rfl, rfl⟩ := Prod.mk.inj heq
    simp only [Option.bind_eq_some_iff] at h
    obtain ⟨appKey, hkey, appVersion, hversion, moduleName, hmodule, instanceId, hinstance,
      hsource⟩ := h
    obtain _ | ⟨keyHolds, _ | ⟨versionHolds, _ | ⟨moduleHolds, _ | ⟨instanceHolds, _ | _⟩⟩⟩⟩ :=
      hholds
    · simp only [Source.ofValue?, hfound, Option.bind_eq_bind, Option.bind_some,
        (Faithful.text inner).required keyHolds hkey,
        (Faithful.text inner).required versionHolds hversion,
        (Faithful.text inner).optional moduleHolds hmodule,
        (Faithful.text inner).optional instanceHolds hinstance]
      exact hsource
  · cases h

theorem Context.faithful (depth : Nat) :
    Faithful depth (Context.ofTree? depth) Context.ofValue? := by
  intro tree json context hjson h
  simp only [Context.ofTree?, hjson, Option.bind_eq_bind, Option.bind_some] at h
  cases json <;> exact h

theorem faithful (now : Timestamp) : Faithful maxDepth (ofTree? now) (ofValue? now) := by
  intro tree json event hjson h
  simp only [ofTree?, Option.bind_eq_bind, Option.bind_eq_some_iff] at h
  obtain ⟨⟨slots, inner⟩, hslots, h⟩ := h
  obtain ⟨found, hfound, hholds⟩ := Record.slotHolds_slots? (by decide) hslots hjson
  split at h
  · next heq =>
    obtain ⟨rfl, rfl⟩ := Prod.mk.inj heq
    simp only [Option.bind_eq_some_iff] at h
    obtain ⟨id, hid, eventType, htype, context, hcontext, source, hsource, timestamp, htime,
      correlationId, hcorrelation, payload, hpayload, metadata, hmetadata, hevent⟩ := h
    obtain _ | ⟨idHolds, _ | ⟨typeHolds, _ | ⟨contextHolds, _ | ⟨sourceHolds, _ | ⟨timeHolds,
      _ | ⟨correlationHolds, _ | ⟨payloadHolds, _ | ⟨metadataHolds, _ | _⟩⟩⟩⟩⟩⟩⟩⟩ := hholds
    · simp only [ofValue?, hfound, Option.bind_eq_bind, Option.bind_some,
        (Faithful.text inner).required idHolds hid, (Faithful.text inner).required typeHolds htype,
        (Context.faithful inner).withDefault contextHolds hcontext,
        (Source.faithful inner).withDefault sourceHolds hsource,
        (Faithful.time inner).withDefault timeHolds htime,
        (Faithful.text inner).optional correlationHolds hcorrelation,
        (Faithful.json inner).withDefault payloadHolds hpayload,
        (Faithful.map inner).withDefault metadataHolds hmetadata]
      exact hevent
  · cases h

/-- The strict reader accepts an object, as a value or as a text that holds it, and gives an
event. -/
inductive Accepted (now : Timestamp) (fields : Entries Json) (event : Event) : Prop where
  | value (h : ofValue? now (.object fields) = some event)
  | text (text : String) (hvalue : Json.ofString? text = some (.object fields))
    (h : read? now text = some event)

theorem Accepted.ofValue? {now : Timestamp} {fields : Entries Json} {event : Event}
    (h : Accepted now fields event) : ofValue? now (.object fields) = some event := by
  cases h with
  | value h => exact h
  | text text hvalue h =>
    obtain ⟨tree, hread, hevent⟩ := Option.bind_eq_some_iff.mp h
    rw [Json.ofString?, ofChars?, Option.bind_eq_bind, hread, Option.bind_some] at hvalue
    exact faithful now tree _ event hvalue hevent

/-- Nothing in an object is read by the lenient reader alone: its time is written as the standard
asks, its source is no bare name, and no stamp stands in for a correlation id. -/
structure Unambiguous (fields : Entries Json) : Prop where
  time : ∃ text, find? "timestamp" fields = some (.string text) ∧ (Timestamp.read? text).isSome
  source : ∀ json, find? "source" fields = some json → ∃ inner, json = .object inner
  correlation : (∃ text, find? "correlation_id" fields = some (.string text)) ∨
    find? "_correlationId" fields = none

theorem sourceOf_of_ofValue? {slot : Option Json} {source : Source}
    (hobject : ∀ json, slot = some json → ∃ inner, json = .object inner)
    (h : withDefault {} Source.ofValue? slot = some source) : Inbound.sourceOf slot = source := by
  cases slot with
  | none => exact Option.some.inj h
  | some json =>
    obtain ⟨inner, rfl⟩ := hobject json rfl
    simp only [withDefault, Source.ofValue?, Value.slots?, List.map_cons, List.map_nil,
      Option.bind_eq_bind, Option.bind_some, Option.bind_eq_some_iff] at h
    obtain ⟨appKey, hkey, appVersion, hversion, moduleName, hmodule, instanceId, hinstance,
      hsource⟩ := h
    obtain rfl := Option.some.inj hsource
    have hkey' : Inbound.text? inner "app_key" = some appKey := hkey
    have hversion' : Inbound.text? inner "app_version" = some appVersion := hversion
    have hmodule' : Inbound.text? inner "module" = moduleName := Value.text_of_optional hmodule
    have hinstance' : Inbound.text? inner "instance_id" = instanceId :=
      Value.text_of_optional hinstance
    simp only [Inbound.sourceOf, hkey', hversion', hmodule', hinstance', Option.getD_some]

theorem contextOf_of_ofValue? {slot : Option Json} {context : Context}
    (h : withDefault defaultContext Context.ofValue? slot = some context) :
    Inbound.contextOf slot = context := by
  cases slot with
  | none => exact Option.some.inj h
  | some json =>
    cases json with
    | string address => exact Option.some.inj h
    | object fields => exact Option.some.inj h
    | null | bool | number | array => cases h

theorem metadataOf_of_map? {slot : Option Json} {metadata : SortedMap Json}
    (h : withDefault .empty Value.map? slot = some metadata) :
    Inbound.metadataOf slot = metadata := by
  cases slot with
  | none => exact Option.some.inj h
  | some json =>
    cases json with
    | object fields => exact Option.some.inj h
    | null | bool | number | string | array => cases h

theorem getD_of_withDefault {slot : Option Json} {default json : Json}
    (h : withDefault default some slot = some json) : slot.getD default = json := by
  cases slot with
  | none => exact Option.some.inj h
  | some found => exact Option.some.inj h

theorem Unambiguous.time_eq {fields : Entries Json} (h : Unambiguous fields) {now t : Timestamp}
    (ht : withDefault now Value.time? (find? "timestamp" fields) = some t) :
    (Inbound.firstText? fields ["timestamp", "_timestamp"] >>= Timestamp.read?) = some t := by
  obtain ⟨text, hfound, hstrict⟩ := h.time
  obtain ⟨time, hread⟩ := Option.isSome_iff_exists.mp hstrict
  have hfirst : Inbound.firstText? fields ["timestamp", "_timestamp"] = some text := by
    simp [Inbound.firstText?, Inbound.text?, hfound, string?]
  have hloose : Value.time? (.string text) = some time := Timestamp.readLoose?_of_read? hread
  rw [hfound, withDefault, hloose] at ht
  rw [hfirst, Option.bind_eq_bind, Option.bind_some, hread, ht]

theorem Unambiguous.correlation_eq {fields : Entries Json} (h : Unambiguous fields)
    {id : Option String}
    (hid : Value.optional string? (find? "correlation_id" fields) = some id) :
    Inbound.firstText? fields ["correlation_id", "_correlationId"] = id := by
  have hown : Inbound.text? fields "correlation_id" = id := Value.text_of_optional hid
  rcases h.correlation with ⟨text, hfound⟩ | habsent
  · have htext : Inbound.text? fields "correlation_id" = some text := by
      simp [Inbound.text?, hfound, string?]
    rw [← hown]
    simp [Inbound.firstText?, htext]
  · have hstamp : Inbound.text? fields "_correlationId" = none := by
      simp [Inbound.text?, habsent]
    cases id with
    | none => simp [Inbound.firstText?, hown, hstamp]
    | some text => simp [Inbound.firstText?, hown]

/-- The readers agree: an object that the strict one accepts as an event with a type is the same
event to the lenient one, whatever either would have filled in. -/
theorem ofJson_of_accepted {now : Timestamp} {fields : Entries Json} {event : Event}
    (h : Accepted now fields event) (htype : event.eventType ≠ "") (hu : Unambiguous fields)
    (stamp : Stamp) : ofJson stamp (.object fields) = event := by
  have hvalue := h.ofValue?
  simp only [Event.ofValue?, Value.slots?, fieldNames, List.map_cons, List.map_nil,
    Option.bind_eq_bind, Option.bind_some, Option.bind_eq_some_iff] at hvalue
  obtain ⟨id, hid, eventType, heventType, context, hcontext, source, hsource, timestamp, htime,
    correlationId, hcorrelation, payload, hpayload, metadata, hmetadata, hevent⟩ := hvalue
  obtain rfl := Option.some.inj hevent
  have hid' : Inbound.text? fields "id" = some id := hid
  have hname : Inbound.text? fields "@type" = some eventType := heventType
  have htyped : Inbound.eventType? fields = some eventType := by
    simp [Inbound.eventType?, typeKeys, hname, htype]
  have hbody : (find? "payload" fields).getD (.object []) = payload := getD_of_withDefault hpayload
  simp only [ofJson, object?, htyped, ofTypedFields, hid', contextOf_of_ofValue? hcontext,
    sourceOf_of_ofValue? hu.source hsource, hu.time_eq htime, hu.correlation_eq hcorrelation, hbody,
    metadataOf_of_map? hmetadata, Option.getD_some]

/-- A leap second, members in no order, a source with an empty field, and a type that only the
lenient reader knows. -/
def doorMembers : List (String × Json) :=
  [("type", .string "c"), ("id", .string "7"), ("@type", .string "a.b"),
    ("timestamp", .string "2016-12-31 23:59:60z"), ("correlation_id", .null),
    ("source", .object [("app_key", .string "d"), ("app_version", .string "2"),
      ("module", .null)])]

def doorOpened : Event where
  id := "7"
  eventType := "a.b"
  source := { appKey := "d", appVersion := "2" }
  timestamp := ⟨1483228799, 10 ^ 9, by decide⟩
  payload := .object []

theorem ofJson_of_accepted_text :
    let now : Timestamp := .epoch
    Accepted now (ofList doorMembers) doorOpened ∧ doorOpened.eventType ≠ "" ∧
      Unambiguous (ofList doorMembers) ∧
      ofJson ⟨"8", now⟩ (.object (ofList doorMembers)) = doorOpened := by
  intro now
  have hexact : (Json.object doorMembers).Exact := by simp [doorMembers, Exact, ExactFields]
  have hread : Tree.read (Json.object doorMembers).compact.toList =
      some (Json.object doorMembers).tree := by
    rw [compact, String.toList_ofList, read_write hexact]
  have haccepted : Accepted now (ofList doorMembers) doorOpened := by
    refine .text (Json.object doorMembers).compact ?_ ?_
    · rw [Json.ofString?, ofChars?, hread]
      rfl
    · rw [read?, hread]
      rfl
  have htype : doorOpened.eventType ≠ "" := by decide
  have hunambiguous : Unambiguous (ofList doorMembers) := by
    refine ⟨⟨"2016-12-31 23:59:60z", rfl, rfl⟩, fun json h => ?_, .inr rfl⟩
    obtain rfl := Option.some.inj (h.symm.trans (show find? "source" _ = some (.object _) from rfl))
    exact ⟨_, rfl⟩
  exact ⟨haccepted, htype, hunambiguous,
    ofJson_of_accepted haccepted htype hunambiguous ⟨"8", now⟩⟩

end EventBus.Event
