import EventBus.Event.Inbound
import EventBus.Event.Outbound
import EventBus.Proofs.Payload
import EventBus.Proofs.Timestamp

namespace EventBus.Event

open Json Entries

theorem get?_members (event : Event) (key : String) :
    (SortedMap.ofList event.members).get? key =
      if key = "id" then some (.string event.id)
      else if key = "@type" then some (.string event.eventType)
      else if key = "@context" then some event.context.toJson
      else if key = "source" then some event.source.toJson
      else if key = "timestamp" then some (.string event.timestamp.text)
      else if key = "correlation_id" then event.correlationId.map .string
      else if key = "payload" then some event.payload
      else if key = "metadata" then
        if event.metadata.isEmpty then none else some (.object event.metadata.entries)
      else none := by
  rw [SortedMap.get?, SortedMap.entries_ofList, find?_ofList]
  simp only [members, List.reverse_append, reverse_member?, find?_append, find?_member?]
  by_cases h : key ∈ ["id", "@type", "@context", "source", "timestamp", "correlation_id", "payload",
      "metadata"]
  · simp only [List.mem_cons, List.not_mem_nil, or_false] at h
    rcases h with rfl | rfl | rfl | rfl | rfl | rfl | rfl | rfl <;> simp [find?]
  · simp only [List.mem_cons, List.not_mem_nil, or_false, not_or] at h
    simp [find?, h, eq_comm (b := key)]

theorem sourceOf_toJson (source : Source) : Inbound.sourceOf (some source.toJson) = source := by
  obtain ⟨appKey, appVersion, moduleName, instanceId⟩ := source
  simp only [Source.toJson, ofFields, Inbound.sourceOf, Inbound.text?, find?_ofList,
    List.reverse_append, reverse_member?, find?_append, find?_member?]
  cases moduleName <;> cases instanceId <;> simp [find?, string?]

theorem contextOf_toJson (context : Context) :
    Inbound.contextOf (some context.toJson) = context := by
  cases context with
  | uri address => rfl
  | terms named => simp [Context.toJson, Inbound.contextOf, SortedMap.ofList_entries]

theorem metadataOf_entries (metadata : SortedMap Json) :
    Inbound.metadataOf (if metadata.isEmpty then none else some (.object metadata.entries)) =
      metadata := by
  split
  · next h =>
    rw [SortedMap.eq_empty_of_isEmpty h]
    rfl
  · simp [Inbound.metadataOf, SortedMap.ofList_entries]

/-- The event with the time that its text shows. -/
def settled (event : Event) : Event := { event with timestamp := event.timestamp.settled }

theorem settled_eq_self_iff (event : Event) : event.settled = event ↔ event.timestamp.Settled := by
  rw [← Timestamp.settled_eq_self_iff]
  refine ⟨congrArg Event.timestamp, fun h => ?_⟩
  rw [settled, h]

/-- An object that holds the members of an event is that event, whatever the sender stamped on it:
the reader asks for the stamps only where a member is missing. -/
theorem ofJson_of_members {event : Event} {fields : SortedMap Json} (stamp : Stamp)
    (htype : event.eventType ≠ "") (hlower : 0 ≤ event.timestamp.date.year)
    (hupper : event.timestamp.date.year ≤ 9999)
    (hmembers : ∀ key, key ≠ Payload.timestampKey → key ≠ Payload.correlationIdKey →
      fields.get? key = (SortedMap.ofList event.members).get? key)
    (hcorrelation : event.correlationId = none → fields.get? Payload.correlationIdKey = none) :
    ofJson stamp (.object fields.entries) = event.settled := by
  have hfind : ∀ key, key ≠ "_timestamp" → key ≠ "_correlationId" →
      find? key fields.entries = (SortedMap.ofList event.members).get? key := hmembers
  have htype' : Inbound.eventType? fields.entries = some event.eventType := by
    simp [Inbound.eventType?, typeKeys, Inbound.text?, hfind, get?_members, string?, htype]
  have hcorrelation' : Inbound.firstText? fields.entries ["correlation_id", "_correlationId"] =
      event.correlationId := by
    cases hc : event.correlationId with
    | none =>
      have hnone : find? "_correlationId" fields.entries = none := hcorrelation hc
      simp [Inbound.firstText?, Inbound.text?, hfind, get?_members, hc, hnone]
    | some id => simp [Inbound.firstText?, Inbound.text?, hfind, get?_members, hc, string?]
  have htime : Inbound.firstText? fields.entries ["timestamp", "_timestamp"] =
      some event.timestamp.text := by
    simp [Inbound.firstText?, Inbound.text?, hfind, get?_members, string?]
  simp [ofJson, object?, htype', ofTypedFields, hcorrelation', htime, hfind, get?_members,
    Inbound.text?, string?, contextOf_toJson, sourceOf_toJson, metadataOf_entries,
    Timestamp.read?_text hlower hupper, settled]

theorem sound_members {event : Event} (hcanonical : event.toJson.Canonical)
    (hexact : event.toJson.Exact) (hdepth : event.toJson.depth ≤ maxDepth) :
    Payload.Sound (SortedMap.ofList event.members) := by
  have hentries : Json.object (SortedMap.ofList event.members).entries = event.toJson := by
    rw [SortedMap.entries_ofList]
    rfl
  exact ⟨hentries ▸ hcanonical, hentries ▸ hexact, hentries ▸ hdepth⟩

theorem decode_published {event : Event} (topic : Option String) (qos : Qos) (retain : Bool)
    (now : Timestamp) (stamp : Stamp) (htype : event.eventType ≠ "")
    (hlower : 0 ≤ event.timestamp.date.year) (hupper : event.timestamp.date.year ≤ 9999)
    (hcanonical : event.toJson.Canonical) (hexact : event.toJson.Exact)
    (hdepth : event.toJson.depth ≤ maxDepth) :
    ∃ json, Payload.decode (Payload.encode (.ofEvent event topic qos retain) now) = .ok json ∧
      ofJson stamp json = event.settled := by
  have hsound := sound_members hcanonical hexact hdepth
  have hpayload :
      (Message.ofEvent event topic qos retain).payload = SortedMap.ofList event.members := rfl
  have hdecode := Payload.decode_encode (hpayload ▸ hsound) now
  refine ⟨_, hdecode, ?_⟩
  apply ofJson_of_members stamp htype hlower hupper
  · intro key ht hc
    rw [Payload.get?_stamped now ht hc, hpayload]
  · intro hnone
    simp only [Payload.stamped, Message.ofEvent, hnone]
    rw [SortedMap.get?_insertNew_of_ne _ (by decide), get?_members]
    rfl

/-- An event survives the wire: published with any topic, level and time, then decoded and taken
apart again, it is the event that was sent, with the time that its text shows. That is its own time
unless this is a leap second inside a minute. `Canonical` is what every map inside it guarantees,
each key once and in order. -/
theorem ofJson_of_published {event : Event} (topic : Option String) (qos : Qos) (retain : Bool)
    (now : Timestamp) (stamp : Stamp) (htype : event.eventType ≠ "")
    (hlower : 0 ≤ event.timestamp.date.year) (hupper : event.timestamp.date.year ≤ 9999)
    (hcanonical : event.toJson.Canonical) (hexact : event.toJson.Exact)
    (hdepth : event.toJson.depth ≤ maxDepth) :
    ∃ json, Payload.decode (Payload.encode (.ofEvent event topic qos retain) now) = .ok json ∧
      ofJson stamp json = event.settled ∧
      (ofJson stamp json = event ↔ event.timestamp.Settled) := by
  obtain ⟨json, hdecode, hread⟩ :=
    decode_published topic qos retain now stamp htype hlower hupper hcanonical hexact hdepth
  refine ⟨json, hdecode, hread, ?_⟩
  rw [hread]
  exact event.settled_eq_self_iff

/-- A clock says what time it is, with nothing as its payload. -/
def tick (time : Timestamp) : Event where
  id := "1"
  eventType := "clock.tick"
  context := .terms (.ofList [("a", .string "b")])
  source := { appKey := "clock", moduleName := some "ntp" }
  timestamp := time
  correlationId := some "c"
  payload := .null
  metadata := .ofList [("n", .array [.bool true])]

theorem toJson_tick (time : Timestamp) : (tick time).toJson = .object
    [("@context", .object [("a", .string "b")]), ("@type", .string "clock.tick"),
      ("correlation_id", .string "c"), ("id", .string "1"),
      ("metadata", .object [("n", .array [.bool true])]), ("payload", .null),
      ("source", .object [("app_key", .string "clock"), ("app_version", .string "unknown"),
        ("module", .string "ntp")]),
      ("timestamp", .string time.text)] := by
  simp only [tick, toJson, members, ofFields, member?, Context.toJson, Source.toJson, ofList,
    Entries.insert, SortedMap.entries_ofList, SortedMap.isEmpty, Bool.false_eq_true, ↓reduceIte,
    List.isEmpty_cons, List.cons_append, List.nil_append, List.append_nil, List.foldl_cons,
    List.foldl_nil, Option.map_none, Option.map_some, String.reduceLT, String.reduceEq]

theorem lossless_tick (time : Timestamp) :
    (tick time).toJson.Canonical ∧ (tick time).toJson.Exact ∧
      (tick time).toJson.depth ≤ maxDepth := by
  rw [toJson_tick]
  refine ⟨?_, ?_, ?_⟩
  · simp only [Canonical, CanonicalFields, CanonicalItems, Ascending, List.pairwise_cons,
      List.Pairwise.nil, List.mem_cons, List.not_mem_nil, forall_eq_or_imp, or_false,
      false_implies, implies_true, and_self, forall_eq, String.reduceLT]
  · simp [Exact, ExactFields, ExactItems]
  · simp [depth, depthFields, depthItems, maxDepth]

/-- The last second of 2016, a leap second. -/
def lastSecond : Timestamp := ⟨1483228799, 1500000000, by decide⟩

theorem lastSecond_of_published :
    (tick lastSecond).eventType ≠ "" ∧
      0 ≤ (tick lastSecond).timestamp.date.year ∧ (tick lastSecond).timestamp.date.year ≤ 9999 ∧
      (tick lastSecond).toJson.Canonical ∧ (tick lastSecond).toJson.Exact ∧
      (tick lastSecond).toJson.depth ≤ maxDepth ∧
      ∃ json, Payload.decode (Payload.encode (.ofEvent (tick lastSecond) none .standard false)
          lastSecond) = .ok json ∧
        ofJson ⟨"2", lastSecond⟩ json = tick lastSecond := by
  have htype : (tick lastSecond).eventType ≠ "" := by decide
  have hlower : 0 ≤ (tick lastSecond).timestamp.date.year := by decide
  have hupper : (tick lastSecond).timestamp.date.year ≤ 9999 := by decide
  obtain ⟨hcanonical, hexact, hdepth⟩ := lossless_tick lastSecond
  obtain ⟨json, hdecode, -, hsame⟩ := @ofJson_of_published (tick lastSecond) none .standard false
    lastSecond ⟨"2", lastSecond⟩ htype hlower hupper hcanonical hexact hdepth
  exact ⟨htype, hlower, hupper, hcanonical, hexact, hdepth, json, hdecode, hsame.mpr (by decide)⟩

/-- A leap second after the fortieth second of a minute. -/
def insideMinute : Timestamp := ⟨1000000000, 1333333333, by decide⟩

/-- Its text is the one of the second after it, and so is what is read of it. -/
theorem not_same_insideMinute :
    insideMinute.text = "2001-09-09T01:46:41.333333333Z" ∧
    (tick insideMinute).eventType ≠ "" ∧
      0 ≤ (tick insideMinute).timestamp.date.year ∧
      (tick insideMinute).timestamp.date.year ≤ 9999 ∧
      (tick insideMinute).toJson.Canonical ∧ (tick insideMinute).toJson.Exact ∧
      (tick insideMinute).toJson.depth ≤ maxDepth ∧
      ∃ json, Payload.decode (Payload.encode (.ofEvent (tick insideMinute) none .standard false)
          lastSecond) = .ok json ∧
        ofJson ⟨"2", lastSecond⟩ json = tick ⟨1000000001, 333333333, by decide⟩ ∧
        ofJson ⟨"2", lastSecond⟩ json ≠ tick insideMinute := by
  have htype : (tick insideMinute).eventType ≠ "" := by decide
  have hlower : 0 ≤ (tick insideMinute).timestamp.date.year := by decide
  have hupper : (tick insideMinute).timestamp.date.year ≤ 9999 := by decide
  obtain ⟨hcanonical, hexact, hdepth⟩ := lossless_tick insideMinute
  obtain ⟨json, hdecode, hread⟩ := @decode_published (tick insideMinute) none .standard false
    lastSecond ⟨"2", lastSecond⟩ htype hlower hupper hcanonical hexact hdepth
  refine ⟨by rfl, htype, hlower, hupper, hcanonical, hexact, hdepth, json, hdecode, hread, ?_⟩
  rw [hread]
  exact mt (settled_eq_self_iff _).mp (by decide)

end EventBus.Event
