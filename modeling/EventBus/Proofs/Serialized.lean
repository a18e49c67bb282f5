import EventBus.Event.Record
import EventBus.Proofs.Event.Wire
import EventBus.Proofs.Json.Record

namespace EventBus

open Json Entries

theorem Qos.reads (qos : Qos) : Reads Qos.ofTree? qos.toJson qos := by
  intro written h
  cases h
  rw [Qos.ofTree?, tree, Json.Record.natural?, value?_numeral]
  cases qos <;> rfl

namespace Message

/-- The message with the time that its text shows. -/
def settled (message : Message) : Message :=
  { message with timestamp := message.timestamp.map Timestamp.settled }

theorem settled_eq_self_iff (message : Message) :
    message.settled = message ↔ ∀ time ∈ message.timestamp, time.Settled := by
  have htime : message.settled = message ↔
      message.timestamp.map Timestamp.settled = message.timestamp := by
    refine ⟨congrArg Message.timestamp, fun h => ?_⟩
    rw [settled, h]
  rw [htime]
  cases message.timestamp with
  | none => simp
  | some time => simp [Timestamp.settled_eq_self_iff]

theorem reads {message : Message} (h : message.toJson.Lossless maxDepth)
    (hyear : ∀ time ∈ message.timestamp, 0 ≤ time.date.year ∧ time.date.year ≤ 9999) :
    Reads ofTree? message.toJson message.settled := by
  intro written hw
  obtain ⟨found, hslots, hfound⟩ := Arranged.slots hw (by decide : fieldNames.Nodup)
  -- The record itself is one level of nesting, the others are left to its members.
  have hpayload : (Json.object message.payload.entries).Lossless 126 := by
    refine Lossless.member h (show find? "payload" _ = _ from ?_)
    simp [find?]
  have htime : ∀ t ∈ message.timestamp, Reads Json.Record.time? (.string t.text) t.settled :=
    fun t ht => Reads.time (hyear t ht).1 (hyear t ht).2
  have htopic := (Reads.text message.topic).required (by simpa [find?] using hfound "topic")
  have hbody := (Reads.map hpayload).required (by simpa [find?] using hfound "payload")
  have hqos := message.qos.reads.withDefault .standard (by simpa [find?] using hfound "qos")
  have hretain :=
    (Reads.bool message.retain).withDefault false (by simpa [find?] using hfound "retain")
  have hheaders := Reads.unlessEmpty (m := message.headers)
    (fun _ => Reads.mapOf .string fun e _ => Reads.text e.2)
    (by simpa [find?] using hfound "headers")
  have hcorrelation := Reads.optionalText (by simpa [find?] using hfound "correlation_id")
  have htimestamp :=
    Reads.optional Timestamp.text Timestamp.settled htime
      (by simpa [find?] using hfound "timestamp")
  rw [ofTree?, show maxDepth = 126 + 1 from rfl, hslots]
  simp only [fieldNames, List.map_cons, List.map_nil, Option.bind_eq_bind, Option.bind_some,
    htopic, hbody, hqos, hretain, hheaders, hcorrelation, htimestamp, settled]

end Message

theorem PublishResult.reads (result : PublishResult) :
    Reads PublishResult.ofTree? result.toJson result := by
  intro written hw
  obtain ⟨found, hslots, hfound⟩ :=
    Arranged.slots hw (by decide : ["success", "message_id", "error"].Nodup)
  have hsuccess := (Reads.bool result.success).required (by simpa [find?] using hfound "success")
  have hid := Reads.optionalText (by simpa [find?] using hfound "message_id")
  have herror := Reads.optionalText (by simpa [find?] using hfound "error")
  rw [ofTree?, show maxDepth = 126 + 1 from rfl, hslots]
  simp only [List.map_cons, List.map_nil, Option.bind_eq_bind, Option.bind_some, hsuccess, hid,
    herror]

theorem PublishResult.exact_toJson (result : PublishResult) : result.toJson.Exact := by
  have htext : ∀ (key : String) (text : Option String), ∀ e ∈ member? key (text.map .string),
      e.2.Exact := by
    intro key text e he
    cases text with
    | none => cases he
    | some text =>
      rw [List.mem_singleton.mp he]
      trivial
  refine exact_ofFields fun e he => ?_
  rcases List.mem_append.mp he with he | he
  · rcases List.mem_append.mp he with he | he
    · rw [List.mem_singleton.mp he]
      trivial
    · exact htext _ _ e he
  · exact htext _ _ e he

namespace Event

theorem Source.reads (source : Source) (depth : Nat) :
    Reads (Source.ofTree? (depth + 1)) source.toJson source := by
  intro written hw
  obtain ⟨found, hslots, hfound⟩ :=
    Arranged.slots hw (by decide : ["app_key", "app_version", "module", "instance_id"].Nodup)
  have hkey := (Reads.text source.appKey).required (by simpa [find?] using hfound "app_key")
  have hversion :=
    (Reads.text source.appVersion).required (by simpa [find?] using hfound "app_version")
  have hmodule := Reads.optionalText (by simpa [find?] using hfound "module")
  have hinstance := Reads.optionalText (by simpa [find?] using hfound "instance_id")
  rw [Source.ofTree?, hslots]
  simp only [List.map_cons, List.map_nil, Option.bind_eq_bind, Option.bind_some, hkey, hversion,
    hmodule, hinstance]

/-- A text is the address, an object the terms: no form of one is a form of the other. -/
theorem Context.reads {context : Context} {depth : Nat} (h : context.toJson.Lossless depth) :
    Reads (Context.ofTree? depth) context.toJson context := by
  intro written hw
  have hvalue : written.tree.json? depth = some context.toJson := Reads.value h written hw
  rw [Context.ofTree?, hvalue]
  cases context with
  | uri address => rfl
  | terms named => simp [Context.toJson, SortedMap.ofList_entries]

theorem reads {event : Event} (now : Timestamp) (h : event.toJson.Lossless maxDepth)
    (hlower : 0 ≤ event.timestamp.date.year) (hupper : event.timestamp.date.year ≤ 9999) :
    Reads (ofTree? now) event.toJson event.settled := by
  intro written hw
  obtain ⟨found, hslots, hfound⟩ := Arranged.slots hw (by decide : fieldNames.Nodup)
  rw [members] at hfound
  have hcontext : event.context.toJson.Lossless 126 := by
    refine Lossless.member h (show find? "@context" _ = _ from ?_)
    simp [members, find?]
  have hpayload : event.payload.Lossless 126 := by
    refine Lossless.member h (show find? "payload" _ = _ from ?_)
    simp [members, find?]
  have hmetadata : event.metadata.isEmpty = false →
      (Json.object event.metadata.entries).Lossless 126 := by
    intro hne
    refine Lossless.member h (show find? "metadata" _ = _ from ?_)
    simp [members, find?, hne]
  have hid := (Reads.text event.id).required (by simpa [find?] using hfound "id")
  have htype := (Reads.text event.eventType).required (by simpa [find?] using hfound "@type")
  have hctx := (Context.reads hcontext).withDefault defaultContext
    (by simpa [find?] using hfound "@context")
  have hsource := (event.source.reads 125).withDefault {} (by simpa [find?] using hfound "source")
  have htime := (Reads.time hlower hupper).withDefault now
    (by simpa [find?] using hfound "timestamp")
  have hcorrelation := Reads.optionalText (by simpa [find?] using hfound "correlation_id")
  have hbody := (Reads.value hpayload).withDefault (.object [])
    (by simpa [find?] using hfound "payload")
  have hmeta := Reads.unlessEmpty (fun hne => Reads.map (hmetadata hne))
    (by simpa [find?] using hfound "metadata")
  rw [ofTree?, show maxDepth = 126 + 1 from rfl, hslots]
  simp only [fieldNames, List.map_cons, List.map_nil, Option.bind_eq_bind, Option.bind_some,
    hid, htype, hctx, hsource, htime, hcorrelation, hbody, hmeta, settled]

end Event

/-- Serialized forms are lossless but for leap seconds inside a minute, whose text is the one of the
second after them. In whatever order a serializer puts the members of objects, what it writes of a
message, an event or an outcome is read as the value it was made from: optional members that are
there and left out, texts of any characters, an empty event type, leap seconds that end a minute. -/
theorem read?_compact :
    (∀ (message : Message) (written : Json), Arranged message.toJson written →
      message.toJson.Lossless maxDepth →
      (∀ time ∈ message.timestamp, 0 ≤ time.date.year ∧ time.date.year ≤ 9999) →
      Message.read? written.compact = some message.settled ∧
        (Message.read? written.compact = some message ↔
          ∀ time ∈ message.timestamp, time.Settled)) ∧
    (∀ (event : Event) (now : Timestamp) (written : Json), Arranged event.toJson written →
      event.toJson.Lossless maxDepth →
      0 ≤ event.timestamp.date.year → event.timestamp.date.year ≤ 9999 →
      Event.read? now written.compact = some event.settled ∧
        (Event.read? now written.compact = some event ↔ event.timestamp.Settled)) ∧
    (∀ (result : PublishResult) (written : Json), Arranged result.toJson written →
      PublishResult.read? written.compact = some result) := by
  refine ⟨?_, ?_, ?_⟩
  · intro message written hw h hyear
    have hread : Message.read? written.compact = some message.settled :=
      (Message.reads h hyear).read_compact h.exact hw
    rw [hread]
    exact ⟨rfl, Option.some_inj.trans message.settled_eq_self_iff⟩
  · intro event now written hw h hlower hupper
    have hread : Event.read? now written.compact = some event.settled :=
      (Event.reads now h hlower hupper).read_compact h.exact hw
    rw [hread]
    exact ⟨rfl, Option.some_inj.trans event.settled_eq_self_iff⟩
  · intro result written hw
    exact result.reads.read_compact result.exact_toJson hw

/-- A message with a member of each kind. -/
def Message.chime (time : Timestamp) : Message where
  topic := "clock/chime"
  payload := .ofList [("second", .ofCount 60)]
  qos := .exactlyOnce
  retain := true
  headers := .ofList [("trace", "a\n")]
  timestamp := some time

theorem Message.forall_chime {P : Timestamp → Prop} {time : Timestamp} (h : P time) :
    ∀ t ∈ (Message.chime time).timestamp, P t := by
  intro t ht
  cases ht
  exact h

theorem Message.toJson_chime (time : Timestamp) : (Message.chime time).toJson = .object
    [("headers", .object [("trace", .string "a\n")]), ("payload", .object [("second", .ofCount 60)]),
      ("qos", .ofCount 2), ("retain", .bool true), ("timestamp", .string time.text),
      ("topic", .string "clock/chime")] := by
  simp only [Message.chime, Message.toJson, ofFields, member?, Qos.toJson, Qos.level, ofList,
    Entries.insert, SortedMap.entries_ofList, SortedMap.isEmpty, SortedMap.mapValues,
    Bool.false_eq_true, ↓reduceIte, List.isEmpty_cons, List.map_cons, List.map_nil,
    List.cons_append, List.nil_append, List.append_nil, List.foldl_cons, List.foldl_nil,
    Option.map_none, Option.map_some, String.reduceLT, String.reduceEq]
  rfl

theorem Message.lossless_chime (time : Timestamp) :
    (Message.chime time).toJson.Lossless maxDepth := by
  refine ⟨?_, ?_, ?_⟩ <;> rw [Message.toJson_chime]
  · simp only [Canonical, CanonicalFields, Ascending, ofCount, ofUInt64, ofInteger,
      List.pairwise_cons, List.Pairwise.nil, List.mem_cons, List.not_mem_nil, forall_eq_or_imp,
      or_false, false_implies, implies_true, and_self, forall_eq, String.reduceLT]
  · simp [Exact, ExactFields, ofCount, ofUInt64, ofInteger]
  · simp [depth, depthFields, maxDepth, ofCount, ofUInt64, ofInteger]

/-- An event of empty type that brings nothing but an id and a time. -/
def Event.hollow (time : Timestamp) : Event := .new ⟨"1", time⟩ "" .null

theorem Event.toJson_hollow (time : Timestamp) : (Event.hollow time).toJson = .object
    [("@context", .string "https://schemas.mqtt-eventbus.dev/contexts/event.jsonld"),
      ("@type", .string ""), ("id", .string "1"), ("payload", .null),
      ("source", .object [("app_key", .string "unknown"), ("app_version", .string "unknown")]),
      ("timestamp", .string time.text)] := by
  simp only [Event.hollow, Event.new, Event.toJson, Event.members, ofFields, member?,
    Event.defaultContext, Event.Context.toJson, Event.Source.toJson, ofList, Entries.insert,
    SortedMap.isEmpty, SortedMap.empty, ↓reduceIte, List.isEmpty_nil, List.cons_append,
    List.nil_append, List.append_nil, List.foldl_cons, List.foldl_nil, Option.map_none,
    String.reduceLT, String.reduceEq]

theorem Event.lossless_hollow (time : Timestamp) :
    (Event.hollow time).toJson.Lossless maxDepth := by
  refine ⟨?_, ?_, ?_⟩ <;> rw [Event.toJson_hollow]
  · simp only [Canonical, CanonicalFields, Ascending, List.pairwise_cons, List.Pairwise.nil,
      List.mem_cons, List.not_mem_nil, forall_eq_or_imp, or_false, false_implies, implies_true,
      and_self, forall_eq, String.reduceLT]
  · simp [Exact, ExactFields]
  · simp [depth, depthFields, maxDepth]

theorem Json.arranged_reverse {json : Json} {fields : List (String × Json)}
    (h : json = .object fields) : Arranged json (.object fields.reverse) :=
  h ▸ .object (ArrangedFields.refl fields) (List.reverse_perm fields).symm

theorem read?_compact_reversed :
    let chime := Message.chime Event.lastSecond
    let hollow := Event.hollow Event.lastSecond
    ∃ message event : Json,
      Arranged chime.toJson message ∧ chime.toJson.Lossless maxDepth ∧
      (∀ time ∈ chime.timestamp, 0 ≤ time.date.year ∧ time.date.year ≤ 9999) ∧
      Message.read? message.compact = some chime ∧
      Arranged hollow.toJson event ∧ hollow.toJson.Lossless maxDepth ∧
      0 ≤ hollow.timestamp.date.year ∧ hollow.timestamp.date.year ≤ 9999 ∧
      Event.read? hollow.timestamp event.compact = some hollow ∧
      PublishResult.read? (PublishResult.failed "gone").toJson.compact =
        some (PublishResult.failed "gone") := by
  intro chime hollow
  have hyear : ∀ time ∈ chime.timestamp, 0 ≤ time.date.year ∧ time.date.year ≤ 9999 :=
    Message.forall_chime (by decide)
  have hsettled : ∀ time ∈ chime.timestamp, time.Settled := Message.forall_chime (by decide)
  have hlower : 0 ≤ hollow.timestamp.date.year := by decide
  have hupper : hollow.timestamp.date.year ≤ 9999 := by decide
  have hmessage := Json.arranged_reverse (Message.toJson_chime Event.lastSecond)
  have hevent := Json.arranged_reverse (Event.toJson_hollow Event.lastSecond)
  have hsent := Message.lossless_chime Event.lastSecond
  have hemitted := Event.lossless_hollow Event.lastSecond
  obtain ⟨hread, hreadEvent, hreadResult⟩ := read?_compact
  exact ⟨_, _, hmessage, hsent, hyear, (hread _ _ hmessage hsent hyear).2.mpr hsettled, hevent,
    hemitted, hlower, hupper,
    (hreadEvent _ _ _ hevent hemitted hlower hupper).2.mpr (by decide),
    hreadResult _ _ (Arranged.refl _)⟩

/-- A message and an event of a leap second inside a minute come back with the second after it. -/
theorem not_same_compact :
    let chime := Message.chime Event.insideMinute
    let hollow := Event.hollow Event.insideMinute
    let next : Timestamp := ⟨1000000001, 333333333, by decide⟩
    chime.toJson.Lossless maxDepth ∧
      (∀ time ∈ chime.timestamp, 0 ≤ time.date.year ∧ time.date.year ≤ 9999) ∧
      Message.read? chime.toJson.compact = some (Message.chime next) ∧
      Message.read? chime.toJson.compact ≠ some chime ∧
    hollow.toJson.Lossless maxDepth ∧
      0 ≤ hollow.timestamp.date.year ∧ hollow.timestamp.date.year ≤ 9999 ∧
      Event.read? Event.lastSecond hollow.toJson.compact = some (Event.hollow next) ∧
      Event.read? Event.lastSecond hollow.toJson.compact ≠ some hollow := by
  intro chime hollow next
  have hyear : ∀ time ∈ chime.timestamp, 0 ≤ time.date.year ∧ time.date.year ≤ 9999 :=
    Message.forall_chime (by decide)
  have hlower : 0 ≤ hollow.timestamp.date.year := by decide
  have hupper : hollow.timestamp.date.year ≤ 9999 := by decide
  have hsent : chime.toJson.Lossless maxDepth := Message.lossless_chime Event.insideMinute
  have hemitted : hollow.toJson.Lossless maxDepth := Event.lossless_hollow Event.insideMinute
  have hmessage : Message.read? chime.toJson.compact = some chime.settled :=
    (Message.reads hsent hyear).read_compact hsent.exact (Arranged.refl _)
  have hevent : Event.read? Event.lastSecond hollow.toJson.compact = some hollow.settled :=
    (Event.reads Event.lastSecond hemitted hlower hupper).read_compact hemitted.exact
      (Arranged.refl _)
  have hnext : Event.insideMinute.settled = next := by decide
  have hchime : chime.settled = Message.chime next := congrArg Message.chime hnext
  have hhollow : hollow.settled = Event.hollow next := congrArg Event.hollow hnext
  have hinside : ¬Event.insideMinute.Settled := by decide
  refine ⟨hsent, hyear, hchime ▸ hmessage, fun hsame => ?_, hemitted, hlower, hupper,
    hhollow ▸ hevent, fun hsame => ?_⟩
  · have hself := Option.some.inj (hmessage.symm.trans hsame)
    exact hinside (chime.settled_eq_self_iff.mp hself Event.insideMinute rfl)
  · have hself := Option.some.inj (hevent.symm.trans hsame)
    exact hinside (hollow.settled_eq_self_iff.mp hself)

end EventBus
