import EventBus.Payload
import EventBus.Proofs.Json.Members
import EventBus.Proofs.Json.Text
import EventBus.Proofs.Utf8

namespace EventBus.Payload

theorem mem_stamped {message : Message} {now : Timestamp} {e : String × Json}
    (h : e ∈ (stamped message now).entries) :
    e ∈ message.payload.entries ∨ ∃ s, e.2 = .string s := by
  have htimed : ∀ e ∈ (message.payload.insertNew timestampKey
      (.string (message.timestamp.getD now).textWithOffset)).entries,
      e ∈ message.payload.entries ∨ ∃ s, e.2 = .string s := by
    intro e he
    rcases SortedMap.mem_insertNew he with rfl | he
    · exact .inr ⟨_, rfl⟩
    · exact .inl he
  unfold stamped at h
  split at h
  · rcases SortedMap.mem_insertNew h with rfl | h
    · exact .inr ⟨_, rfl⟩
    · exact htimed e h
  · exact htimed e h

theorem get?_stamped {message : Message} {key : String} (now : Timestamp) (ht : key ≠ timestampKey)
    (hc : key ≠ correlationIdKey) : (stamped message now).get? key = message.payload.get? key := by
  unfold stamped
  split
  · rw [SortedMap.get?_insertNew_of_ne _ (Ne.symm hc),
      SortedMap.get?_insertNew_of_ne _ (Ne.symm ht)]
  · rw [SortedMap.get?_insertNew_of_ne _ (Ne.symm ht)]

/-- A payload that can be written without loss, at a depth that can be read. -/
structure Sound (payload : SortedMap Json) : Prop where
  canonical : (Json.object payload.entries).Canonical
  exact : (Json.object payload.entries).Exact
  shallow : (Json.object payload.entries).depth ≤ Json.maxDepth

theorem sound_iff {payload : SortedMap Json} :
    Sound payload ↔ ∀ e ∈ payload.entries,
      e.2.Canonical ∧ e.2.Exact ∧ e.2.depth + 1 ≤ Json.maxDepth := by
  have hdepth : (Json.object payload.entries).depth ≤ Json.maxDepth ↔
      ∀ e ∈ payload.entries, e.2.depth + 1 ≤ Json.maxDepth :=
    Nat.succ_le_succ_iff.trans (Json.depthFields_le_iff.trans
      (forall₂_congr fun _ _ => Nat.succ_le_succ_iff.symm))
  constructor
  · intro h e he
    exact ⟨Json.canonicalFields_iff.mp h.canonical.2 e he, Json.exactFields_iff.mp h.exact e he,
      hdepth.mp h.shallow e he⟩
  · intro h
    exact ⟨⟨payload.ascending, Json.canonicalFields_iff.mpr fun e he => (h e he).1⟩,
      Json.exactFields_iff.mpr fun e he => (h e he).2.1, hdepth.mpr fun e he => (h e he).2.2⟩

theorem sound_stamped {message : Message} (h : Sound message.payload) (now : Timestamp) :
    Sound (stamped message now) := by
  refine sound_iff.mpr fun e he => ?_
  rcases mem_stamped he with he | ⟨s, hs⟩
  · exact sound_iff.mp h e he
  · rw [hs]
    exact ⟨trivial, trivial, by simp [Json.depth, Json.maxDepth]⟩

theorem decode_encode {message : Message} (h : Sound message.payload) (now : Timestamp) :
    decode (encode message now) = .ok (.object (stamped message now).entries) := by
  have hs := sound_stamped h now
  rw [decode, encode, Utf8.decode_encode]
  simp only [text, Json.ofChars?_write hs.exact hs.canonical hs.shallow]

theorem get?_stamped_eq (message : Message) (now : Timestamp) (key : String) :
    (stamped message now).get? key =
      (message.payload.get? key).or
        (if key = timestampKey then some (.string (message.timestamp.getD now).textWithOffset)
        else if key = correlationIdKey then message.correlationId.map .string else none) := by
  have hkeys : timestampKey ≠ correlationIdKey := by decide
  unfold stamped
  cases message.correlationId with
  | none => simp [SortedMap.get?_insertNew, eq_comm]
  | some id =>
    simp only [SortedMap.get?_insertNew, Option.or_assoc]
    by_cases ht : key = timestampKey
    · simp [ht, hkeys.symm]
    · simp [ht, eq_comm]

theorem stamped_of_holding {message : Message} {time : Json} (now : Timestamp)
    (ht : message.payload.get? timestampKey = some time)
    (hc : message.correlationId ≠ none → message.payload.get? correlationIdKey ≠ none) :
    stamped message now = message.payload := by
  have htimed :=
    SortedMap.insertNew_of_get? ht (.string (message.timestamp.getD now).textWithOffset)
  unfold stamped
  rw [htimed]
  cases hid : message.correlationId with
  | none => rfl
  | some id =>
    obtain ⟨old, hold⟩ := Option.ne_none_iff_exists'.mp (hc (by simp [hid]))
    exact SortedMap.insertNew_of_get? hold (.string id)

/-- Decoding gives back the payload, with the time and the correlation id of the message where it
held nothing under their keys, and nothing else. A payload is stamped once: whoever sends on what
was decoded sends the same bytes, whatever the time is by then. -/
theorem decode_encode_stamped_once {message : Message} (h : Sound message.payload)
    (now : Timestamp) :
    ∃ fields : SortedMap Json,
      decode (encode message now) = .ok (.object fields.entries) ∧
        (∀ key, fields.get? key =
          (message.payload.get? key).or
            (if key = timestampKey then some (.string (message.timestamp.getD now).textWithOffset)
            else if key = correlationIdKey then message.correlationId.map .string else none)) ∧
        ∀ (again : Message) (later : Timestamp), again.payload = fields →
          (again.correlationId ≠ none → message.correlationId ≠ none) →
            encode again later = encode message now := by
  have hkeys : correlationIdKey ≠ timestampKey := by decide
  refine ⟨stamped message now, decode_encode h now, get?_stamped_eq message now, ?_⟩
  intro again later hpayload hid
  obtain ⟨time, htime⟩ : ∃ time, (stamped message now).get? timestampKey = some time := by
    rw [get?_stamped_eq, if_pos rfl]
    cases message.payload.get? timestampKey <;> simp
  have hcorrelation : again.correlationId ≠ none →
      (stamped message now).get? correlationIdKey ≠ none := by
    intro hsome
    obtain ⟨id, hmessage⟩ := Option.ne_none_iff_exists'.mp (hid hsome)
    rw [get?_stamped_eq, if_neg hkeys, if_pos rfl, hmessage]
    cases message.payload.get? correlationIdKey <;> simp
  have hsame : stamped again later = stamped message now := by
    rw [← hpayload] at htime hcorrelation
    rw [stamped_of_holding later htime hcorrelation, hpayload]
  rw [encode, encode, text, text, hsame]

/-- A reading with a time of its own, sent with a correlation id, at the ends of the whole
numbers. -/
def reading : Message where
  topic := "a"
  payload := .ofList
    [("_timestamp", .null),
      ("é\n\"", .array [.number (.integer ⟨-2 ^ 63, by decide, by decide⟩),
        .number (.integer ⟨2 ^ 64 - 1, by decide, by decide⟩), .object []])]
  correlationId := some "c"

theorem decode_encode_stamped_once_reading :
    let now : Timestamp := .epoch
    Sound reading.payload ∧
      ∃ fields : SortedMap Json,
        decode (encode reading now) = .ok (.object fields.entries) ∧
          (∀ key, fields.get? key =
            (reading.payload.get? key).or
              (if key = timestampKey then
                some (.string (reading.timestamp.getD now).textWithOffset)
              else if key = correlationIdKey then reading.correlationId.map .string else none)) ∧
          ∀ (again : Message) (later : Timestamp), again.payload = fields →
            (again.correlationId ≠ none → reading.correlationId ≠ none) →
              encode again later = encode reading now := by
  intro now
  have hentries : reading.payload.entries =
      [("_timestamp", .null),
        ("é\n\"", .array [.number (.integer ⟨-2 ^ 63, by decide, by decide⟩),
          .number (.integer ⟨2 ^ 64 - 1, by decide, by decide⟩), .object []])] := by rfl
  have hsound : Sound reading.payload := by
    rw [sound_iff, hentries]
    simp [Json.Canonical, Json.CanonicalItems, Json.CanonicalFields, Entries.Ascending, Json.Exact,
      Json.ExactItems, Json.ExactFields, Json.depth, Json.depthItems, Json.depthFields,
      Json.maxDepth]
  exact ⟨hsound, decode_encode_stamped_once hsound now⟩

end EventBus.Payload
