import EventBus.Proofs.Entries
import EventBus.Proofs.Topic.Grammar
import EventBus.Subscription.Registry

namespace EventBus

namespace Subscription

variable {η : Type u}

/-- At least one filter, and no filter that is not well formed. -/
def WellFormed (s : Subscription η) : Prop :=
  s.topics ≠ [] ∧ ∀ filter ∈ s.topics, Topic.validateFilter filter = .ok ()

instance (s : Subscription η) : Decidable s.WellFormed :=
  decidable_of_iff (s.topics ≠ [] ∧ ∀ filter ∈ s.topics, Topic.filterFault filter = none)
    (by simp only [WellFormed, Topic.validateFilter_eq_ok])

theorem firstBadFilter_none {filters : List String} (h : firstBadFilter filters = none) :
    ∀ filter ∈ filters, Topic.validateFilter filter = .ok () := by
  induction filters with
  | nil => simp
  | cons first rest ih =>
    simp only [firstBadFilter] at h
    split at h
    · cases h
    · next hnone =>
      intro filter hf
      rcases List.mem_cons.mp hf with rfl | hf
      · exact Topic.validateFilter_eq_ok.mpr hnone
      · exact ih h filter hf

theorem firstBadFilter_some {filters : List String} {filter : String} {fault : Topic.FilterError}
    (h : firstBadFilter filters = some (filter, fault)) :
    ∃ front back, filters = front ++ filter :: back ∧
      (∀ good ∈ front, Topic.validateFilter good = .ok ()) ∧
      Topic.validateFilter filter = .error fault := by
  induction filters with
  | nil => simp [firstBadFilter] at h
  | cons first rest ih =>
    simp only [firstBadFilter] at h
    split at h
    · next other hfault =>
      obtain ⟨rfl, rfl⟩ := Prod.mk.inj (Option.some.inj h)
      exact ⟨[], rest, rfl, by simp, Topic.validateFilter_eq_error.mpr hfault⟩
    · next hnone =>
      obtain ⟨front, back, rfl, hfront, hbad⟩ := ih h
      refine ⟨first :: front, back, rfl, ?_, hbad⟩
      intro good hgood
      rcases List.mem_cons.mp hgood with rfl | hgood
      · exact Topic.validateFilter_eq_ok.mpr hnone
      · exact hfront good hgood

end Subscription

namespace Registry

variable {η : Type u} {r after : Registry η} {s : Subscription η}

/-- How a registry answers a subscription: the first of the faults, or with the subscription in. -/
inductive Answer (r : Registry η) (s : Subscription η) :
    Except SubscriptionError (Registry η) → Prop where
  | noTopics (h : s.topics = []) : Answer r s (.error (.noTopics s.id))
  | invalidTopic (front : List String) (filter : String) (back : List String)
      (fault : Topic.FilterError) (h : s.topics = front ++ filter :: back)
      (hfront : ∀ good ∈ front, Topic.validateFilter good = .ok ())
      (hbad : Topic.validateFilter filter = .error fault) :
    Answer r s (.error (.invalidTopic s.id filter fault))
  | duplicateId (old : Subscription η) (h : s.WellFormed) (hold : r.get? s.id = some old) :
    Answer r s (.error (.duplicateId s.id))
  | registered (h : s.WellFormed) (hnew : r.get? s.id = none) :
    Answer r s (.ok ⟨r.byId.insert s.id s⟩)

theorem answer_register (r : Registry η) (s : Subscription η) : Answer r s (r.register s) := by
  by_cases htopics : s.topics = []
  · have hvalidate : s.validate = .error (.noTopics s.id) := if_pos htopics
    simp only [register, hvalidate]
    exact .noTopics htopics
  · cases hbad : Subscription.firstBadFilter s.topics with
    | some bad =>
      obtain ⟨filter, fault⟩ := bad
      have hvalidate : s.validate = .error (.invalidTopic s.id filter fault) := by
        simp [Subscription.validate, htopics, hbad]
      obtain ⟨front, back, hsplit, hfront, hfault⟩ := Subscription.firstBadFilter_some hbad
      simp only [register, hvalidate]
      exact .invalidTopic front filter back fault hsplit hfront hfault
    | none =>
      have hvalidate : s.validate = .ok () := by simp [Subscription.validate, htopics, hbad]
      have hwell : s.WellFormed := ⟨htopics, Subscription.firstBadFilter_none hbad⟩
      have hcontains : r.byId.contains s.id = (r.get? s.id).isSome := rfl
      cases hget : r.get? s.id with
      | some old =>
        simp only [register, hvalidate, hcontains, hget, Option.isSome_some, if_true]
        exact .duplicateId old hwell hget
      | none =>
        simp only [register, hvalidate, hcontains, hget, Option.isSome_none, Bool.false_eq_true,
          if_false]
        exact .registered hwell hget

theorem register_of_wellFormed (r : Registry η) {s : Subscription η} (h : s.WellFormed) :
    ((∃ old, r.get? s.id = some old) ∧ r.register s = .error (.duplicateId s.id)) ∨
      (r.get? s.id = none ∧ r.register s = .ok ⟨r.byId.insert s.id s⟩) := by
  have hanswer := answer_register r s
  generalize r.register s = answer at hanswer
  cases hanswer with
  | noTopics hnone => exact absurd hnone h.1
  | invalidTopic front filter back fault hsplit hfront hbad =>
    rw [h.2 filter (by simp [hsplit])] at hbad
    cases hbad
  | duplicateId old _ hold => exact .inl ⟨⟨old, hold⟩, rfl⟩
  | registered _ hnew => exact .inr ⟨hnew, rfl⟩

theorem get?_insert (r : Registry η) (s : Subscription η) (id : String) :
    (⟨r.byId.insert s.id s⟩ : Registry η).get? id = if s.id = id then some s else r.get? id :=
  SortedMap.get?_insert r.byId s.id id s

theorem contains_eq (r : Registry η) (id : String) : r.contains id = (r.get? id).isSome := rfl

theorem register_ok {t : Subscription η} (h : r.register t = .ok after) :
    after = ⟨r.byId.insert t.id t⟩ := by
  have hanswer := answer_register r t
  rw [h] at hanswer
  cases hanswer
  rfl

theorem wellFormed_of_register {t : Subscription η} (h : r.register t = .ok after) :
    t.WellFormed := by
  have hanswer := answer_register r t
  rw [h] at hanswer
  cases hanswer
  assumption

theorem get?_of_register {t : Subscription η} (h : r.register t = .ok after) :
    r.get? t.id = none := by
  have hanswer := answer_register r t
  rw [h] at hanswer
  cases hanswer
  assumption

theorem get?_of_register_ok {t : Subscription η} (h : r.register t = .ok after) (id : String) :
    after.get? id = if t.id = id then some t else r.get? id := by
  rw [register_ok h, get?_insert]

theorem mem_enabled : s ∈ r.enabled ↔ s ∈ r.all ∧ s.enabled = true := by
  rw [enabled, List.mem_filter]

theorem mem_all : s ∈ r.all ↔ ∃ id, (id, s) ∈ r.byId.entries := by
  simp [all, SortedMap.values]

theorem mem_all_of_get? {id : String} (h : r.get? id = some s) : s ∈ r.all :=
  mem_all.mpr ⟨id, Entries.mem_of_find? h⟩

theorem mem_all_iff : s ∈ r.all ↔ ∃ id, r.get? id = some s := by
  constructor
  · intro h
    obtain ⟨id, he⟩ := mem_all.mp h
    exact ⟨id, Entries.find?_of_mem r.byId.ascending he⟩
  · rintro ⟨id, h⟩
    exact mem_all_of_get? h

theorem mem_all_of_register {t : Subscription η} (h : r.register t = .ok after)
    (hs : s ∈ after.all) : s = t ∨ s ∈ r.all := by
  obtain ⟨id, he⟩ := mem_all.mp hs
  rw [register_ok h] at he
  rcases Entries.mem_insert he with he | he
  · exact .inl (Prod.mk.inj he).2
  · exact .inr (mem_all.mpr ⟨id, he⟩)

theorem mem_all_of_unregister {id : String} (hs : s ∈ (r.unregister id).all) : s ∈ r.all := by
  obtain ⟨k, he⟩ := mem_all.mp hs
  exact mem_all.mpr ⟨k, (List.mem_filter.mp he).1⟩

theorem mem_all_of_setEnabled {id : String} {flag : Bool} (hs : s ∈ (r.setEnabled id flag).all) :
    s ∈ r.all ∨ ∃ t, r.get? id = some t ∧ s = { t with enabled := flag } := by
  obtain ⟨k, he⟩ := mem_all.mp hs
  obtain ⟨e, hmem, heq⟩ := List.mem_map.mp he
  obtain ⟨rfl, hvalue⟩ := Prod.mk.inj heq
  by_cases hid : e.1 = id
  · have hget : r.get? id = some e.2 := hid ▸ Entries.find?_of_mem r.byId.ascending hmem
    exact .inr ⟨e.2, hget, hvalue.symm.trans (if_pos hid)⟩
  · have hsame : s = e.2 := hvalue.symm.trans (if_neg hid)
    exact .inl (mem_all.mpr ⟨e.1, hsame ▸ hmem⟩)

theorem get?_setEnabled {id : String} {flag : Bool} (h : r.get? id = some s) :
    (r.setEnabled id flag).get? id = some { s with enabled := flag } := by
  have hadjust := SortedMap.get?_adjust r.byId id id fun s => { s with enabled := flag }
  rw [if_pos rfl] at hadjust
  have hget : r.byId.get? id = some s := h
  rw [hget] at hadjust
  exact hadjust

theorem mem_topics {filter : String} :
    filter ∈ r.topics ↔ ∃ s ∈ r.enabled, filter ∈ s.topics := by
  rw [topics, Entries.mem_keys_ofList]
  simp

end Registry
end EventBus
