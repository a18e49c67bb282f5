import EventBus.Proofs.Subscription.Registry
import EventBus.Subscription.Declaration

namespace EventBus

namespace SubscriptionSpec

/-- At least one filter, and no filter that is not well formed. -/
def WellFormed (spec : SubscriptionSpec) : Prop :=
  spec.topics ≠ [] ∧ ∀ filter ∈ spec.topics, Topic.validateFilter filter = .ok ()

instance (spec : SubscriptionSpec) : Decidable spec.WellFormed :=
  decidable_of_iff (spec.topics ≠ [] ∧ ∀ filter ∈ spec.topics, Topic.filterFault filter = none)
    (by simp only [WellFormed, Topic.validateFilter_eq_ok])

/-- Why the topics of an entry are refused: there are none, or for the first that is not well
formed. -/
inductive Refused (spec : SubscriptionSpec) : SubscriptionError → Prop where
  | noTopics (h : spec.topics = []) : Refused spec (.noTopics spec.id)
  | invalidTopic (front : List String) (filter : String) (back : List String)
      (fault : Topic.FilterError) (h : spec.topics = front ++ filter :: back)
      (hfront : ∀ good ∈ front, Topic.validateFilter good = .ok ())
      (hbad : Topic.validateFilter filter = .error fault) :
    Refused spec (.invalidTopic spec.id filter fault)

/-- Either all enabled entries are as they should be, or some entry is the first that is not. -/
theorem all_or_first (specs : List SubscriptionSpec) (good : SubscriptionSpec → Prop) :
    (∀ spec ∈ specs, spec.enabled = true → good spec) ∨
      ∃ front spec back, specs = front ++ spec :: back ∧
        (∀ earlier ∈ front, earlier.enabled = true → good earlier) ∧
        spec.enabled = true ∧ ¬good spec := by
  induction specs with
  | nil => exact .inl (by simp)
  | cons first rest ih =>
    by_cases hfirst : first.enabled = true → good first
    · rcases ih with hall | ⟨front, spec, back, rfl, hfront, hspec⟩
      · exact .inl (List.forall_mem_cons.mpr ⟨hfirst, hall⟩)
      · exact .inr ⟨first :: front, spec, back, rfl,
          List.forall_mem_cons.mpr ⟨hfirst, hfront⟩, hspec⟩
    · exact .inr ⟨[], first, rest, rfl, by simp, Classical.not_imp.mp hfirst⟩

theorem Refused.ne_duplicateId {spec : SubscriptionSpec} {error : SubscriptionError}
    (h : spec.Refused error) (id : String) : error ≠ .duplicateId id := by
  cases h <;> simp

theorem register_ofSpec_of_not_wellFormed {η : Type u} {spec : SubscriptionSpec}
    (h : ¬spec.WellFormed) (r : Registry η) (handler : η) :
    ∃ error, spec.Refused error ∧ r.register (.ofSpec spec handler) = .error error := by
  have hanswer := Registry.answer_register r (.ofSpec spec handler)
  generalize r.register (.ofSpec spec handler) = answer at hanswer
  cases hanswer with
  | noTopics hnone => exact ⟨_, .noTopics hnone, rfl⟩
  | invalidTopic front filter back fault hsplit hfront hbad =>
    exact ⟨_, .invalidTopic front filter back fault hsplit hfront hbad, rfl⟩
  | duplicateId old hwell hold => exact absurd hwell h
  | registered hwell hnew => exact absurd hwell h

/-- What an entry asks for: its own topics under its id, and metadata that say which handler it
named and, if it does not, where it came from. -/
structure Describes {η : Type u} (spec : SubscriptionSpec) (handler : η) (s : Subscription η) :
    Prop where
  id : s.id = spec.id
  topics : s.topics = spec.topics
  handler : s.handler = handler
  enabled : s.enabled = spec.enabled
  metadata : ∀ key, s.metadata.get? key =
    if key = "handler" then some (.string spec.handler)
    else (spec.metadata.get? key).or (if key = "source" then some (.string "config") else none)

theorem describes_ofSpec {η : Type u} {spec : SubscriptionSpec} (h : spec.enabled = true)
    (handler : η) : spec.Describes handler (.ofSpec spec handler) where
  id := rfl
  topics := rfl
  handler := rfl
  enabled := h.symm
  metadata key := by
    simp only [Subscription.ofSpec, Subscription.handlerKey, Subscription.sourceKey,
      SortedMap.get?_insert, SortedMap.get?_insertNew, eq_comm (b := key)]

end SubscriptionSpec

namespace Catalog

variable {η : Type u} {catalog : Catalog η}

/-- There is a handler for every entry that is enabled. -/
def Knows (catalog : Catalog η) (specs : List SubscriptionSpec) : Prop :=
  ∀ spec ∈ specs, spec.enabled = true → (catalog.get? spec.handler).isSome = true

instance (catalog : Catalog η) (specs : List SubscriptionSpec) : Decidable (catalog.Knows specs) :=
  inferInstanceAs (Decidable (∀ spec ∈ specs, _))

theorem Knows.of_append {front back : List SubscriptionSpec} (h : catalog.Knows (front ++ back)) :
    catalog.Knows front :=
  fun spec hspec => h spec (List.mem_append_left back hspec)

theorem Knows.tail {spec : SubscriptionSpec} {specs : List SubscriptionSpec}
    (h : catalog.Knows (spec :: specs)) : catalog.Knows specs :=
  fun other hother => h other (List.mem_cons_of_mem spec hother)

def subscriptions (catalog : Catalog η) (specs : List SubscriptionSpec) : List (Subscription η) :=
  specs.filterMap fun spec =>
    if spec.enabled then (catalog.get? spec.handler).map (.ofSpec spec) else none

theorem subscriptions_cons_of_disabled {spec : SubscriptionSpec} (h : spec.enabled = false)
    (specs : List SubscriptionSpec) :
    catalog.subscriptions (spec :: specs) = catalog.subscriptions specs := by
  simp [subscriptions, h]

theorem subscriptions_cons {spec : SubscriptionSpec} {handler : η} (henabled : spec.enabled = true)
    (hhandler : catalog.get? spec.handler = some handler) (specs : List SubscriptionSpec) :
    catalog.subscriptions (spec :: specs) =
      .ofSpec spec handler :: catalog.subscriptions specs := by
  simp [subscriptions, henabled, hhandler]

theorem resolve_append {front : List SubscriptionSpec} (h : catalog.Knows front)
    (back : List SubscriptionSpec) :
    catalog.resolve (front ++ back) =
      (catalog.resolve back).map (catalog.subscriptions front ++ ·) := by
  induction front with
  | nil =>
    cases hback : catalog.resolve back with
    | error error => simp [hback, Except.map]
    | ok more => simp [hback, subscriptions, Except.map]
  | cons spec front ih =>
    cases henabled : spec.enabled with
    | false =>
      rw [List.cons_append, resolve, if_neg (by simp [henabled]), ih h.tail,
        subscriptions_cons_of_disabled henabled]
    | true =>
      obtain ⟨handler, hhandler⟩ :=
        Option.isSome_iff_exists.mp (h spec List.mem_cons_self henabled)
      rw [List.cons_append, resolve, if_pos henabled, hhandler, ih h.tail,
        subscriptions_cons henabled hhandler]
      cases catalog.resolve back <;> rfl

theorem resolve_of_knows {specs : List SubscriptionSpec} (h : catalog.Knows specs) :
    catalog.resolve specs = .ok (catalog.subscriptions specs) := by
  have happend := resolve_append h []
  simpa [resolve, Except.map] using happend

theorem resolve_of_unknown {front back : List SubscriptionSpec} {spec : SubscriptionSpec}
    (hfront : catalog.Knows front) (henabled : spec.enabled = true)
    (hmissing : catalog.get? spec.handler = none) :
    catalog.resolve (front ++ spec :: back) = .error (.unknownHandler spec.id spec.handler) := by
  rw [resolve_append hfront, resolve, if_pos henabled, hmissing]
  rfl

theorem knows_or_unknown (catalog : Catalog η) (specs : List SubscriptionSpec) :
    catalog.Knows specs ∨ ∃ front spec back, specs = front ++ spec :: back ∧
      catalog.Knows front ∧ spec.enabled = true ∧ catalog.get? spec.handler = none := by
  rcases SubscriptionSpec.all_or_first specs
    fun spec => (catalog.get? spec.handler).isSome = true with h | h
  · exact .inl h
  · obtain ⟨front, spec, back, hspecs, hfront, henabled, hmissing⟩ := h
    exact .inr ⟨front, spec, back, hspecs, hfront, henabled, by simpa using hmissing⟩

theorem mem_subscriptions {specs : List SubscriptionSpec} {s : Subscription η} :
    s ∈ catalog.subscriptions specs ↔ ∃ spec ∈ specs, spec.enabled = true ∧
      ∃ handler, catalog.get? spec.handler = some handler ∧ .ofSpec spec handler = s := by
  rw [subscriptions, List.mem_filterMap]
  refine exists_congr fun spec => and_congr_right fun _ => ?_
  cases spec.enabled with
  | false => simp
  | true => simp [Option.map_eq_some_iff]

theorem ids_subscriptions {specs : List SubscriptionSpec} (h : catalog.Knows specs) :
    (catalog.subscriptions specs).map (·.id) = (specs.filter (·.enabled)).map (·.id) := by
  induction specs with
  | nil => rfl
  | cons spec specs ih =>
    cases henabled : spec.enabled with
    | false =>
      rw [subscriptions_cons_of_disabled henabled, ih h.tail,
        List.filter_cons_of_neg (by simp [henabled])]
    | true =>
      obtain ⟨handler, hhandler⟩ :=
        Option.isSome_iff_exists.mp (h spec List.mem_cons_self henabled)
      rw [subscriptions_cons henabled hhandler, List.filter_cons_of_pos henabled, List.map_cons,
        List.map_cons, ih h.tail]
      rfl

theorem subscriptions_append {front back : List SubscriptionSpec} {spec : SubscriptionSpec}
    {handler : η} (henabled : spec.enabled = true)
    (hhandler : catalog.get? spec.handler = some handler) :
    catalog.subscriptions (front ++ spec :: back) =
      catalog.subscriptions front ++ .ofSpec spec handler :: catalog.subscriptions back := by
  rw [← subscriptions_cons henabled hhandler, subscriptions, List.filterMap_append]
  rfl

theorem find?_subscriptions_of_ne {specs : List SubscriptionSpec} {id : String}
    (h : ∀ spec ∈ specs, spec.enabled = true → spec.id ≠ id) :
    (catalog.subscriptions specs).find? (fun t => t.id = id) = none := by
  rw [List.find?_eq_none]
  intro t ht
  obtain ⟨spec, hspec, henabled, handler, -, rfl⟩ := mem_subscriptions.mp ht
  exact fun heq => h spec hspec henabled (of_decide_eq_true heq)

end Catalog

variable {σ : Type u} {η : Type v} {register : σ → Subscription η → Except SubscriptionError σ}
  {registry : σ → Registry η}

/-- Whatever else registering does, the registry alone decides whether a subscription is taken. -/
def Enters (register : σ → Subscription η → Except SubscriptionError σ)
    (registry : σ → Registry η) : Prop :=
  ∀ s t, (register s t).map registry = (registry s).register t

theorem Enters.of_ok (h : Enters register registry) {s : σ} {t : Subscription η}
    {after : Registry η} (hreg : (registry s).register t = .ok after) :
    ∃ s', register s t = .ok s' ∧ registry s' = after := by
  have hmap := h s t
  rw [hreg] at hmap
  cases hs : register s t with
  | error error =>
    rw [hs] at hmap
    cases hmap
  | ok s' =>
    rw [hs] at hmap
    exact ⟨s', rfl, Except.ok.inj hmap⟩

theorem Enters.of_error (h : Enters register registry) {s : σ} {t : Subscription η}
    {error : SubscriptionError} (hreg : (registry s).register t = .error error) :
    register s t = .error error := by
  have hmap := h s t
  rw [hreg] at hmap
  cases hs : register s t with
  | error other =>
    rw [hs] at hmap
    exact congrArg Except.error (Except.error.inj hmap)
  | ok s' =>
    rw [hs] at hmap
    cases hmap

theorem registerAll_cons_ok {s after : σ} {t : Subscription η} (h : register s t = .ok after)
    (rest : List (Subscription η)) :
    registerAll register s (t :: rest) =
      ((registerAll register after rest).1,
        (registerAll register after rest).2.map (t.id :: ·)) := by
  rw [registerAll, h]

theorem registerAll_cons_taken {s : σ} {t : Subscription η} {id : String}
    (h : register s t = .error (.duplicateId id)) (rest : List (Subscription η)) :
    registerAll register s (t :: rest) = registerAll register s rest := by
  rw [registerAll, h]

theorem registerAll_cons_refused {s : σ} {t : Subscription η} {error : SubscriptionError}
    (h : register s t = .error error) (hne : ∀ id, error ≠ .duplicateId id)
    (rest : List (Subscription η)) :
    registerAll register s (t :: rest) = (s, .error error) := by
  rw [registerAll, h]
  cases error with
  | duplicateId id => exact absurd rfl (hne id)
  | noTopics | invalidTopic | unknownHandler => rfl

theorem register_cases (register : σ → Subscription η → Except SubscriptionError σ) (s : σ)
    (t : Subscription η) :
    (∃ after, register s t = .ok after) ∨ (∃ id, register s t = .error (.duplicateId id)) ∨
      ∃ error, register s t = .error error ∧ ∀ id, error ≠ .duplicateId id := by
  cases register s t with
  | ok after => exact .inl ⟨after, rfl⟩
  | error error =>
    cases error with
    | duplicateId id => exact .inr (.inl ⟨id, rfl⟩)
    | noTopics | invalidTopic | unknownHandler => exact .inr (.inr ⟨_, rfl, by simp⟩)

theorem registerAll_append {s after : σ} {front : List (Subscription η)} {ids : List String}
    (h : registerAll register s front = (after, .ok ids)) (back : List (Subscription η)) :
    registerAll register s (front ++ back) =
      ((registerAll register after back).1,
        (registerAll register after back).2.map (ids ++ ·)) := by
  induction front generalizing s ids with
  | nil =>
    obtain ⟨rfl, hids⟩ := Prod.mk.inj h
    obtain rfl := Except.ok.inj hids
    cases hback : registerAll register s back with
    | mk last result => cases result <;> simp [hback, Except.map]
  | cons t front ih =>
    rcases register_cases register s t with
      ⟨middle, hreg⟩ | ⟨id, hreg⟩ | ⟨error, hreg, hrefused⟩
    · rw [registerAll_cons_ok hreg] at h
      obtain ⟨hlast, hids⟩ := Prod.mk.inj h
      cases hfront : (registerAll register middle front).2 with
      | error error =>
        rw [hfront] at hids
        cases hids
      | ok more =>
        rw [hfront] at hids
        obtain rfl := Except.ok.inj hids
        rw [List.cons_append, registerAll_cons_ok hreg, ih (Prod.ext hlast hfront)]
        cases (registerAll register after back).2 <;> rfl
    · rw [registerAll_cons_taken hreg] at h
      rw [List.cons_append, registerAll_cons_taken hreg, ih h]
    · rw [registerAll_cons_refused hreg hrefused] at h
      cases h

namespace Registry

/-- The ids that are free, each where it comes first. -/
def freeIds (r : Registry η) (ids : List String) : List String :=
  (ids.filter fun id => !r.contains id).eraseDups

variable {η : Type v} {r : Registry η}

theorem mem_freeIds {ids : List String} {id : String} :
    id ∈ r.freeIds ids ↔ r.get? id = none ∧ id ∈ ids := by
  rw [freeIds, List.mem_eraseDups, List.mem_filter, contains_eq]
  simp [and_comm]

theorem freeIds_cons_of_some {id : String} {old : Subscription η} (h : r.get? id = some old)
    (ids : List String) : r.freeIds (id :: ids) = r.freeIds ids := by
  have htaken : r.contains id = true := by rw [contains_eq, h]; rfl
  simp [freeIds, htaken]

theorem freeIds_cons_of_none {s : Subscription η} (h : r.get? s.id = none) (ids : List String) :
    r.freeIds (s.id :: ids) = s.id :: (⟨r.byId.insert s.id s⟩ : Registry η).freeIds ids := by
  have hfree : r.contains s.id = false := by rw [contains_eq, h]; rfl
  simp only [freeIds, List.filter_cons, hfree, Bool.not_false, if_true, List.eraseDups_cons,
    List.filter_filter]
  congr 2
  refine List.filter_congr fun id _ => ?_
  rw [contains_eq, contains_eq, get?_insert]
  by_cases hid : s.id = id
  · simp [hid]
  · simp [hid, Ne.symm hid]

end Registry

/-- Well-formed subscriptions go in unless their id is taken, be it by one that went in before. -/
theorem registerAll_of_wellFormed (h : Enters register registry) {list : List (Subscription η)}
    (hwell : ∀ t ∈ list, t.WellFormed) (s : σ) :
    ∃ after, registerAll register s list =
        (after, .ok ((registry s).freeIds (list.map (·.id)))) ∧
      ∀ id, (registry after).get? id =
        ((registry s).get? id).or (list.find? fun t => t.id = id) := by
  induction list generalizing s with
  | nil => exact ⟨s, rfl, fun id => by simp⟩
  | cons t rest ih =>
    have hrest := fun s => ih (fun other hother => hwell other (List.mem_cons_of_mem t hother)) s
    rcases Registry.register_of_wellFormed (registry s) (hwell t List.mem_cons_self) with
      ⟨⟨old, hold⟩, hreg⟩ | ⟨hnew, hreg⟩
    · obtain ⟨after, hafter, hget⟩ := hrest s
      refine ⟨after, ?_, fun id => ?_⟩
      · rw [registerAll_cons_taken (h.of_error hreg), hafter, List.map_cons,
          Registry.freeIds_cons_of_some hold]
      · rw [hget id, List.find?_cons]
        by_cases hid : t.id = id
        · rw [← hid, hold, Option.some_or, Option.some_or]
        · simp [hid]
    · obtain ⟨middle, hmiddle, hregistry⟩ := h.of_ok hreg
      obtain ⟨after, hafter, hget⟩ := hrest middle
      refine ⟨after, ?_, fun id => ?_⟩
      · rw [registerAll_cons_ok hmiddle, hafter, hregistry, List.map_cons,
          Registry.freeIds_cons_of_none hnew]
        rfl
      · rw [hget id, hregistry, Registry.get?_insert, List.find?_cons]
        by_cases hid : t.id = id
        · rw [← hid, hnew]
          simp
        · simp [hid]

theorem registerAll_of_taken (h : Enters register registry) {s : σ} {list : List (Subscription η)}
    (hwell : ∀ t ∈ list, t.WellFormed)
    (htaken : ∀ t ∈ list, ∃ old, (registry s).get? t.id = some old) :
    registerAll register s list = (s, .ok []) := by
  induction list with
  | nil => rfl
  | cons t rest ih =>
    have hrest := ih (fun other hother => hwell other (List.mem_cons_of_mem t hother))
      (fun other hother => htaken other (List.mem_cons_of_mem t hother))
    obtain ⟨old, hold⟩ := htaken t List.mem_cons_self
    rcases Registry.register_of_wellFormed (registry s) (hwell t List.mem_cons_self) with
      ⟨-, hreg⟩ | ⟨hnew, -⟩
    · rw [registerAll_cons_taken (h.of_error hreg), hrest]
    · rw [hold] at hnew
      cases hnew

/-- The ids of the enabled entries that are new to a registry, each where it comes first. -/
def Registry.newIds (r : Registry η) (specs : List SubscriptionSpec) : List String :=
  r.freeIds ((specs.filter (·.enabled)).map (·.id))

theorem Registry.mem_newIds {r : Registry η} {specs : List SubscriptionSpec} {id : String} :
    id ∈ r.newIds specs ↔
      r.get? id = none ∧ ∃ spec ∈ specs, spec.enabled = true ∧ spec.id = id := by
  rw [newIds, mem_freeIds]
  simp [and_assoc]

/-- A registry after the entries of a configuration: to what it was come, for each new id, the
subscription that the first enabled entry with the id describes. -/
structure Merged (catalog : Catalog η) (specs : List SubscriptionSpec) (before after : Registry η) :
    Prop where
  kept : ∀ id, id ∉ before.newIds specs → after.get? id = before.get? id
  added : ∀ id ∈ before.newIds specs, ∃ front spec back handler subscription,
    specs = front ++ spec :: back ∧ spec.enabled = true ∧ spec.id = id ∧
      (∀ earlier ∈ front, earlier.enabled = true → earlier.id ≠ id) ∧
      catalog.get? spec.handler = some handler ∧ after.get? id = some subscription ∧
      spec.Describes handler subscription

variable {catalog : Catalog η} {specs : List SubscriptionSpec}

theorem wellFormed_subscriptions
    (hwell : ∀ spec ∈ specs, spec.enabled = true → spec.WellFormed) (catalog : Catalog η) :
    ∀ t ∈ catalog.subscriptions specs, t.WellFormed := by
  intro t ht
  obtain ⟨spec, hspec, henabled, handler, -, rfl⟩ := Catalog.mem_subscriptions.mp ht
  exact hwell spec hspec henabled

theorem registerSpecs_of_knows (hknows : catalog.Knows specs) (s : σ) :
    registerSpecs register catalog s specs =
      registerAll register s (catalog.subscriptions specs) := by
  rw [registerSpecs, Catalog.resolve_of_knows hknows]

theorem registerSpecs_of_unknown {front back : List SubscriptionSpec} {spec : SubscriptionSpec}
    (hfront : catalog.Knows front) (henabled : spec.enabled = true)
    (hmissing : catalog.get? spec.handler = none) (s : σ) :
    registerSpecs register catalog s (front ++ spec :: back) =
      (s, .error (.unknownHandler spec.id spec.handler)) := by
  rw [registerSpecs, Catalog.resolve_of_unknown hfront henabled hmissing]

theorem registerSpecs_of_wellFormed (h : Enters register registry) (hknows : catalog.Knows specs)
    (hwell : ∀ spec ∈ specs, spec.enabled = true → spec.WellFormed) (s : σ) :
    ∃ after, registerSpecs register catalog s specs = (after, .ok ((registry s).newIds specs)) ∧
      Merged catalog specs (registry s) (registry after) := by
  obtain ⟨after, hafter, hget⟩ :=
    registerAll_of_wellFormed h (wellFormed_subscriptions hwell catalog) s
  rw [Catalog.ids_subscriptions hknows] at hafter
  refine ⟨after, (registerSpecs_of_knows hknows s).trans hafter, ?_, ?_⟩
  · intro id hid
    rw [hget id]
    cases hold : (registry s).get? id with
    | some old => rfl
    | none =>
      rw [Option.none_or]
      refine Catalog.find?_subscriptions_of_ne fun spec hspec henabled heq => hid ?_
      exact Registry.mem_newIds.mpr ⟨hold, spec, hspec, henabled, heq⟩
  · intro id hid
    obtain ⟨hnew, other, hother, hothers⟩ := Registry.mem_newIds.mp hid
    rcases SubscriptionSpec.all_or_first specs (fun spec => spec.id ≠ id) with hne | hfirst
    · exact absurd hothers.2 (hne other hother hothers.1)
    · obtain ⟨front, spec, back, rfl, hfront, henabled, heq⟩ := hfirst
      have hid : spec.id = id := Classical.not_not.mp heq
      obtain ⟨handler, hhandler⟩ :=
        Option.isSome_iff_exists.mp (hknows spec (by simp) henabled)
      refine ⟨front, spec, back, handler, .ofSpec spec handler, rfl, henabled, hid, hfront,
        hhandler, ?_, SubscriptionSpec.describes_ofSpec henabled handler⟩
      have hhead : decide ((Subscription.ofSpec spec handler).id = id) = true :=
        decide_eq_true hid
      rw [hget id, hnew, Option.none_or, Catalog.subscriptions_append henabled hhandler,
        List.find?_append, Catalog.find?_subscriptions_of_ne hfront, Option.none_or,
        List.find?_cons, hhead]

theorem registerSpecs_of_refused (h : Enters register registry) {front back : List SubscriptionSpec}
    {spec : SubscriptionSpec} (hknows : catalog.Knows (front ++ spec :: back))
    (hfront : ∀ earlier ∈ front, earlier.enabled = true → earlier.WellFormed)
    (henabled : spec.enabled = true) (hspec : ¬spec.WellFormed) (s : σ) :
    ∃ error after, spec.Refused error ∧
      registerSpecs register catalog s front = (after, .ok ((registry s).newIds front)) ∧
      Merged catalog front (registry s) (registry after) ∧
      registerSpecs register catalog s (front ++ spec :: back) = (after, .error error) := by
  obtain ⟨handler, hhandler⟩ := Option.isSome_iff_exists.mp (hknows spec (by simp) henabled)
  obtain ⟨after, hafter, hmerged⟩ := registerSpecs_of_wellFormed h hknows.of_append hfront s
  obtain ⟨error, hrefused, hregister⟩ :=
    SubscriptionSpec.register_ofSpec_of_not_wellFormed hspec (registry after) handler
  refine ⟨error, after, hrefused, hafter, hmerged, ?_⟩
  rw [registerSpecs_of_knows hknows.of_append] at hafter
  rw [registerSpecs_of_knows hknows, Catalog.subscriptions_append henabled hhandler,
    registerAll_append hafter,
    registerAll_cons_refused (h.of_error hregister) hrefused.ne_duplicateId]
  rfl

theorem registerSpecs_of_taken (h : Enters register registry) (hknows : catalog.Knows specs)
    (hwell : ∀ spec ∈ specs, spec.enabled = true → spec.WellFormed) {s : σ}
    (htaken : ∀ spec ∈ specs, spec.enabled = true → (registry s).contains spec.id = true) :
    registerSpecs register catalog s specs = (s, .ok []) := by
  rw [registerSpecs_of_knows hknows]
  refine registerAll_of_taken h (wellFormed_subscriptions hwell catalog) fun t ht => ?_
  obtain ⟨spec, hspec, henabled, handler, -, rfl⟩ := Catalog.mem_subscriptions.mp ht
  exact Option.isSome_iff_exists.mp (htaken spec hspec henabled)

theorem Merged.contains_of_eq {before after : Registry η} (h : Merged catalog specs before after)
    (heq : after = before) {spec : SubscriptionSpec} (hspec : spec ∈ specs)
    (henabled : spec.enabled = true) : before.contains spec.id = true := by
  cases hold : before.get? spec.id with
  | some old => rw [Registry.contains_eq, hold]; rfl
  | none =>
    have hnew : spec.id ∈ before.newIds specs :=
      Registry.mem_newIds.mpr ⟨hold, spec, hspec, henabled, rfl⟩
    obtain ⟨_, _, _, _, subscription, -, -, -, -, -, hget, -⟩ := h.added spec.id hnew
    rw [heq, hold] at hget
    cases hget

/-- What comes of entries whose topics are all well formed. Nothing is registered if a handler is
missing, and the first that is missing is the error; else all that is new is registered. -/
inductive Merges (registry : σ → Registry η) (catalog : Catalog η) (specs : List SubscriptionSpec)
    (s : σ) : σ × Except SubscriptionError (List String) → Prop where
  | unknownHandler (front : List SubscriptionSpec) (spec : SubscriptionSpec)
      (back : List SubscriptionSpec) (hspecs : specs = front ++ spec :: back)
      (hfront : catalog.Knows front) (henabled : spec.enabled = true)
      (hmissing : catalog.get? spec.handler = none) :
    Merges registry catalog specs s (s, .error (.unknownHandler spec.id spec.handler))
  | registered (after : σ) (hknows : catalog.Knows specs)
      (hmerged : Merged catalog specs (registry s) (registry after)) :
    Merges registry catalog specs s (after, .ok ((registry s).newIds specs))

theorem merges_registerSpecs (h : Enters register registry)
    (hwell : ∀ spec ∈ specs, spec.enabled = true → spec.WellFormed) (catalog : Catalog η) (s : σ) :
    Merges registry catalog specs s (registerSpecs register catalog s specs) := by
  rcases catalog.knows_or_unknown specs with hknows | hunknown
  · obtain ⟨after, hafter, hmerged⟩ := registerSpecs_of_wellFormed h hknows hwell s
    rw [hafter]
    exact .registered after hknows hmerged
  · obtain ⟨front, spec, back, rfl, hfront, henabled, hmissing⟩ := hunknown
    rw [registerSpecs_of_unknown hfront henabled hmissing]
    exact .unknownHandler front spec back rfl hfront henabled hmissing

/-- What an error leaves behind. A missing handler leaves everything as it was. Refused topics
leave what registering only the entries before them comes to, and that is a change unless the ids of
all these were taken. -/
inductive Aborted (register : σ → Subscription η → Except SubscriptionError σ)
    (registry : σ → Registry η) (catalog : Catalog η) (specs : List SubscriptionSpec) (s : σ) :
    σ → SubscriptionError → Prop where
  | unknownHandler (front : List SubscriptionSpec) (spec : SubscriptionSpec)
      (back : List SubscriptionSpec) (hspecs : specs = front ++ spec :: back)
      (hfront : catalog.Knows front) (henabled : spec.enabled = true)
      (hmissing : catalog.get? spec.handler = none) :
    Aborted register registry catalog specs s s (.unknownHandler spec.id spec.handler)
  | refused (front : List SubscriptionSpec) (spec : SubscriptionSpec)
      (back : List SubscriptionSpec) (after : σ) (error : SubscriptionError)
      (hspecs : specs = front ++ spec :: back) (hknows : catalog.Knows specs)
      (hfront : ∀ earlier ∈ front, earlier.enabled = true → earlier.WellFormed)
      (henabled : spec.enabled = true) (hrefused : spec.Refused error)
      (hafter : registerSpecs register catalog s front = (after, .ok ((registry s).newIds front)))
      (hmerged : Merged catalog front (registry s) (registry after))
      (hsame : registry after = registry s ↔
        ∀ earlier ∈ front, earlier.enabled = true → (registry s).contains earlier.id = true)
      (huntouched : registry after = registry s → after = s) :
    Aborted register registry catalog specs s after error

theorem aborted_of_error (h : Enters register registry) {s after : σ} {error : SubscriptionError}
    (herror : registerSpecs register catalog s specs = (after, .error error)) :
    Aborted register registry catalog specs s after error := by
  rcases catalog.knows_or_unknown specs with hknows | hunknown
  · rcases SubscriptionSpec.all_or_first specs SubscriptionSpec.WellFormed with hwell | hfirst
    · obtain ⟨last, hlast, -⟩ := registerSpecs_of_wellFormed h hknows hwell s
      rw [hlast] at herror
      cases herror
    · obtain ⟨front, spec, back, rfl, hfront, henabled, hspec⟩ := hfirst
      obtain ⟨reason, last, hrefused, hlast, hmerged, hresult⟩ :=
        registerSpecs_of_refused h hknows hfront henabled hspec s
      rw [hresult] at herror
      cases herror
      have huntouched (htaken : ∀ earlier ∈ front, earlier.enabled = true →
          (registry s).contains earlier.id = true) : after = s := by
        rw [registerSpecs_of_taken h hknows.of_append hfront htaken] at hlast
        exact (Prod.mk.inj hlast).1.symm
      refine .refused front spec back after error rfl hknows hfront henabled hrefused hlast hmerged
        ⟨fun hsame _ => hmerged.contains_of_eq hsame, fun htaken => ?_⟩
        fun hsame => huntouched fun _ => hmerged.contains_of_eq hsame
      rw [huntouched htaken]
  · obtain ⟨front, spec, back, rfl, hfront, henabled, hmissing⟩ := hunknown
    rw [registerSpecs_of_unknown hfront henabled hmissing] at herror
    cases herror
    exact .unknownHandler front spec back rfl hfront henabled hmissing

/-- The topics alone decide whether it succeeds, and the first that are refused are the error. -/
structure Decided (register : σ → Subscription η → Except SubscriptionError σ)
    (catalog : Catalog η) (specs : List SubscriptionSpec) (s : σ) : Prop where
  accepted : (∃ after ids, registerSpecs register catalog s specs = (after, .ok ids)) ↔
    ∀ spec ∈ specs, spec.enabled = true → spec.WellFormed
  first : ∀ front spec back, specs = front ++ spec :: back →
    (∀ earlier ∈ front, earlier.enabled = true → earlier.WellFormed) → spec.enabled = true →
    ¬spec.WellFormed →
      ∃ error after, spec.Refused error ∧
        registerSpecs register catalog s specs = (after, .error error)

theorem decided_registerSpecs (h : Enters register registry) (hknows : catalog.Knows specs)
    (s : σ) : Decided register catalog specs s := by
  have hfirst : ∀ front spec back, specs = front ++ spec :: back →
      (∀ earlier ∈ front, earlier.enabled = true → earlier.WellFormed) → spec.enabled = true →
      ¬spec.WellFormed →
        ∃ error after, spec.Refused error ∧
          registerSpecs register catalog s specs = (after, .error error) := by
    rintro front spec back rfl hfront henabled hspec
    obtain ⟨error, after, hrefused, -, -, hresult⟩ :=
      registerSpecs_of_refused h hknows hfront henabled hspec s
    exact ⟨error, after, hrefused, hresult⟩
  refine ⟨⟨?_, fun hwell => ?_⟩, hfirst⟩
  · rintro ⟨last, ids, hok⟩
    rcases SubscriptionSpec.all_or_first specs SubscriptionSpec.WellFormed with hwell | hbad
    · exact hwell
    · obtain ⟨front, spec, back, hspecs, hfront, henabled, hspec⟩ := hbad
      obtain ⟨error, after, -, hresult⟩ := hfirst front spec back hspecs hfront henabled hspec
      rw [hok] at hresult
      cases hresult
  · obtain ⟨after, hafter, -⟩ := registerSpecs_of_wellFormed h hknows hwell s
    exact ⟨after, _, hafter⟩

end EventBus
