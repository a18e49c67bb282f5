import EventBus.Proofs.Service.Run
import EventBus.Proofs.Subscription.Declaration
import EventBus.Service.Null

namespace EventBus

theorem Config.validate_of_ids (config : Config) {specs : List SubscriptionSpec}
    (h : specs.map (·.id) = config.subscriptions.map (·.id)) :
    { config with subscriptions := specs }.validate = config.validate := by
  have hblank (specs : List SubscriptionSpec) :
      (specs.any fun spec => Text.allBlank spec.id) = (specs.map (·.id)).any Text.allBlank := by
    rw [List.any_map]
    rfl
  simp only [validate, hblank, h]

namespace Service

variable {η : Type u} {s middle after : Service η}

theorem announce_registry (s : Service η) (t : Subscription η) :
    (s.announce t).registry = s.registry := by
  rw [announce_cases]
  split <;> rfl

theorem enters_register : Enters (register : Service η → _) registry := by
  intro s t
  rw [register]
  cases s.registry.register t with
  | error error => rfl
  | ok registry => exact congrArg Except.ok (announce_registry _ t)

theorem Null.enters_register : Enters (register : Null η → _) fun n => n.inner.registry := by
  intro n t
  rw [register, ← Service.enters_register n.inner t]
  cases n.inner.register t <;> rfl

/-- A service to which subscriptions came, and nothing else happened. While it runs, their topics
are all that its subscriber watches besides. -/
structure Extended (before after : Service η) : Prop where
  rest : { after with registry := before.registry, subscriber := before.subscriber } = before
  live : after.subscriber.isSome = before.subscriber.isSome
  kept : ∀ id t, before.registry.get? id = some t → after.registry.get? id = some t
  idle : before.running = false → after.subscriber = before.subscriber
  watched : before.running = true → before.subscriber.isSome = true → ∀ filter,
    filter ∈ after.watched ↔ filter ∈ before.watched ∨
      ∃ id new, before.registry.get? id = none ∧ after.registry.get? id = some new ∧
        filter ∈ new.topics

theorem Extended.running (h : Extended s after) : after.running = s.running := by
  have hrunning := congrArg Service.running h.rest
  exact hrunning

theorem Extended.refl (s : Service η) : Extended s s where
  rest := rfl
  live := rfl
  kept _ _ h := h
  idle _ := rfl
  watched _ _ filter := by
    refine ⟨.inl, ?_⟩
    rintro (h | ⟨id, new, hnone, hsome, -⟩)
    · exact h
    · rw [hnone] at hsome
      cases hsome

theorem Extended.trans (h : Extended s middle) (hmore : Extended middle after) :
    Extended s after where
  rest := by
    have hrest := congrArg
      (fun m : Service η => { m with registry := s.registry, subscriber := s.subscriber }) hmore.rest
    exact hrest.trans h.rest
  live := hmore.live.trans h.live
  kept id t ht := hmore.kept id t (h.kept id t ht)
  idle hr := (hmore.idle (h.running.trans hr)).trans (h.idle hr)
  watched hr hlive filter := by
    rw [hmore.watched (h.running.trans hr) (h.live.trans hlive), h.watched hr hlive]
    constructor
    · rintro ((hf | ⟨id, new, hnone, hnew, hf⟩) | ⟨id, new, hnone, hnew, hf⟩)
      · exact .inl hf
      · exact .inr ⟨id, new, hnone, hmore.kept id new hnew, hf⟩
      · refine .inr ⟨id, new, ?_, hnew, hf⟩
        cases hold : s.registry.get? id with
        | none => rfl
        | some old =>
          rw [h.kept id old hold] at hnone
          cases hnone
    · rintro (hf | ⟨id, new, hnone, hnew, hf⟩)
      · exact .inl (.inl hf)
      · cases hmiddle : middle.registry.get? id with
        | none => exact .inr ⟨id, new, hmiddle, hnew, hf⟩
        | some other =>
          rw [hmore.kept id other hmiddle] at hnew
          obtain rfl := Option.some.inj hnew
          exact .inl (.inr ⟨id, other, hnone, hmiddle, hf⟩)

theorem extended_register {t : Subscription η} (henabled : t.enabled = true)
    (h : s.register t = .ok after) : Extended s after := by
  rw [register] at h
  cases hreg : s.registry.register t with
  | error error =>
    rw [hreg] at h
    cases h
  | ok registry =>
    rw [hreg] at h
    obtain rfl := Except.ok.inj h
    have hnew := Registry.get?_of_register hreg
    have hget := Registry.get?_of_register_ok hreg
    have hkept : ∀ id old, s.registry.get? id = some old → registry.get? id = some old := by
      intro id old hold
      have hne : t.id ≠ id := by
        rintro rfl
        rw [hnew] at hold
        cases hold
      rw [hget id, if_neg hne, hold]
    rw [announce_cases]
    by_cases hr : s.running = true
    · rw [if_pos ⟨hr, henabled⟩]
      refine ⟨rfl, Option.isSome_map, hkept, fun hidle => ?_, fun _ hlive filter => ?_⟩
      · rw [hr] at hidle
        cases hidle
      · have hwatched := watched_watch (s := { s with registry }) hlive t.topics
        rw [hwatched, Subscriber.mem_watchAlso]
        refine or_congr_right ⟨fun hf => ⟨t.id, t, hnew, ?_, hf⟩, ?_⟩
        · exact (hget t.id).trans (if_pos rfl)
        · rintro ⟨id, new, hnone, hsome, hf⟩
          have hsome : registry.get? id = some new := hsome
          rw [hget id, hnone] at hsome
          split at hsome
          · obtain rfl := Option.some.inj hsome
            exact hf
          · cases hsome
    · rw [if_neg fun hboth => hr hboth.1]
      exact ⟨rfl, rfl, hkept, fun _ => rfl, fun hrunning => absurd hrunning hr⟩

theorem extended_registerAll {list : List (Subscription η)} (h : ∀ t ∈ list, t.enabled = true)
    (s : Service η) : Extended s (registerAll register s list).1 := by
  induction list generalizing s with
  | nil => exact .refl s
  | cons t rest ih =>
    have hrest := ih fun other hother => h other (List.mem_cons_of_mem t hother)
    rcases register_cases register s t with
      ⟨middle, hreg⟩ | ⟨id, hreg⟩ | ⟨error, hreg, hrefused⟩
    · rw [registerAll_cons_ok hreg]
      exact (extended_register (h t List.mem_cons_self) hreg).trans (hrest middle)
    · rw [registerAll_cons_taken hreg]
      exact hrest s
    · rw [registerAll_cons_refused hreg hrefused]
      exact .refl s

theorem extended_registerSpecs (catalog : Catalog η) (specs : List SubscriptionSpec)
    (s : Service η) : Extended s (registerSpecs register catalog s specs).1 := by
  rcases catalog.knows_or_unknown specs with hknows | hunknown
  · rw [registerSpecs_of_knows hknows]
    refine extended_registerAll (fun t ht => ?_) s
    obtain ⟨spec, -, -, handler, -, rfl⟩ := Catalog.mem_subscriptions.mp ht
    rfl
  · obtain ⟨front, spec, back, rfl, hfront, henabled, hmissing⟩ := hunknown
    rw [registerSpecs_of_unknown hfront henabled hmissing]
    exact .refl s

/-- Entries whose topics are all well formed are merged into what is registered, and the first of
each id wins. Nothing is registered if a handler is missing. -/
theorem registerSpecs_merges {specs : List SubscriptionSpec}
    (hwell : ∀ spec ∈ specs, spec.enabled = true → spec.WellFormed) (catalog : Catalog η) :
    (∀ s : Service η, Merges registry catalog specs s (registerSpecs register catalog s specs)) ∧
      ∀ n : Null η, Merges (fun n => n.inner.registry) catalog specs n
        (registerSpecs Null.register catalog n specs) :=
  ⟨merges_registerSpecs enters_register hwell catalog,
    merges_registerSpecs Null.enters_register hwell catalog⟩

/-- An id that is there and one that comes twice, and an entry that is not enabled. -/
theorem registerSpecs_merges_mixed :
    let specs : List SubscriptionSpec :=
      [⟨"off", [], "none", false, .empty⟩, ⟨"a", ["x"], "log", true, .empty⟩,
        ⟨"old", ["y"], "log", true, .empty⟩, ⟨"a", ["z/#"], "log", true, .empty⟩,
        ⟨"b", ["y"], "log", true, .empty⟩]
    let catalog : Catalog Nat := SortedMap.empty.insert "log" 1
    let s : Service Nat := localOnly.afterRegister { id := "old", topics := ["+"], handler := 0 }
    (∀ spec ∈ specs, spec.enabled = true → spec.WellFormed) ∧
      Merges registry catalog specs s (registerSpecs register catalog s specs) ∧
      (registerSpecs register catalog s specs).2 = .ok ["a", "b"] := by
  intro specs catalog s
  have hwell : ∀ spec ∈ specs, spec.enabled = true → spec.WellFormed := by decide
  exact ⟨hwell, (registerSpecs_merges hwell catalog).1 s, by rfl⟩

/-- An error leaves a service as the entries before the one that is refused make it, and as it was
if what is missing is a handler. A subscriber watches what came, and nothing else changes. -/
theorem registerSpecs_aborted (catalog : Catalog η) (specs : List SubscriptionSpec)
    (error : SubscriptionError) :
    (∀ s after : Service η, registerSpecs register catalog s specs = (after, .error error) →
      Aborted register registry catalog specs s after error ∧ Extended s after) ∧
      ∀ n after : Null η, registerSpecs Null.register catalog n specs = (after, .error error) →
        Aborted Null.register (fun n => n.inner.registry) catalog specs n after error := by
  refine ⟨fun s after herror => ⟨aborted_of_error enters_register herror, ?_⟩,
    fun n after herror => aborted_of_error Null.enters_register herror⟩
  have hextended := extended_registerSpecs catalog specs s
  rwa [herror] at hextended

/-- The second entry is refused when the first was registered and is watched. -/
theorem registerSpecs_aborted_second :
    let specs : List SubscriptionSpec :=
      [⟨"a", ["x"], "log", true, .empty⟩, ⟨"b", ["a/#/b"], "log", true, .empty⟩]
    let catalog : Catalog Nat := SortedMap.empty.insert "log" 1
    let s : Service Nat := (new .standard (some (.standard "c")) []).start
    let error : SubscriptionError := .invalidTopic "b" "a/#/b" .multiLevelNotLast
    ∃ after, registerSpecs register catalog s specs = (after, .error error) ∧
      Aborted register registry catalog specs s after error ∧ Extended s after := by
  intro specs catalog s error
  have hresult : registerSpecs register catalog s specs =
      ((registerSpecs register catalog s specs).1, .error error) := by rfl
  exact ⟨_, hresult, (registerSpecs_aborted catalog specs error).1 s _ hresult⟩

/-- The first entry stays when the second is refused. -/
theorem registerSpecs_not_atomic :
    let specs : List SubscriptionSpec :=
      [⟨"a", ["x"], "log", true, .empty⟩, ⟨"b", ["a/#/b"], "log", true, .empty⟩]
    let catalog : Catalog Nat := SortedMap.empty.insert "log" 1
    let s : Service Nat := (new .standard (some (.standard "c")) []).start
    let after := (registerSpecs register catalog s specs).1
    (registerSpecs register catalog s specs).2 =
        .error (.invalidTopic "b" "a/#/b" .multiLevelNotLast) ∧
      s.registry.topics = [] ∧ after.registry.topics = ["x"] ∧
      s.watched = [] ∧ after.watched = ["x"] := by
  exact ⟨by rfl, by rfl, by rfl, by rfl, by rfl⟩

/-- The checks of a configuration do not look at topics, and with a handler for every entry nothing
but the topics decides whether a service takes them all. -/
theorem registerSpecs_decided (config : Config) {catalog : Catalog η}
    (hknows : catalog.Knows config.subscriptions) :
    (∀ specs : List SubscriptionSpec, specs.map (·.id) = config.subscriptions.map (·.id) →
      { config with subscriptions := specs }.validate = config.validate) ∧
      (∀ s : Service η, Decided register catalog config.subscriptions s) ∧
      ∀ n : Null η, Decided Null.register catalog config.subscriptions n :=
  ⟨fun _ => config.validate_of_ids, decided_registerSpecs enters_register hknows,
    decided_registerSpecs Null.enters_register hknows⟩

theorem registerSpecs_decided_log :
    let config : Config := ⟨none, .standard, [⟨"a", ["x"], "log", true, .empty⟩]⟩
    let catalog : Catalog Nat := SortedMap.empty.insert "log" 1
    let s : Service Nat := new config.service config.broker []
    catalog.Knows config.subscriptions ∧ Decided register catalog config.subscriptions s ∧
      ∃ after, registerSpecs register catalog s config.subscriptions = (after, .ok ["a"]) := by
  intro config catalog s
  have hknows : catalog.Knows config.subscriptions := by decide
  exact ⟨hknows, (registerSpecs_decided config hknows).2.1 s, _, by rfl⟩

/-- A configuration that passes its checks, and whose only entry has no topics. -/
theorem registerSpecs_refused_of_valid :
    let config : Config := ⟨none, .standard, [⟨"a", [], "log", true, .empty⟩]⟩
    let catalog : Catalog Nat := SortedMap.empty.insert "log" 1
    let s : Service Nat := new config.service config.broker []
    config.validate = .ok () ∧ catalog.Knows config.subscriptions ∧
      (registerSpecs register catalog s config.subscriptions).2 = .error (.noTopics "a") := by
  exact ⟨by rfl, by decide, by rfl⟩

end Service
end EventBus
