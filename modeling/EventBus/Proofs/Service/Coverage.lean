import EventBus.Proofs.Service.Run

namespace EventBus.Service

variable {η : Type u}

/-- While the service runs, no enabled subscription waits for events that nobody asks for. -/
def Covered (s : Service η) : Prop :=
  s.running = true → ∀ subscription ∈ s.registry.enabled, ∀ filter ∈ subscription.topics,
    filter ∈ s.watched

/-- While the service runs, all that the subscription with this id wants is watched. -/
def Hears (s : Service η) (id : String) : Prop :=
  s.running = true → ∀ subscription, s.registry.get? id = some subscription →
    ∀ filter ∈ subscription.topics, filter ∈ s.watched

theorem Covered.of_subset {s : Service η} {registry : Registry η} (h : s.Covered)
    (hsub : ∀ subscription ∈ registry.enabled, subscription ∈ s.registry.enabled) :
    Covered { s with registry } :=
  fun hr subscription hs => h hr subscription (hsub subscription hs)

theorem covered_start {s : Service η} (ha : s.Attached) (h : s.Covered) : s.start.Covered := by
  by_cases hr : s.running = true
  · rwa [start, if_pos hr]
  · obtain ⟨broker, hb⟩ := Option.isSome_iff_exists.mp ha.broker
    obtain ⟨subscriber, htopics, -, -, hs⟩ := start_of_stopped (by simpa using hr) hb
    rw [hs]
    intro _ subscription hmem filter hf
    have hwatched : filter ∈ subscriber.topics := by
      rw [htopics]
      exact Registry.mem_topics.mpr ⟨subscription, hmem, hf⟩
    exact hwatched

theorem covered_announce {s : Service η} {registry : Registry η} {subscription : Subscription η}
    (ha : s.Attached) (h : s.Covered) (hreg : s.registry.register subscription = .ok registry) :
    ({ s with registry }.announce subscription).Covered := by
  rw [announce_cases]
  split
  · next hboth =>
    obtain ⟨hr, -⟩ := hboth
    have hlive : ({ s with registry } : Service η).subscriber.isSome = true := ha.live.trans hr
    intro _ other hmem filter hf
    rw [watched_watch hlive, Subscriber.mem_watchAlso]
    obtain ⟨hall, henabled⟩ := Registry.mem_enabled.mp hmem
    rcases Registry.mem_all_of_register hreg hall with rfl | hold
    · exact .inr hf
    · exact .inl (h hr other (Registry.mem_enabled.mpr ⟨hold, henabled⟩) filter hf)
  · next hboth =>
    intro hr other hmem filter hf
    obtain ⟨hall, henabled⟩ := Registry.mem_enabled.mp hmem
    rcases Registry.mem_all_of_register hreg hall with rfl | hold
    · exact absurd ⟨hr, henabled⟩ hboth
    · exact h hr other (Registry.mem_enabled.mpr ⟨hold, henabled⟩) filter hf

theorem covered_afterRegister {s : Service η} (ha : s.Attached) (h : s.Covered)
    (subscription : Subscription η) : (s.afterRegister subscription).Covered := by
  rcases s.afterRegister_cases subscription with hs | ⟨registry, hreg, hs⟩
  · rwa [hs]
  · rw [hs]
    exact covered_announce ha h hreg

theorem covered_disable {s : Service η} (h : s.Covered) (id : String) :
    (s.setEnabled id false).Covered := by
  refine h.of_subset fun subscription hmem => ?_
  obtain ⟨hall, henabled⟩ := Registry.mem_enabled.mp hmem
  rcases Registry.mem_all_of_setEnabled hall with hold | ⟨old, -, rfl⟩
  · exact Registry.mem_enabled.mpr ⟨hold, henabled⟩
  · simp at henabled

theorem covered_enable_iff {s : Service η} (h : s.Covered) (id : String) :
    (s.setEnabled id true).Covered ↔ s.Hears id := by
  constructor
  · intro hcovered hr subscription hget filter hf
    have hmem : { subscription with enabled := true } ∈ (s.setEnabled id true).registry.enabled :=
      Registry.mem_enabled.mpr ⟨Registry.mem_all_of_get? (Registry.get?_setEnabled hget), rfl⟩
    exact hcovered hr _ hmem filter hf
  · intro hhears hr subscription hmem filter hf
    obtain ⟨hall, henabled⟩ := Registry.mem_enabled.mp hmem
    rcases Registry.mem_all_of_setEnabled hall with hold | ⟨old, hget, rfl⟩
    · exact h hr subscription (Registry.mem_enabled.mpr ⟨hold, henabled⟩) filter hf
    · exact hhears hr old hget filter hf

theorem Covered.apply {s : Service η} (ha : s.Attached) (h : s.Covered) (op : Op η)
    (henable : ∀ id, op = .enable id → s.Hears id) : (op.apply s).Covered := by
  cases op with
  | start => exact covered_start ha h
  | stop =>
    simp only [Op.apply, stop]
    split
    · intro hr
      cases hr
    · exact h
  | register subscription => exact covered_afterRegister ha h subscription
  | subscribe id topics handler => exact covered_afterRegister ha h { id, topics, handler }
  | unsubscribe id =>
    refine h.of_subset fun subscription hmem => ?_
    obtain ⟨hall, henabled⟩ := Registry.mem_enabled.mp hmem
    exact Registry.mem_enabled.mpr ⟨Registry.mem_all_of_unregister hall, henabled⟩
  | enable id => exact (covered_enable_iff h id).mpr (henable id rfl)
  | disable id => exact covered_disable h id
  | listen move =>
    intro hr subscription hmem filter hf
    rw [watched_listen]
    exact h hr subscription hmem filter hf

theorem Covered.run {s : Service η} (ha : s.Attached) (h : s.Covered) {ops : List (Op η)}
    (henable : ∀ front id back, ops = front ++ .enable id :: back → (s.run front).Hears id) :
    (s.run ops).Covered := by
  induction ops generalizing s with
  | nil => exact h
  | cons op ops ih =>
    have hop : (op.apply s).Covered :=
      h.apply ha op fun id hid => henable [] id ops (by rw [hid]; rfl)
    exact ih (ha.apply op) hop fun front id back hops =>
      henable (op :: front) id back (by rw [hops]; rfl)

/-- In a run of a service with a broker, every state is covered exactly if everything that is
enabled on the way is watched by then. -/
theorem covered_throughout_iff (settings : ServiceSettings) (broker : BrokerSettings)
    (declarations : List (Subscription η)) (ops : List (Op η)) :
    (∀ front back, ops = front ++ back →
        ((new settings (some broker) declarations).run front).Covered) ↔
      ∀ front id back, ops = front ++ .enable id :: back →
        ((new settings (some broker) declarations).run front).Hears id := by
  have hcovered : (new settings (some broker) declarations).Covered := fun hr => by cases hr
  constructor
  · intro h front id back hops
    have hbefore := h front (.enable id :: back) hops
    have hafter := h (front ++ [.enable id]) back (by simp [hops])
    rw [run_append] at hafter
    exact (covered_enable_iff hbefore id).mp hafter
  · intro h front back hops
    refine hcovered.run attached_new fun more id rest hmore => ?_
    exact h more id (rest ++ back) (by simp [hops, hmore])

/-- The only subscription of a service that runs is enabled, and nothing is watched for it. -/
theorem not_covered_after_enable :
    ¬((new .standard (some (.standard "a")) []).run
      [.register { id := "s", topics := ["a/#"], handler := (), enabled := false }, .start,
        .enable "s"]).Covered := by
  intro h
  have hwatched := h rfl { id := "s", topics := ["a/#"], handler := () } List.mem_cons_self "a/#"
    List.mem_cons_self
  have hnone : ((new .standard (some (.standard "a")) []).run
      [.register { id := "s", topics := ["a/#"], handler := (), enabled := false }, .start,
        .enable "s"]).watched = [] := by rfl
  rw [hnone] at hwatched
  cases hwatched

end EventBus.Service
