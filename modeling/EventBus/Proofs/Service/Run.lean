import EventBus.Proofs.Subscriber.Listener
import EventBus.Proofs.Subscriber.Topics
import EventBus.Proofs.Subscription.Registry

namespace EventBus.Service

variable {η : Type u}

/-- What may happen to a service with a broker. -/
inductive Op (η : Type u) where
  | start
  | stop
  | register (subscription : Subscription η)
  /-- The id is a generated one. -/
  | subscribe (id : String) (topics : List String) (handler : η)
  | unsubscribe (id : String)
  | enable (id : String)
  | disable (id : String)
  | listen (move : Subscriber.Move)

/-- A subscription that is refused leaves the service as it was. -/
def afterRegister (s : Service η) (subscription : Subscription η) : Service η :=
  match s.register subscription with
  | .ok s => s
  | .error _ => s

def Op.apply (s : Service η) : Op η → Service η
  | .start => s.start
  | .stop => s.stop
  | .register subscription => s.afterRegister subscription
  | .subscribe id topics handler => s.afterRegister { id, topics, handler }
  | .unsubscribe id => s.unsubscribe id
  | .enable id => s.setEnabled id true
  | .disable id => s.setEnabled id false
  | .listen move =>
    { s with subscriber := s.subscriber.map fun subscriber => move.apply subscriber }

def run (s : Service η) (ops : List (Op η)) : Service η := ops.foldl Op.apply s

def watched (s : Service η) : List String := s.subscriber.elim [] (·.topics)

/-- A service with a broker, and with a subscriber for as long as it runs. -/
structure Attached (s : Service η) : Prop where
  broker : s.broker.isSome = true
  live : s.subscriber.isSome = s.running

theorem attached_new {settings : ServiceSettings} {broker : BrokerSettings}
    {declarations : List (Subscription η)} : Attached (new settings (some broker) declarations) :=
  ⟨rfl, rfl⟩

theorem afterRegister_cases (s : Service η) (subscription : Subscription η) :
    s.afterRegister subscription = s ∨ ∃ registry, s.registry.register subscription = .ok registry ∧
      s.afterRegister subscription = { s with registry }.announce subscription := by
  unfold afterRegister register
  cases h : s.registry.register subscription with
  | error error => exact .inl rfl
  | ok registry => exact .inr ⟨registry, rfl, rfl⟩

theorem announce_cases (s : Service η) (subscription : Subscription η) :
    s.announce subscription =
      if s.running = true ∧ subscription.enabled = true then s.watch subscription.topics
      else s := by
  simp only [announce, Bool.and_eq_true]

/-- A start covers all that is registered by then, the declared ones included. That it tells its
subscriber of the topics once more is no change. -/
theorem start_of_stopped {s : Service η} {broker : BrokerSettings} (h : s.running = false)
    (hb : s.broker = some broker) : ∃ subscriber : Subscriber,
      subscriber.topics = s.materialize.registry.topics ∧ subscriber.running = true ∧
      subscriber.reconnectRequested = false ∧
      s.start = { s.materialize with subscriber := some subscriber, running := true } := by
  let subscriber := ({ settings := broker, qos := s.settings.qos } : Subscriber).start
    s.materialize.registry.topics
  have hlaunched : s.materialize.subscriberOn s.materialize.registry.topics = some subscriber := by
    have hbroker : s.materialize.broker = some broker := hb
    rw [subscriberOn, hbroker]
    rfl
  have hsame : subscriber.addTopics s.materialize.registry.topics = subscriber :=
    Subscriber.addTopics_of_subset fun _ hf => hf
  refine ⟨subscriber, rfl, rfl, rfl, ?_⟩
  rw [start, if_neg (by simp [h])]
  simp only [hlaunched, watch, Option.map_some, hsame]

theorem watched_watch {s : Service η} (h : s.subscriber.isSome = true) (more : List String) :
    (s.watch more).watched = Subscriber.watchAlso s.watched more := by
  obtain ⟨subscriber, hs⟩ := Option.isSome_iff_exists.mp h
  simp [watched, watch, hs, Subscriber.addTopics_topics]

theorem watched_listen (s : Service η) (move : Subscriber.Move) :
    ((Op.listen move).apply s).watched = s.watched := by
  cases h : s.subscriber with
  | none => simp [Op.apply, watched, h]
  | some subscriber =>
    simp [Op.apply, watched, h, (Subscriber.moved_apply subscriber move).topics]

theorem Attached.watch {s : Service η} (h : s.Attached) (more : List String) :
    (s.watch more).Attached := by
  refine ⟨h.broker, ?_⟩
  rw [Service.watch, Option.isSome_map]
  exact h.live

theorem Attached.afterRegister {s : Service η} (h : s.Attached) (subscription : Subscription η) :
    (s.afterRegister subscription).Attached := by
  rcases s.afterRegister_cases subscription with hs | ⟨registry, -, hs⟩
  · rwa [hs]
  · have hregistered : Attached { s with registry } := ⟨h.broker, h.live⟩
    rw [hs, announce_cases]
    split
    · exact hregistered.watch _
    · exact hregistered

theorem Attached.apply {s : Service η} (h : s.Attached) (op : Op η) : (op.apply s).Attached := by
  cases op with
  | start =>
    by_cases hr : s.running = true
    · simpa [Op.apply, start, hr] using h
    · obtain ⟨broker, hb⟩ := Option.isSome_iff_exists.mp h.broker
      obtain ⟨subscriber, -, -, -, hs⟩ := start_of_stopped (by simpa using hr) hb
      simp only [Op.apply, hs]
      exact ⟨h.broker, rfl⟩
  | stop =>
    simp only [Op.apply, stop]
    split
    · exact ⟨h.broker, rfl⟩
    · exact h
  | register subscription => exact h.afterRegister subscription
  | subscribe id topics handler => exact h.afterRegister { id, topics, handler }
  | unsubscribe id => exact ⟨h.broker, h.live⟩
  | enable id => exact ⟨h.broker, h.live⟩
  | disable id => exact ⟨h.broker, h.live⟩
  | listen move =>
    refine ⟨h.broker, ?_⟩
    simp only [Op.apply, Option.isSome_map]
    exact h.live

theorem run_append (s : Service η) (front back : List (Op η)) :
    s.run (front ++ back) = (s.run front).run back := List.foldl_append

theorem Attached.run {s : Service η} (h : s.Attached) (ops : List (Op η)) :
    (s.run ops).Attached := by
  induction ops generalizing s with
  | nil => exact h
  | cons op ops ih => exact ih (h.apply op)

end EventBus.Service
