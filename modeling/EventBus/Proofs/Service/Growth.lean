import EventBus.Proofs.Service.Run
import EventBus.Proofs.Splice
import EventBus.Proofs.Subscription.History

namespace EventBus.Service

variable {η : Type u}

/-- The subscription that an operation is to register. -/
def Op.subscription? : Op η → Option (Subscription η)
  | .register subscription => some subscription
  | .subscribe id topics handler => some { id, topics, handler }
  | .start | .stop | .unsubscribe _ | .enable _ | .disable _ | .listen _ => none

/-- An operation registers an enabled subscription, and is not refused. -/
structure Op.Brings (s : Service η) (op : Op η) (subscription : Subscription η) : Prop where
  subscription? : op.subscription? = some subscription
  enabled : subscription.enabled = true
  accepted : ∃ registry, s.registry.register subscription = .ok registry

/-- The listener neither takes a raised flag down nor gives up. -/
def Op.Calm (s : Service η) : Op η → Prop
  | .listen move => ∀ subscriber, s.subscriber = some subscriber →
    (subscriber.reconnectRequested = true → (move.apply subscriber).reconnectRequested = true) ∧
      (subscriber.running = true → (move.apply subscriber).running = true)
  | .start | .stop | .register _ | .subscribe _ _ _ => True
  | .unsubscribe _ | .enable _ | .disable _ => True

/-- Something is true of an operation in a run, in the state that it finds. -/
def Once (s : Service η) (ops : List (Op η)) (p : Service η → Op η → Prop) : Prop :=
  ∃ front op back, ops = front ++ op :: back ∧ p (s.run front) op

def Always (s : Service η) (ops : List (Op η)) (p : Service η → Op η → Prop) : Prop :=
  ∀ front op back, ops = front ++ op :: back → p (s.run front) op

/-- The last start that took effect, what came before it and what came since. -/
structure Since (s : Service η) (ops front back : List (Op η)) : Prop where
  split : ops = front ++ .start :: back
  stopped : (s.run front).running = false
  unstopped : .stop ∉ back

variable {s : Service η} {op : Op η} {ops front back : List (Op η)}
  {p : Service η → Op η → Prop}

theorem not_once_nil : ¬s.Once [] p := by
  rintro ⟨front, op, back, hsplit, -⟩
  simp at hsplit

theorem once_append : s.Once (ops ++ [op]) p ↔ s.Once ops p ∨ p (s.run ops) op := by
  constructor
  · rintro ⟨front, other, back, hsplit, hp⟩
    rcases Splice.cases_append_singleton hsplit with ⟨rest, hops⟩ | ⟨rfl, rfl⟩
    · exact .inl ⟨front, other, rest, hops, hp⟩
    · exact .inr hp
  · rintro (⟨front, other, back, rfl, hp⟩ | hp)
    · exact ⟨front, other, back ++ [op], by simp, hp⟩
    · exact ⟨ops, op, [], rfl, hp⟩

theorem Always.of_append (h : s.Always (ops ++ [op]) p) : s.Always ops p ∧ p (s.run ops) op := by
  refine ⟨fun front other back hsplit => ?_, h ops op [] rfl⟩
  exact h front other (back ++ [op]) (by simp [hsplit])

inductive Op.Effect (s : Service η) (op : Op η) : Option Subscriber → Prop where
  | brings (subscription : Subscription η) (h : op.Brings s subscription) :
    Effect s op (s.subscriber.map (·.addTopics subscription.topics))
  | listens (move : Subscriber.Move) (h : op = .listen move) :
    Effect s op (s.subscriber.map fun subscriber => move.apply subscriber)
  | rests (hop : ∀ move, op ≠ .listen move) (h : ∀ subscription, ¬op.Brings s subscription) :
    Effect s op s.subscriber

theorem not_brings (h : op.subscription? = none) (subscription : Subscription η) :
    ¬op.Brings s subscription := by
  intro hbrings
  have hsome := hbrings.subscription?
  rw [h] at hsome
  cases hsome

theorem effect_afterRegister (hrunning : s.running = true) {subscription : Subscription η}
    (hop : op.subscription? = some subscription) :
    op.Effect s (s.afterRegister subscription).subscriber ∧
      (s.afterRegister subscription).running = true := by
  have hmove : ∀ move, op ≠ .listen move := by
    rintro move rfl
    cases hop
  have hbrings : ∀ {other}, op.Brings s other → other = subscription := fun h =>
    Option.some.inj (h.subscription?.symm.trans hop)
  unfold afterRegister register
  cases hreg : s.registry.register subscription with
  | error error =>
    refine ⟨.rests hmove fun other h => ?_, hrunning⟩
    obtain ⟨registry, haccepted⟩ := h.accepted
    rw [hbrings h, hreg] at haccepted
    cases haccepted
  | ok registry =>
    simp only [announce, hrunning, Bool.true_and]
    split
    · next henabled => exact ⟨.brings subscription ⟨hop, henabled, registry, hreg⟩, rfl⟩
    · next henabled =>
      refine ⟨.rests hmove fun other h => henabled ?_, rfl⟩
      rw [← hbrings h]
      exact h.enabled

theorem effect_apply (hrunning : s.running = true) (hop : op ≠ .stop) :
    op.Effect s (op.apply s).subscriber ∧ (op.apply s).running = true := by
  cases op with
  | start =>
    have hsame : (Op.start : Op η).apply s = s := if_pos hrunning
    rw [hsame]
    exact ⟨.rests nofun (not_brings rfl), hrunning⟩
  | stop => exact absurd rfl hop
  | register subscription => exact effect_afterRegister hrunning rfl
  | subscribe id topics handler => exact effect_afterRegister hrunning rfl
  | unsubscribe id => exact ⟨.rests nofun (not_brings rfl), hrunning⟩
  | enable id => exact ⟨.rests nofun (not_brings rfl), hrunning⟩
  | disable id => exact ⟨.rests nofun (not_brings rfl), hrunning⟩
  | listen move => exact ⟨.listens move rfl, hrunning⟩

def Brought (filter : String) (s : Service η) (op : Op η) : Prop :=
  ∃ subscription, op.Brings s subscription ∧ filter ∈ subscription.topics

/-- An operation brings a filter that is not watched yet. -/
def BroughtNew (s : Service η) (op : Op η) : Prop :=
  ∃ filter, Brought filter s op ∧ filter ∉ s.watched

/-- What one operation makes of the subscriber, said of its topics and its flag. -/
structure Grows (s : Service η) (op : Op η) (subscriber after : Subscriber) : Prop where
  nodup : subscriber.topics.Nodup → after.topics.Nodup
  topics : ∀ filter, filter ∈ after.topics ↔ filter ∈ subscriber.topics ∨ Brought filter s op
  running : op.Calm s → subscriber.running = true → after.running = true
  requested : op.Calm s → subscriber.running = true → (after.reconnectRequested = true ↔
    subscriber.reconnectRequested = true ∨ BroughtNew s op)

variable {subscriber : Subscriber} {subscription : Subscription η}

theorem Op.Brings.brought_iff (h : op.Brings s subscription) {filter : String} :
    Brought filter s op ↔ filter ∈ subscription.topics := by
  constructor
  · rintro ⟨other, hother, hf⟩
    rwa [Option.some.inj (h.subscription?.symm.trans hother.subscription?)]
  · exact fun hf => ⟨subscription, h, hf⟩

theorem grows_brings (hsub : s.subscriber = some subscriber) (h : op.Brings s subscription) :
    Grows s op subscriber (subscriber.addTopics subscription.topics) := by
  refine ⟨fun hnodup => ?_, fun filter => ?_, fun _ hlistening => ?_, fun _ hlistening => ?_⟩
  · rw [Subscriber.addTopics_topics]
    exact Subscriber.nodup_watchAlso hnodup _
  · rw [Subscriber.addTopics_topics, Subscriber.mem_watchAlso, h.brought_iff]
  · exact (Subscriber.addTopics_running subscriber _).trans hlistening
  · have hwatched : s.watched = subscriber.topics := by rw [watched, hsub]; rfl
    simp only [Subscriber.addTopics_requested hlistening, BroughtNew, h.brought_iff, hwatched]

/-- Where nothing is brought, the topics stay, and so does the flag if it is let alone. -/
theorem grows_same {after : Subscriber} (hnone : ∀ subscription, ¬op.Brings s subscription)
    (htopics : after.topics = subscriber.topics)
    (hrunning : op.Calm s → subscriber.running = true → after.running = true)
    (hflag : op.Calm s →
      (after.reconnectRequested = true ↔ subscriber.reconnectRequested = true)) :
    Grows s op subscriber after := by
  have hbrought : ∀ filter, ¬Brought filter s op := by
    rintro filter ⟨subscription, hbrings, -⟩
    exact hnone subscription hbrings
  have hnew : ¬BroughtNew s op := by
    rintro ⟨filter, hf, -⟩
    exact hbrought filter hf
  refine ⟨fun hnodup => htopics ▸ hnodup, fun filter => ?_, hrunning, fun hcalm _ => ?_⟩
  · rw [htopics]
    exact (or_iff_left (hbrought filter)).symm
  · exact (hflag hcalm).trans (or_iff_left hnew).symm

theorem exists_grows (hrunning : s.running = true) (hsub : s.subscriber = some subscriber)
    (hop : op ≠ .stop) : ∃ after, (op.apply s).subscriber = some after ∧
      (op.apply s).running = true ∧ Grows s op subscriber after := by
  obtain ⟨heffect, hgoes⟩ := effect_apply hrunning hop
  generalize (op.apply s).subscriber = after at heffect ⊢
  cases heffect with
  | brings subscription h =>
    rw [hsub]
    exact ⟨_, rfl, hgoes, grows_brings hsub h⟩
  | listens move h =>
    subst h
    rw [hsub]
    refine ⟨_, rfl, hgoes, grows_same (not_brings rfl) ?_ (fun hcalm => ?_) fun hcalm => ?_⟩
    · exact (Subscriber.moved_apply subscriber move).topics
    · exact (hcalm subscriber hsub).2
    · exact ⟨Subscriber.requested_of_apply, (hcalm subscriber hsub).1⟩
  | rests _ h => exact ⟨subscriber, hsub, hgoes, grows_same h rfl (fun _ h => h) fun _ => .rfl⟩

structure Fresh (s : Service η) (subscriber : Subscriber) : Prop where
  running : s.running = true
  live : s.subscriber = some subscriber
  nodup : subscriber.topics.Nodup
  listening : subscriber.running = true
  requested : subscriber.reconnectRequested = false

structure Grown (s : Service η) (first : Subscriber) (ops : List (Op η)) (subscriber : Subscriber) :
    Prop where
  nodup : subscriber.topics.Nodup
  topics : ∀ filter, filter ∈ subscriber.topics ↔
    filter ∈ first.topics ∨ s.Once ops (Brought filter)
  running : s.Always ops (fun s op => op.Calm s) → subscriber.running = true
  requested : s.Always ops (fun s op => op.Calm s) →
    (subscriber.reconnectRequested = true ↔ s.Once ops BroughtNew)

theorem Fresh.run {first : Subscriber} (h : s.Fresh first) (hops : .stop ∉ ops) :
    ∃ subscriber, (s.run ops).subscriber = some subscriber ∧ (s.run ops).running = true ∧
      Grown s first ops subscriber := by
  induction ops using List.reverseRecOn with
  | nil =>
    refine ⟨first, h.live, h.running, h.nodup, fun filter => ?_, fun _ => h.listening,
      fun _ => ?_⟩
    · exact (or_iff_left not_once_nil).symm
    · simp [h.requested, not_once_nil]
  | append_singleton ops op ih =>
    obtain ⟨subscriber, hsub, hrunning, hgrown⟩ := ih fun hmem => hops (List.mem_append_left _ hmem)
    have hop : op ≠ .stop := by
      rintro rfl
      exact hops (by simp)
    obtain ⟨after, hafter, hgoes, hgrows⟩ := exists_grows hrunning hsub hop
    rw [run_append]
    refine ⟨after, hafter, hgoes, hgrows.nodup hgrown.nodup, fun filter => ?_, fun hcalm => ?_,
      fun hcalm => ?_⟩
    · rw [hgrows.topics, hgrown.topics, once_append, or_assoc]
    · obtain ⟨hbefore, hlast⟩ := hcalm.of_append
      exact hgrows.running hlast (hgrown.running hbefore)
    · obtain ⟨hbefore, hlast⟩ := hcalm.of_append
      rw [hgrows.requested hlast (hgrown.running hbefore), hgrown.requested hbefore, once_append]

theorem fresh_start (ha : s.Attached) (hstopped : s.running = false) :
    ∃ subscriber, s.start.Fresh subscriber ∧ subscriber.topics = s.start.registry.topics := by
  obtain ⟨broker, hb⟩ := Option.isSome_iff_exists.mp ha.broker
  obtain ⟨subscriber, htopics, hlistening, hflag, hs⟩ := start_of_stopped hstopped hb
  have hnodup : subscriber.topics.Nodup := by
    rw [htopics]
    exact (Registry.ascending_topics _).imp fun h heq => by simp [heq] at h
  rw [hs]
  exact ⟨subscriber, ⟨rfl, rfl, hnodup, hlistening, hflag⟩, htopics⟩

theorem Since.more (h : s.Since ops front back) (hop : op ≠ .stop) :
    s.Since (ops ++ [op]) front (back ++ [op]) := by
  refine ⟨by simp [h.split], h.stopped, fun hmem => ?_⟩
  rcases List.mem_append.mp hmem with hmem | hmem
  · exact h.unstopped hmem
  · exact hop (List.mem_singleton.mp hmem).symm

theorem running_of_apply (hop : op ≠ .start) (hrunning : (op.apply s).running = true) :
    s.running = true := by
  have hregister : ∀ subscription, (s.afterRegister subscription).running = s.running := by
    intro subscription
    rcases s.afterRegister_cases subscription with hs | ⟨registry, -, hs⟩
    · rw [hs]
    · rw [hs, announce]
      split <;> rfl
  cases op with
  | start => exact absurd rfl hop
  | stop =>
    simp only [Op.apply, stop] at hrunning
    split at hrunning
    · cases hrunning
    · exact hrunning
  | register subscription => exact (hregister subscription).symm.trans hrunning
  | subscribe id topics handler => exact (hregister _).symm.trans hrunning
  | unsubscribe id => exact hrunning
  | enable id => exact hrunning
  | disable id => exact hrunning
  | listen move => exact hrunning

theorem not_running_stop (s : Service η) : s.stop.running = false := by
  unfold stop
  split
  · rfl
  · next hstopped => exact Bool.eq_false_iff.mpr hstopped

theorem exists_since (hstopped : s.running = false) (hrunning : (s.run ops).running = true) :
    ∃ front back, s.Since ops front back := by
  induction ops using List.reverseRecOn with
  | nil => exact absurd hrunning (by simp [run, hstopped])
  | append_singleton ops op ih =>
    rw [run_append] at hrunning
    by_cases hbefore : (s.run ops).running = true
    · obtain ⟨front, back, hsince⟩ := ih hbefore
      refine ⟨front, back ++ [op], hsince.more ?_⟩
      rintro rfl
      exact Bool.false_ne_true ((not_running_stop (s.run ops)).symm.trans hrunning)
    · have hop : op = .start := Classical.byContradiction fun hop =>
        hbefore (running_of_apply hop hrunning)
      exact ⟨ops, [], by rw [hop], Bool.eq_false_iff.mpr hbefore, List.not_mem_nil⟩

theorem apply_of_refused (hop : op.subscription? = some subscription) {error : SubscriptionError}
    (hrefused : s.registry.register subscription = .error error) : op.apply s = s := by
  have hsame : s.afterRegister subscription = s := by simp [afterRegister, register, hrefused]
  cases op with
  | register other =>
    cases hop
    exact hsame
  | subscribe id topics handler =>
    cases hop
    exact hsame
  | start | stop | unsubscribe | enable | disable | listen => cases hop

/-- A service with a broker has a subscriber for as long as it runs. What that watches is what was
registered at the last start and what was brought since, each filter once. Its flag is down after
the start, and with a calm listener it is up once a filter was brought that was not watched then. A
subscription that is refused changes nothing. -/
theorem watched_since_start (settings : ServiceSettings) (broker : BrokerSettings)
    (declarations : List (Subscription η)) (ops : List (Op η)) :
    let s := new settings (some broker) declarations
    (s.run ops).subscriber.isSome = (s.run ops).running ∧
    ((s.run ops).running = true → ∃ front back, s.Since ops front back) ∧
    (∀ front back, s.Since ops front back →
      let started := s.run (front ++ [.start])
      ∃ subscriber, (s.run ops).subscriber = some subscriber ∧ subscriber.topics.Nodup ∧
        (∀ filter, filter ∈ subscriber.topics ↔
          filter ∈ started.registry.topics ∨ started.Once back (Brought filter)) ∧
        (started.Always back (fun s op => op.Calm s) →
          (subscriber.reconnectRequested = true ↔ started.Once back BroughtNew))) ∧
    ∀ op subscription error, op.subscription? = some subscription →
      (s.run ops).registry.register subscription = .error error →
        s.run (ops ++ [op]) = s.run ops := by
  intro s
  have hattached : ∀ ops, (s.run ops).Attached := fun ops => attached_new.run ops
  refine ⟨(hattached ops).live, exists_since rfl, fun front back hsince => ?_,
    fun op subscription error hop hrefused => ?_⟩
  · obtain ⟨first, hfresh, htopics⟩ := fresh_start (hattached front) hsince.stopped
    have hstarted : s.run (front ++ [.start]) = (s.run front).start := run_append s front [.start]
    have hops : s.run ops = (s.run front).start.run back := by
      rw [hsince.split, run_append]
      rfl
    obtain ⟨subscriber, hsub, -, hgrown⟩ := hfresh.run hsince.unstopped
    dsimp only
    rw [hstarted, hops, ← htopics]
    exact ⟨subscriber, hsub, hgrown.nodup, hgrown.topics, hgrown.requested⟩
  · rw [run_append]
    exact apply_of_refused hop hrefused

end EventBus.Service
