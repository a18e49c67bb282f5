import EventBus.Service.Request

namespace EventBus.Service

variable {η : Type u} {s : Service η} {n : Null η}

/-- A local service and a null service that say the same. The counters are compared, not the
dispatchers, since the permits of the local service may be any number. -/
structure Alike (s : Service η) (n : Null η) : Prop where
  registry : s.registry = n.inner.registry
  dispatched : s.dispatcher.dispatched = n.inner.dispatcher.dispatched
  errors : s.dispatcher.errors = n.inner.dispatcher.errors
  running : s.running = n.running
  broker : s.broker = none
  declarations : s.declarations = []
  subscriber : s.subscriber = none
  inner : n.inner.subscriber = none

theorem alike_new (settings : ServiceSettings) :
    Alike (new settings none [] : Service η) .new where
  registry := rfl
  dispatched := rfl
  errors := rfl
  running := rfl
  broker := rfl
  declarations := rfl
  subscriber := rfl
  inner := rfl

theorem watch_of_none (h : s.subscriber = none) (topics : List String) : s.watch topics = s := by
  rw [watch, h, Option.map_none, ← h]

theorem announce_of_none (h : s.subscriber = none) (subscription : Subscription η) :
    s.announce subscription = s := by
  rw [announce]
  split
  · exact watch_of_none h subscription.topics
  · rfl

theorem register_of_none (h : s.subscriber = none) (subscription : Subscription η) :
    s.register subscription =
      (s.registry.register subscription).map fun registry => { s with registry } := by
  rw [register]
  cases hr : s.registry.register subscription with
  | error error => rfl
  | ok registry => exact congrArg Except.ok (announce_of_none (s := { s with registry }) h _)

theorem start_of_local (hb : s.broker = none) (hd : s.declarations = [])
    (hs : s.subscriber = none) : s.start = { s with running := true } := by
  by_cases hr : s.running = true
  · rw [start, if_pos hr, ← hr]
  · have hmaterialize : s.materialize = s := by
      rw [materialize, hd, List.foldl_nil, ← hd]
    have hon : s.subscriberOn s.registry.topics = none := by rw [subscriberOn, hb, Option.map_none]
    rw [start, if_neg hr]
    simp only [hmaterialize, hon]
    rw [watch_of_none rfl, ← hs]

theorem stop_of_local (hs : s.subscriber = none) : s.stop = { s with running := false } := by
  rw [stop]
  split
  · rw [← hs]
  · next hr =>
    have hrunning : s.running = false := by simpa using hr
    rw [← hrunning]

theorem Alike.start (h : Alike s n) : Alike s.start n.start := by
  rw [start_of_local h.broker h.declarations h.subscriber]
  exact { h with running := rfl }

theorem Alike.stop (h : Alike s n) : Alike s.stop n.stop := by
  rw [stop_of_local h.subscriber]
  exact { h with running := rfl }

theorem Alike.enlist (h : Alike s n) (subscription : Subscription η) :
    (enlist s subscription).2 = (enlist n subscription).2 ∧
      Alike (enlist s subscription).1 (enlist n subscription).1 := by
  simp only [Service.enlist, Kind.register, Null.register, register_of_none h.subscriber,
    register_of_none h.inner, ← h.registry]
  cases s.registry.register subscription with
  | error error => exact ⟨rfl, h⟩
  | ok registry => exact ⟨rfl, { h with registry := rfl }⟩

theorem Alike.unsubscribe (h : Alike s n) (id : String) :
    Alike (s.unsubscribe id) (n.unsubscribe id) :=
  { h with registry := congrArg (·.unregister id) h.registry }

theorem Alike.dispatch (h : Alike s n) (behave : Behaviour η) (event : Event)
    (topic : Option String) :
    (s.dispatchLocal behave event topic).2 = (n.dispatchLocal behave event topic).2 ∧
      Alike (s.dispatchLocal behave event topic).1 (n.dispatchLocal behave event topic).1 := by
  have hinvoked : (s.dispatchLocal behave event topic).2 =
      (n.dispatchLocal behave event topic).2 := by
    simp only [dispatchLocal, Service.dispatch, Dispatcher.dispatch, Null.dispatchLocal, h.registry]
  have herrors : (s.dispatchLocal behave event topic).1.dispatcher.errors =
      (n.dispatchLocal behave event topic).1.inner.dispatcher.errors := by
    simp only [dispatchLocal, Service.dispatch, Dispatcher.dispatch, Null.dispatchLocal, h.registry,
      h.errors]
  refine ⟨hinvoked, { h with dispatched := ?_, errors := herrors }⟩
  exact congrArg (· + 1) h.dispatched

theorem Alike.stats (h : Alike s n) : s.stats = n.stats := by
  simp only [Service.stats, Null.stats, h.registry, h.dispatched, h.errors, h.running,
    h.subscriber, h.inner]

theorem Alike.ask (h : Alike s n) (request : Request η) :
    (ask s request).2 = (ask n request).2 ∧ Alike (ask s request).1 (ask n request).1 := by
  cases request with
  | start => exact ⟨rfl, h.start⟩
  | stop => exact ⟨rfl, h.stop⟩
  | isRunning => exact ⟨by simp only [Service.ask, Kind.isRunning, h.running], h⟩
  | register subscription =>
    obtain ⟨hreply, hafter⟩ := h.enlist subscription
    exact ⟨congrArg (·, []) hreply, hafter⟩
  | subscribe id topics handler =>
    obtain ⟨hreply, hafter⟩ := h.enlist { id, topics, handler }
    exact ⟨congrArg (·, []) hreply, hafter⟩
  | unsubscribe id =>
    refine ⟨?_, h.unsubscribe id⟩
    simp only [Service.ask, Kind.unsubscribe, h.registry]
  | list => exact ⟨by simp only [Service.ask, Kind.list, h.registry], h⟩
  | dispatch behave event topic =>
    obtain ⟨hinvoked, hafter⟩ := h.dispatch behave event topic
    refine ⟨?_, hafter⟩
    simp only [Service.ask, Kind.dispatch, hinvoked]
  | stats => exact ⟨by simp only [Service.ask, Kind.stats, h.stats], h⟩

theorem Alike.replies (h : Alike s n) (requests : List (Request η)) :
    replies s requests = replies n requests := by
  induction requests generalizing s n with
  | nil => rfl
  | cons request requests ih =>
    obtain ⟨hsaid, hafter⟩ := h.ask request
    simp only [Service.replies, hsaid, ih hafter]

/-- Whatever is asked, a null service replies as a local service of any settings does, and calls the
same handlers with the same events on the same topics. -/
theorem replies_null (settings : ServiceSettings) (requests : List (Request η)) :
    replies (new settings none [] : Service η) requests = replies (Null.new : Null η) requests :=
  (alike_new settings).replies requests

end EventBus.Service
