import EventBus.Dispatch

namespace EventBus.Dispatcher

variable {η : Type u}

inductive Stage where
  | waiting
  | running
  | ended (outcome : Outcome)
  | joined (outcome : Outcome)
  deriving DecidableEq, Repr

namespace Stage

def isWaiting : Stage → Bool
  | .waiting => true
  | .running | .ended _ | .joined _ => false

def isJoined : Stage → Bool
  | .joined _ => true
  | .waiting | .running | .ended _ => false

def outcome? : Stage → Option Outcome
  | .ended outcome | .joined outcome => some outcome
  | .waiting | .running => none

/-- Whether it is among the errors that are counted. -/
def isError : Stage → Bool
  | .joined outcome => outcome.isError
  | .waiting | .running | .ended _ => false

end Stage

structure Task (η : Type u) where
  subscription : Subscription η
  stage : Stage := .waiting

structure Call (η : Type u) where
  event : Event
  arrival : Arrival
  /-- The registry that it looked up who wants the event in. -/
  registry : Option (Registry η) := none
  tasks : List (Task η) := []
  /-- Whose handlers were called so far. -/
  invoked : List (Subscription η) := []
  returned : Option Nat := none

namespace Call

/-- Who wanted the event when the dispatch looked. -/
def wanted (c : Call η) : List (Subscription η) :=
  c.registry.elim [] (·.matching c.arrival.topic)

/-- One task for everyone who wants the event. -/
def lookUp (c : Call η) (registry : Registry η) : Call η :=
  { c with
    registry := some registry
    tasks := (registry.matching c.arrival.topic).map fun subscription => ⟨subscription, .waiting⟩ }

def running (c : Call η) : Nat := c.tasks.countP fun task => task.stage = .running

def errors (c : Call η) : Nat := c.tasks.countP fun task => task.stage.isError

end Call

/-- A dispatcher with all that it was asked to do, and the permits that nobody holds. -/
structure Workload (η : Type u) where
  dispatcher : Dispatcher
  free : Nat
  calls : List (Call η) := []

namespace Workload

def idle (d : Dispatcher) : Workload η := { dispatcher := d, free := d.permits }

def tasks (w : Workload η) : List (Task η) := w.calls.flatMap (·.tasks)

def running (w : Workload η) : Nat := w.tasks.countP fun task => task.stage = .running

def errors (w : Workload η) : Nat := w.tasks.countP fun task => task.stage.isError

def outcomes (w : Workload η) : List Outcome := w.tasks.filterMap fun task => task.stage.outcome?

/-- One step of a dispatch or of one of its tasks. A dispatch counts itself before it looks up who
wants its event, and others may register meanwhile. Any waiting task may be the next to get a
permit, and a handler may end in any way. -/
inductive Step : Workload η → Workload η → Prop where
  | enter (d : Dispatcher) (free : Nat) (calls : List (Call η)) (event : Event)
      (arrival : Arrival) :
    Step ⟨d, free, calls⟩
      ⟨{ d with dispatched := d.dispatched + 1 }, free,
        calls ++ [{ event := event, arrival := arrival }]⟩
  | lookUp (d : Dispatcher) (free : Nat) (front back : List (Call η)) (call : Call η)
      (registry : Registry η) (h : call.registry = none) :
    Step ⟨d, free, front ++ call :: back⟩ ⟨d, free, front ++ call.lookUp registry :: back⟩
  | acquire (d : Dispatcher) (free : Nat) (front back : List (Call η)) (call : Call η)
      (left right : List (Task η)) (subscription : Subscription η)
      (h : call.tasks = left ++ ⟨subscription, .waiting⟩ :: right) :
    Step ⟨d, free + 1, front ++ call :: back⟩
      ⟨d, free, front ++ { call with
        tasks := left ++ ⟨subscription, .running⟩ :: right
        invoked := call.invoked ++ [subscription] } :: back⟩
  | finish (d : Dispatcher) (free : Nat) (front back : List (Call η)) (call : Call η)
      (left right : List (Task η)) (subscription : Subscription η) (outcome : Outcome)
      (h : call.tasks = left ++ ⟨subscription, .running⟩ :: right) :
    Step ⟨d, free, front ++ call :: back⟩
      ⟨d, free + 1, front ++ { call with
        tasks := left ++ ⟨subscription, .ended outcome⟩ :: right } :: back⟩
  | join (d : Dispatcher) (free : Nat) (front back : List (Call η)) (call : Call η)
      (left right : List (Task η)) (subscription : Subscription η) (outcome : Outcome)
      (h : call.tasks = left ++ ⟨subscription, .ended outcome⟩ :: right) :
    Step ⟨d, free, front ++ call :: back⟩
      ⟨{ d with errors := d.errors + if outcome.isError then 1 else 0 }, free, front ++ { call with
        tasks := left ++ ⟨subscription, .joined outcome⟩ :: right } :: back⟩
  | return (d : Dispatcher) (free : Nat) (front back : List (Call η)) (call : Call η)
      (hlooked : call.registry.isSome = true) (hopen : call.returned = none)
      (hjoined : ∀ task ∈ call.tasks, task.stage.isJoined = true) :
    Step ⟨d, free, front ++ call :: back⟩
      ⟨d, free, front ++ { call with returned := some call.tasks.length } :: back⟩

inductive Reachable (start : Workload η) : Workload η → Prop where
  | refl : Reachable start start
  | step {w after : Workload η} (h : Reachable start w) (hs : Step w after) : Reachable start after

end Workload

/-- A dispatch has a task for everyone who wants its event, and has called the handlers of those
tasks that wait no more. It answers when all of them are joined. -/
structure Call.Sound (c : Call η) : Prop where
  wanted : c.tasks.map (·.subscription) = c.wanted
  invoked : c.invoked.Perm
    ((c.tasks.filter fun task => !task.stage.isWaiting).map (·.subscription))
  returned : ∀ n, c.returned = some n → c.registry.isSome = true ∧ n = c.tasks.length ∧
    ∀ task ∈ c.tasks, task.stage.isJoined = true

namespace Call.Sound

theorem returned_eq_none {c : Call η} (h : c.Sound) {task : Task η} (ht : task ∈ c.tasks)
    (hopen : task.stage.isJoined = false) : c.returned = none := by
  cases hreturned : c.returned with
  | none => rfl
  | some n =>
    have hjoined := (h.returned n hreturned).2.2 task ht
    rw [hopen] at hjoined
    cases hjoined

theorem lookUp {c : Call η} (h : c.Sound) (hnone : c.registry = none) (registry : Registry η) :
    (c.lookUp registry).Sound := by
  have htasks : c.tasks = [] := by
    have hwanted := h.wanted
    simpa [Call.wanted, hnone] using hwanted
  have hinvoked : c.invoked = [] := by
    have hperm := h.invoked
    simpa [htasks] using hperm
  refine ⟨?_, ?_, ?_⟩
  · simp [Call.lookUp, Call.wanted, Function.comp_def]
  · simp [Call.lookUp, hinvoked, List.filter_map, Function.comp_def, Stage.isWaiting]
  · intro n hreturned
    have hlooked := (h.returned n hreturned).1
    simp [hnone] at hlooked

/-- A task goes on. Its handler has been called unless it still waits for a permit. -/
theorem goOn {c : Call η} {left right : List (Task η)} {subscription : Subscription η}
    {before after : Stage} {invoked : List (Subscription η)} (h : c.Sound)
    (htasks : c.tasks = left ++ ⟨subscription, before⟩ :: right) (hopen : before.isJoined = false)
    (hafter : after.isWaiting = false)
    (hinvoked : invoked = if before.isWaiting then c.invoked ++ [subscription] else c.invoked) :
    Sound { c with tasks := left ++ ⟨subscription, after⟩ :: right, invoked } := by
  have hmem : ⟨subscription, before⟩ ∈ c.tasks := by simp [htasks]
  have hreturned : c.returned = none := h.returned_eq_none hmem hopen
  have hwanted := h.wanted
  have hperm := h.invoked
  rw [htasks] at hwanted hperm
  refine ⟨?_, ?_, ?_⟩
  · simpa [Call.wanted] using hwanted
  · -- A task that waited is called now, and any other has been called before.
    cases hbefore : before.isWaiting with
    | true =>
      simp only [List.filter_append, List.filter_cons, hbefore, Bool.not_true, Bool.false_eq_true,
        if_false, List.map_append] at hperm
      simp only [hinvoked, hbefore, if_true, List.filter_append, List.filter_cons, hafter,
        Bool.not_false, List.map_append, List.map_cons]
      have hcalled := (List.perm_append_singleton subscription c.invoked).trans
        (hperm.cons subscription)
      exact hcalled.trans List.perm_middle.symm
    | false => simpa [hinvoked, List.filter_append, List.filter_cons, hbefore, hafter] using hperm
  · intro n hn
    simp [hreturned] at hn

theorem answer {c : Call η} (h : c.Sound) (hlooked : c.registry.isSome = true)
    (hjoined : ∀ task ∈ c.tasks, task.stage.isJoined = true) :
    Sound { c with returned := some c.tasks.length } := by
  refine ⟨h.wanted, h.invoked, ?_⟩
  intro n hn
  exact ⟨hlooked, (Option.some.inj hn).symm, hjoined⟩

theorem joined_of_returned {c : Call η} (h : c.Sound) (hreturned : c.returned.isSome = true) :
    ∀ task ∈ c.tasks, task.stage.isJoined = true := by
  obtain ⟨n, hn⟩ := Option.isSome_iff_exists.mp hreturned
  exact (h.returned n hn).2.2

theorem of_returned {c : Call η} (h : c.Sound) (hreturned : c.returned.isSome = true) :
    ∃ registry, c.registry = some registry ∧
      c.invoked.Perm (registry.matching c.arrival.topic) ∧
      c.returned = some (registry.matching c.arrival.topic).length := by
  obtain ⟨n, hn⟩ := Option.isSome_iff_exists.mp hreturned
  obtain ⟨hlooked, hlength, hjoined⟩ := h.returned n hn
  obtain ⟨registry, hregistry⟩ := Option.isSome_iff_exists.mp hlooked
  have hwanted : c.tasks.map (·.subscription) = registry.matching c.arrival.topic := by
    rw [h.wanted, Call.wanted, hregistry]
    rfl
  refine ⟨registry, hregistry, ?_, ?_⟩
  · have hall : c.tasks.filter (fun task => !task.stage.isWaiting) = c.tasks := by
      refine List.filter_eq_self.mpr fun task ht => ?_
      have hstage := hjoined task ht
      cases hcase : task.stage <;> simp_all [Stage.isJoined, Stage.isWaiting]
    have hperm := h.invoked
    rwa [hall, hwanted] at hperm
  · rw [hn, hlength, ← hwanted, List.length_map]

end Call.Sound

theorem countP_isError {tasks : List (Task η)}
    (hjoined : ∀ task ∈ tasks, task.stage.isJoined = true) :
    tasks.countP (fun task => task.stage.isError) =
      (tasks.filterMap fun task => task.stage.outcome?).countP (·.isError) := by
  induction tasks with
  | nil => rfl
  | cons task rest ih =>
    have hrest := ih fun other hother => hjoined other (List.mem_cons_of_mem task hother)
    have hstage := hjoined task List.mem_cons_self
    cases hcase : task.stage with
    | joined outcome =>
      have herror : task.stage.isError = outcome.isError := by rw [hcase]; rfl
      have hended : task.stage.outcome? = some outcome := by rw [hcase]; rfl
      simp only [List.countP_cons, List.filterMap_cons, hended, herror, hrest]
    | waiting | running | ended outcome => simp [hcase, Stage.isJoined] at hstage

namespace Workload

/-- Where one dispatch goes on, what is counted over all tasks changes as its own does. -/
theorem countP_tasks (f : Task η → Bool) (d : Dispatcher) (free : Nat) (front back : List (Call η))
    (call : Call η) :
    (tasks ⟨d, free, front ++ call :: back⟩).countP f =
      call.tasks.countP f + (tasks ⟨d, free, front ++ back⟩).countP f := by
  simp only [tasks, List.flatMap_append, List.flatMap_cons, List.countP_append]
  omega

/-- The permits are held or free, the calls and the errors are counted, and every dispatch is
sound. The counts are those since a dispatcher was idle. -/
structure Sound (start : Dispatcher) (w : Workload η) : Prop where
  permits : w.dispatcher.permits = start.permits
  held : w.running + w.free = start.permits
  dispatched : w.dispatcher.dispatched = start.dispatched + w.calls.length
  errors : w.dispatcher.errors = start.errors + w.errors
  calls : ∀ call ∈ w.calls, call.Sound

theorem sound_idle (start : Dispatcher) : Sound start (idle start : Workload η) := by
  refine ⟨rfl, ?_, ?_, ?_, ?_⟩ <;> simp [idle, running, Workload.errors, tasks]

theorem Sound.replace {start d after : Dispatcher} {free freeAfter : Nat}
    {front back : List (Call η)} {call next : Call η}
    (h : Sound start ⟨d, free, front ++ call :: back⟩) (hpermits : after.permits = d.permits)
    (hdispatched : after.dispatched = d.dispatched)
    (hheld : next.running + freeAfter = call.running + free)
    (herrors : after.errors + call.errors = d.errors + next.errors) (hsound : next.Sound) :
    Sound start ⟨after, freeAfter, front ++ next :: back⟩ := by
  refine ⟨hpermits.trans h.permits, ?_, ?_, ?_, ?_⟩
  · have hbefore := h.held
    simp only [running, countP_tasks] at hbefore ⊢
    simp only [Call.running, tasks] at *
    omega
  · have hbefore := h.dispatched
    simp only [List.length_append, List.length_cons] at hbefore ⊢
    omega
  · have hbefore := h.errors
    simp only [Workload.errors, countP_tasks] at hbefore ⊢
    simp only [Call.errors, tasks] at *
    omega
  · intro other hother
    rcases List.mem_append.mp hother with hother | hother
    · exact h.calls other (List.mem_append_left _ hother)
    · rcases List.mem_cons.mp hother with rfl | hother
      · exact hsound
      · exact h.calls other (List.mem_append_right _ (List.mem_cons_of_mem call hother))

theorem Sound.step {start : Dispatcher} {w after : Workload η} (h : Sound start w)
    (hs : Step w after) : Sound start after := by
  cases hs with
  | enter d free calls event arrival =>
    have hheld := h.held
    have hdispatched := h.dispatched
    have herrors := h.errors
    refine ⟨h.permits, ?_, ?_, ?_, ?_⟩
    · simpa [running, tasks] using hheld
    · simp only [List.length_append, List.length_singleton] at hdispatched ⊢
      omega
    · simpa [Workload.errors, tasks] using herrors
    · intro call hcall
      rcases List.mem_append.mp hcall with hcall | hcall
      · exact h.calls call hcall
      · rw [List.mem_singleton.mp hcall]
        exact ⟨rfl, by simp, by simp⟩
  | lookUp d free front back call registry hnone =>
    have hcall := h.calls call (by simp)
    have htasks : call.tasks = [] := by simpa [Call.wanted, hnone] using hcall.wanted
    refine h.replace rfl rfl ?_ ?_ (hcall.lookUp hnone registry)
    · simp [Call.running, Call.lookUp, htasks, List.countP_map, Function.comp_def]
    · simp [Call.errors, Call.lookUp, htasks, List.countP_map, Function.comp_def, Stage.isError]
  | acquire d free front back call left right subscription htasks =>
    refine h.replace rfl rfl ?_ ?_ ((h.calls call (by simp)).goOn htasks rfl rfl rfl)
    · simp only [Call.running, htasks, List.countP_append, List.countP_cons]
      simp
      omega
    · simp [Call.errors, htasks, Stage.isError]
  | finish d free front back call left right subscription outcome htasks =>
    refine h.replace rfl rfl ?_ ?_ ((h.calls call (by simp)).goOn htasks rfl rfl rfl)
    · simp only [Call.running, htasks, List.countP_append, List.countP_cons]
      simp
      omega
    · simp [Call.errors, htasks, Stage.isError]
  | join d free front back call left right subscription outcome htasks =>
    refine h.replace rfl rfl ?_ ?_ ((h.calls call (by simp)).goOn htasks rfl rfl rfl)
    · simp [Call.running, htasks]
    · simp only [Call.errors, htasks, List.countP_append, List.countP_cons, Stage.isError]
      simp
      omega
  | «return» d free front back call hlooked hopen hjoined =>
    exact h.replace rfl rfl rfl rfl ((h.calls call (by simp)).answer hlooked hjoined)

theorem Reachable.sound {start : Dispatcher} {w : Workload η} (h : Reachable (idle start) w) :
    Sound start w := by
  induction h with
  | refl => exact sound_idle start
  | step h hs ih => exact ih.step hs

theorem Sound.errors_of_returned {start : Dispatcher} {w : Workload η} (h : Sound start w)
    (hreturned : ∀ call ∈ w.calls, call.returned.isSome = true) :
    w.dispatcher.errors = start.errors + w.outcomes.countP (·.isError) := by
  have hjoined : ∀ task ∈ w.tasks, task.stage.isJoined = true := by
    intro task ht
    obtain ⟨call, hcall, ht⟩ := List.mem_flatMap.mp ht
    exact (h.calls call hcall).joined_of_returned (hreturned call hcall) task ht
  rw [h.errors, Workload.errors, countP_isError hjoined, outcomes]

/-- Whatever the schedule, no more handlers run at once than there are permits, and each permit that
is taken is given back. Once all dispatches have returned, each has called everyone who wanted its
event when it looked, once, and said how many they were, and all dispatches and all handlers that
failed or panicked are counted. -/
theorem bounded_and_isolated {permits dispatched errors : Nat} {w : Workload η}
    (h : Reachable (idle { Dispatcher.new permits with dispatched, errors }) w) :
    w.running ≤ max permits 1 ∧ w.running + w.free = max permits 1 ∧
      ((∀ call ∈ w.calls, call.returned.isSome = true) →
        (∀ call ∈ w.calls, ∃ registry, call.registry = some registry ∧
          call.invoked.Perm (registry.matching call.arrival.topic) ∧
          call.returned = some (registry.matching call.arrival.topic).length) ∧
        w.dispatcher.dispatched = dispatched + w.calls.length ∧
        w.dispatcher.errors = errors + w.outcomes.countP (·.isError)) := by
  have hsound := h.sound
  have hheld : w.running + w.free = max permits 1 := hsound.held
  refine ⟨by omega, hheld, fun hreturned => ?_⟩
  have hcalls : ∀ call ∈ w.calls, ∃ registry, call.registry = some registry ∧
      call.invoked.Perm (registry.matching call.arrival.topic) ∧
      call.returned = some (registry.matching call.arrival.topic).length := fun call hcall =>
    (hsound.calls call hcall).of_returned (hreturned call hcall)
  exact ⟨hcalls, hsound.dispatched, hsound.errors_of_returned hreturned⟩

/-- One permit, a subscription whose handler panics, and a second event that nobody wants. -/
def panicked : Workload Unit :=
  let event : Event := .new ⟨"1", .epoch⟩ "a" .null
  let subscription : Subscription Unit := { id := "s", topics := ["a", "#"], handler := () }
  { dispatcher := ⟨1, 2, 1⟩
    free := 1
    calls :=
      [{ event, arrival := ⟨"a", "local", none, none⟩,
         registry := some ⟨SortedMap.empty.insert "s" subscription⟩,
         tasks := [⟨subscription, .joined .panicked⟩], invoked := [subscription],
         returned := some 1 },
       { event, arrival := ⟨"b", "local", none, none⟩, registry := some .empty,
         returned := some 0 }] }

theorem bounded_and_isolated_panicked :
    Reachable (idle { Dispatcher.new 0 with dispatched := 0, errors := 0 }) panicked ∧
      (∀ call ∈ panicked.calls, call.returned.isSome = true) ∧
      panicked.running ≤ max 0 1 ∧ panicked.running + panicked.free = max 0 1 ∧
      (∀ call ∈ panicked.calls, ∃ registry, call.registry = some registry ∧
        call.invoked.Perm (registry.matching call.arrival.topic) ∧
        call.returned = some (registry.matching call.arrival.topic).length) ∧
      panicked.dispatcher.dispatched = 0 + panicked.calls.length ∧
      panicked.dispatcher.errors = 0 + panicked.outcomes.countP (·.isError) := by
  have hstart : Reachable (idle { Dispatcher.new 0 with dispatched := 0, errors := 0 })
      (idle { Dispatcher.new 0 with dispatched := 0, errors := 0 } : Workload Unit) := .refl
  have hentered := (hstart.step (.enter _ _ _ (.new ⟨"1", .epoch⟩ "a" .null)
    ⟨"a", "local", none, none⟩)).step (.enter _ _ _ (.new ⟨"1", .epoch⟩ "a" .null)
    ⟨"b", "local", none, none⟩)
  have hlooked := (hentered.step (.lookUp _ _ [] [_] _ ⟨SortedMap.empty.insert "s"
    { id := "s", topics := ["a", "#"], handler := () }⟩ rfl)).step (.lookUp _ _ [_] [] _ .empty rfl)
  have hended := (hlooked.step (.acquire _ 0 [] [_] _ [] [] _ rfl)).step
    (.finish _ _ [] [_] _ [] [] _ .panicked rfl)
  have hjoined := hended.step (.join _ _ [] [_] _ [] [] _ _ rfl)
  have hreturned := (hjoined.step (.return _ _ [] [_] _ rfl rfl (by decide))).step
    (.return _ _ [_] [] _ rfl rfl (by decide))
  have hreachable : Reachable (idle { Dispatcher.new 0 with dispatched := 0, errors := 0 })
      panicked := hreturned
  have hanswered : ∀ call ∈ panicked.calls, call.returned.isSome = true := by decide
  obtain ⟨hbound, hheld, hall⟩ := bounded_and_isolated hreachable
  exact ⟨hreachable, hanswered, hbound, hheld, hall hanswered⟩

theorem dispatch_of_returned {call : Call η} (hsound : call.Sound)
    (hreturned : call.returned.isSome = true) {behave : Behaviour η}
    (hbehave : ∀ task ∈ call.tasks, task.stage.outcome? =
      some (behave task.subscription.handler call.event call.arrival)) (d : Dispatcher) :
    (d.dispatch behave (call.registry.getD .empty) call.event call.arrival).1 =
      { d with dispatched := d.dispatched + 1, errors := d.errors + call.errors } := by
  obtain ⟨registry, hregistry, -, -⟩ := hsound.of_returned hreturned
  have hwanted : registry.matching call.arrival.topic = call.tasks.map (·.subscription) := by
    rw [hsound.wanted, Call.wanted, hregistry]
    rfl
  have hcount : (call.tasks.map (·.subscription)).countP
      (fun s => (behave s.handler call.event call.arrival).isError) = call.errors := by
    rw [List.countP_map, Call.errors]
    refine List.countP_congr fun task ht => ?_
    have hended := hbehave task ht
    have hjoined := hsound.joined_of_returned hreturned task ht
    cases hcase : task.stage with
    | joined outcome =>
      rw [hcase, Stage.outcome?] at hended
      simp [Stage.isError, ← Option.some.inj hended]
    | waiting | running | ended outcome => simp [hcase, Stage.isJoined] at hjoined
  simp only [dispatch, hregistry, Option.getD_some, hwanted, hcount]

/-- Once all dispatches have returned, the dispatcher is as if they had been made one after the
other, in the order in which they were asked for. -/
theorem dispatcher_eq_foldl {start : Dispatcher} {w : Workload η}
    (h : Reachable (idle start) w) (hreturned : ∀ call ∈ w.calls, call.returned.isSome = true)
    {behave : Behaviour η} (hbehave : ∀ call ∈ w.calls, ∀ task ∈ call.tasks,
      task.stage.outcome? = some (behave task.subscription.handler call.event call.arrival)) :
    w.dispatcher = w.calls.foldl (fun d call =>
      (d.dispatch behave (call.registry.getD .empty) call.event call.arrival).1) start := by
  have hsound := h.sound
  have hfold : ∀ calls : List (Call η), (∀ call ∈ calls, call ∈ w.calls) → ∀ d : Dispatcher,
      calls.foldl (fun d call =>
        (d.dispatch behave (call.registry.getD .empty) call.event call.arrival).1) d =
        { d with
          dispatched := d.dispatched + calls.length
          errors := d.errors +
            (calls.flatMap (·.tasks)).countP fun task => task.stage.isError } := by
    intro calls
    induction calls with
    | nil => exact fun _ _ => rfl
    | cons call rest ih =>
      intro hmem d
      have hcall := hmem call List.mem_cons_self
      rw [List.foldl_cons, dispatch_of_returned (hsound.calls call hcall) (hreturned call hcall)
        (hbehave call hcall), ih fun other hother => hmem other (List.mem_cons_of_mem call hother)]
      simp only [Call.errors, List.length_cons, List.flatMap_cons, List.countP_append,
        Dispatcher.mk.injEq, true_and]
      omega
  rw [hfold w.calls (fun _ hcall => hcall)]
  have hpermits := hsound.permits
  have hdispatched := hsound.dispatched
  have herrors := hsound.errors
  simp only [Workload.errors, tasks] at herrors
  rw [← hpermits, ← hdispatched, ← herrors]

end Workload
end EventBus.Dispatcher
