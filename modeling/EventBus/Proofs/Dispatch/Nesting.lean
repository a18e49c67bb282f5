import EventBus.Proofs.Dispatch.Schedule
import EventBus.Proofs.Splice
import EventBus.Service

namespace EventBus.Dispatcher

open EventBus.Splice (mem_replace getElem?_replace)

variable {η : Type u}

inductive Script where
  | done (outcome : Outcome)
  /-- It dispatches an event of its own, and goes on when it knows how many were called. -/
  | dispatch (event : Event) (topic : Option String) (next : Nat → Script)

abbrev Conduct (η : Type u) := η → Event → Arrival → Script

namespace Nest

inductive Stage where
  | waiting
  | running (script : Script)
  /-- It holds a permit, and waits for the answer to a dispatch of its own. -/
  | awaiting (dispatch : Nat) (next : Nat → Script)
  | ended (outcome : Outcome)
  | joined (outcome : Outcome)

namespace Stage

/-- Whether it is seen that a handler waits for a dispatch. -/
def plain : Stage → Dispatcher.Stage
  | .waiting => .waiting
  | .running _ | .awaiting _ _ => .running
  | .ended outcome => .ended outcome
  | .joined outcome => .joined outcome

def isAwaiting : Stage → Bool
  | .awaiting _ _ => true
  | .waiting | .running _ | .ended _ | .joined _ => false

/-- It has a permit, or waits for one. -/
def isPending : Stage → Bool
  | .waiting | .running _ | .awaiting _ _ => true
  | .ended _ | .joined _ => false

end Stage

structure Task (η : Type u) where
  subscription : Subscription η
  stage : Stage := .waiting

def Task.plain (task : Task η) : Dispatcher.Task η := ⟨task.subscription, task.stage.plain⟩

/-- A dispatch that was asked for, by a handler or by anyone else. -/
structure Call (η : Type u) where
  event : Event
  arrival : Arrival
  /-- The registry that it looked up who wants the event in. -/
  registry : Option (Registry η) := none
  tasks : List (Task η) := []
  /-- Whose handlers were called so far. -/
  invoked : List (Subscription η) := []
  returned : Option Nat := none

namespace Call

def lookUp (c : Call η) (registry : Registry η) : Call η :=
  { c with
    registry := some registry
    tasks := (registry.matching c.arrival.topic).map fun subscription => ⟨subscription, .waiting⟩ }

def plain (c : Call η) : Dispatcher.Call η :=
  ⟨c.event, c.arrival, c.registry, c.tasks.map (·.plain), c.invoked, c.returned⟩

end Call
end Nest

/-- A dispatcher with all that it was asked to do, handlers among those who asked. -/
structure Nest (η : Type u) where
  dispatcher : Dispatcher
  registry : Registry η
  free : Nat
  calls : List (Nest.Call η) := []

namespace Nest

def idle (d : Dispatcher) (registry : Registry η) : Nest η :=
  { dispatcher := d, registry, free := d.permits }

def tasks (n : Nest η) : List (Task η) := n.calls.flatMap (·.tasks)

/-- The handlers that wait for a dispatch of their own. -/
def awaiting (n : Nest η) : Nat := n.tasks.countP (·.stage.isAwaiting)

/-- How it looks when a handler that waits cannot be told from one that is busy. -/
def plain (n : Nest η) : Workload η := ⟨n.dispatcher, n.free, n.calls.map (·.plain)⟩

/-- One step of a dispatch or of one of its tasks. -/
inductive Move (conduct : Conduct η) : Nest η → Nest η → Prop where
  | lookUp (d : Dispatcher) (registry : Registry η) (free : Nat) (front back : List (Call η))
      (call : Call η) (h : call.registry = none) :
    Move conduct ⟨d, registry, free, front ++ call :: back⟩
      ⟨d, registry, free, front ++ call.lookUp registry :: back⟩
  | acquire (d : Dispatcher) (registry : Registry η) (free : Nat) (front back : List (Call η))
      (call : Call η) (left right : List (Task η)) (subscription : Subscription η)
      (h : call.tasks = left ++ ⟨subscription, .waiting⟩ :: right) :
    Move conduct ⟨d, registry, free + 1, front ++ call :: back⟩
      ⟨d, registry, free, front ++ { call with
        tasks := left ++
          ⟨subscription, .running (conduct subscription.handler call.event call.arrival)⟩ :: right
        invoked := call.invoked ++ [subscription] } :: back⟩
  | dispatch (d : Dispatcher) (registry : Registry η) (free : Nat) (front back : List (Call η))
      (call : Call η) (left right : List (Task η)) (subscription : Subscription η) (event : Event)
      (topic : Option String) (next : Nat → Script)
      (h : call.tasks = left ++ ⟨subscription, .running (.dispatch event topic next)⟩ :: right) :
    Move conduct ⟨d, registry, free, front ++ call :: back⟩
      ⟨{ d with dispatched := d.dispatched + 1 }, registry, free, front ++ { call with
        tasks := left ++
          ⟨subscription, .awaiting (front ++ call :: back).length next⟩ :: right } ::
        (back ++ [{ event, arrival := Service.localArrival event topic }])⟩
  | resume (d : Dispatcher) (registry : Registry η) (free : Nat) (front back : List (Call η))
      (call : Call η) (left right : List (Task η)) (subscription : Subscription η)
      (number : Nat) (next : Nat → Script) (nested : Call η) (answer : Nat)
      (h : call.tasks = left ++ ⟨subscription, .awaiting number next⟩ :: right)
      (hnested : (front ++ call :: back)[number]? = some nested)
      (hreturned : nested.returned = some answer) :
    Move conduct ⟨d, registry, free, front ++ call :: back⟩
      ⟨d, registry, free, front ++ { call with
        tasks := left ++ ⟨subscription, .running (next answer)⟩ :: right } :: back⟩
  | finish (d : Dispatcher) (registry : Registry η) (free : Nat) (front back : List (Call η))
      (call : Call η) (left right : List (Task η)) (subscription : Subscription η)
      (outcome : Outcome)
      (h : call.tasks = left ++ ⟨subscription, .running (.done outcome)⟩ :: right) :
    Move conduct ⟨d, registry, free, front ++ call :: back⟩
      ⟨d, registry, free + 1, front ++ { call with
        tasks := left ++ ⟨subscription, .ended outcome⟩ :: right } :: back⟩
  | join (d : Dispatcher) (registry : Registry η) (free : Nat) (front back : List (Call η))
      (call : Call η) (left right : List (Task η)) (subscription : Subscription η)
      (outcome : Outcome) (h : call.tasks = left ++ ⟨subscription, .ended outcome⟩ :: right) :
    Move conduct ⟨d, registry, free, front ++ call :: back⟩
      ⟨{ d with errors := d.errors + if outcome.isError then 1 else 0 }, registry, free,
        front ++ { call with tasks := left ++ ⟨subscription, .joined outcome⟩ :: right } :: back⟩
  | return (d : Dispatcher) (registry : Registry η) (free : Nat) (front back : List (Call η))
      (call : Call η) (hlooked : call.registry.isSome = true) (hopen : call.returned = none)
      (hjoined : ∀ task ∈ call.tasks, task.stage.plain.isJoined = true) :
    Move conduct ⟨d, registry, free, front ++ call :: back⟩
      ⟨d, registry, free, front ++ { call with returned := some call.tasks.length } :: back⟩

inductive Step (conduct : Conduct η) : Nest η → Nest η → Prop where
  | move {n after : Nest η} (h : Move conduct n after) : Step conduct n after
  | enter (n : Nest η) (event : Event) (arrival : Arrival) :
    Step conduct n { n with
      dispatcher := { n.dispatcher with dispatched := n.dispatcher.dispatched + 1 }
      calls := n.calls ++ [{ event, arrival }] }
  | change (n : Nest η) (registry : Registry η) : Step conduct n { n with registry }

inductive Reachable (conduct : Conduct η) (start : Nest η) : Nest η → Prop where
  | refl : Reachable conduct start start
  | step {n after : Nest η} (h : Reachable conduct start n) (hs : Step conduct n after) :
    Reachable conduct start after

variable {conduct : Conduct η} {start n after : Nest η} {front back calls : List (Call η)}
  {call next : Call η}

theorem Call.plain_lookUp (c : Call η) (registry : Registry η) :
    (c.lookUp registry).plain = c.plain.lookUp registry := by
  simp [Call.lookUp, Call.plain, Dispatcher.Call.lookUp, Task.plain, Stage.plain,
    Function.comp_def]

theorem Call.plain_new (event : Event) (arrival : Arrival) :
    Call.plain ({ event, arrival } : Call η) = { event, arrival } := rfl

section Plain
variable {left right : List (Task η)} {subscription : Subscription η} {stage : Stage}
  {invoked : List (Subscription η)}

theorem Call.plain_tasks (h : call.tasks = left ++ ⟨subscription, stage⟩ :: right) :
    call.plain.tasks =
      left.map (·.plain) ++ ⟨subscription, stage.plain⟩ :: right.map (·.plain) := by
  simp [Call.plain, h, Task.plain]

theorem Call.plain_goOn : Call.plain { call with
      tasks := left ++ ⟨subscription, stage⟩ :: right, invoked } =
    { call.plain with
      tasks := left.map (·.plain) ++ ⟨subscription, stage.plain⟩ :: right.map (·.plain)
      invoked } := by
  simp [Call.plain, Task.plain]

theorem Call.plain_same (stage : Stage) {before : Stage}
    (h : call.tasks = left ++ ⟨subscription, before⟩ :: right)
    (hsame : stage.plain = before.plain) :
    Call.plain { call with tasks := left ++ ⟨subscription, stage⟩ :: right } = call.plain := by
  simp [Call.plain, h, Task.plain, hsame]

end Plain

theorem Move.plain (h : Move conduct n after) :
    after.plain = n.plain ∨ Workload.Step n.plain after.plain := by
  cases h with
  | lookUp d registry free front back call h =>
    right
    simp only [Nest.plain, List.map_append, List.map_cons, Call.plain_lookUp]
    exact .lookUp d free _ _ call.plain registry h
  | acquire d registry free front back call left right subscription h =>
    right
    simp only [Nest.plain, List.map_append, List.map_cons, Call.plain_goOn]
    exact .acquire d free _ _ call.plain _ _ subscription (Call.plain_tasks h)
  | dispatch d registry free front back call left right subscription event topic next h =>
    right
    have hsame := Call.plain_same (.awaiting (front ++ call :: back).length next) h rfl
    simp only [Nest.plain, List.map_append, List.map_cons, hsame]
    have henter := Workload.Step.enter d free (List.map (·.plain) (front ++ call :: back)) event
      (Service.localArrival event topic)
    simpa [Call.plain_new] using henter
  | resume d registry free front back call left right subscription number next nested answer h =>
    left
    have hsame := Call.plain_same (.running (next answer)) h rfl
    simp only [Nest.plain, List.map_append, List.map_cons, hsame]
  | finish d registry free front back call left right subscription outcome h =>
    right
    simp only [Nest.plain, List.map_append, List.map_cons, Call.plain_goOn]
    exact .finish d free _ _ call.plain _ _ subscription outcome (Call.plain_tasks h)
  | join d registry free front back call left right subscription outcome h =>
    right
    simp only [Nest.plain, List.map_append, List.map_cons, Call.plain_goOn]
    exact .join d free _ _ call.plain _ _ subscription outcome (Call.plain_tasks h)
  | «return» d registry free front back call hlooked hopen hjoined =>
    right
    simp only [Nest.plain, List.map_append, List.map_cons]
    have hjoinedPlain : ∀ task ∈ call.plain.tasks, task.stage.isJoined = true := by
      simpa [Call.plain, Task.plain] using hjoined
    have hreturn := Workload.Step.return d free (front.map (·.plain)) (back.map (·.plain))
      call.plain hlooked hopen hjoinedPlain
    simpa [Call.plain] using hreturn

theorem Step.plain (h : Step conduct n after) :
    after.plain = n.plain ∨ Workload.Step n.plain after.plain := by
  cases h with
  | move h => exact h.plain
  | enter event arrival =>
    right
    simp only [Nest.plain, List.map_append, List.map_cons, List.map_nil, Call.plain_new]
    exact .enter n.dispatcher n.free _ event arrival
  | change registry => exact .inl rfl

theorem Step.sound {d : Dispatcher} (h : Step conduct n after) (hsound : Workload.Sound d n.plain) :
    Workload.Sound d after.plain := by
  rcases h.plain with hsame | hstep
  · rwa [hsame]
  · exact hsound.step hstep

theorem tasks_of_unlooked {d : Dispatcher} (h : Workload.Sound d n.plain) (hcall : call ∈ n.calls)
    (hnone : call.registry = none) : call.tasks = [] := by
  have hwanted := (h.calls call.plain (List.mem_map_of_mem hcall)).wanted
  simpa [Call.plain, Dispatcher.Call.wanted, hnone] using hwanted

/-- A task waits for a dispatch that comes after the one with this number. -/
def Task.Later (calls : List (Call η)) (i : Nat) (task : Task η) : Prop :=
  ∀ k next, task.stage = .awaiting k next → i < k ∧ k < calls.length

def Later (calls : List (Call η)) : Prop :=
  ∀ (i : Nat) call, calls[i]? = some call → ∀ task ∈ call.tasks, task.Later calls i

theorem Later.replace (h : Later (front ++ call :: back))
    (hnext : ∀ task ∈ next.tasks, task.Later (front ++ call :: back) front.length) :
    Later (front ++ next :: back) := by
  have hlength : (front ++ next :: back).length = (front ++ call :: back).length := by simp
  intro i other hother task hmem k script hstage
  rw [hlength]
  rw [getElem?_replace front back call next] at hother
  split at hother
  · next hi =>
    obtain rfl := Option.some.inj hother
    rw [hi]
    exact hnext task hmem k script hstage
  · exact h i other hother task hmem k script hstage

theorem Later.snoc (h : Later calls) (next : Call η) (hnew : next.tasks = []) :
    Later (calls ++ [next]) := by
  intro i call hcall task hmem k script hstage
  rw [List.getElem?_append] at hcall
  split at hcall
  · have hlater := h i call hcall task hmem k script hstage
    simp only [List.length_append]
    omega
  · obtain ⟨-, rfl⟩ : _ ∧ next = call := by
      simpa [List.getElem?_singleton] using hcall
    simp [hnew] at hmem

theorem Later.goOn {left right : List (Task η)} {subscription : Subscription η}
    {before stage : Stage} {invoked : List (Subscription η)} (h : Later (front ++ call :: back))
    (htasks : call.tasks = left ++ ⟨subscription, before⟩ :: right)
    (hstage : Task.Later (front ++ call :: back) front.length ⟨subscription, stage⟩) :
    Later (front ++ { call with
      tasks := left ++ ⟨subscription, stage⟩ :: right, invoked } :: back) := by
  refine h.replace fun task hmem => ?_
  rcases mem_replace ⟨subscription, before⟩ hmem with rfl | hmem
  · exact hstage
  · exact h front.length call (by simp) task (htasks ▸ hmem)

theorem Later.move (h : Later n.calls) (hm : Move conduct n after) : Later after.calls := by
  cases hm with
  | lookUp d registry free front back call =>
    refine h.replace fun task hmem => ?_
    obtain ⟨subscription, -, rfl⟩ := List.mem_map.mp hmem
    exact nofun
  | acquire _ _ _ _ _ _ _ _ _ htasks => exact h.goOn htasks nofun
  | dispatch d registry free front back call left right subscription event topic next htasks =>
    have hmore := h.snoc { event, arrival := Service.localArrival event topic } rfl
    simp only [List.append_assoc, List.cons_append] at hmore
    refine hmore.goOn htasks ?_
    rintro k script ⟨⟩
    simp
  | resume _ _ _ _ _ _ _ _ _ _ _ _ _ htasks => exact h.goOn htasks nofun
  | finish _ _ _ _ _ _ _ _ _ _ htasks => exact h.goOn htasks nofun
  | join _ _ _ _ _ _ _ _ _ _ htasks => exact h.goOn htasks nofun
  | «return» d registry free front back call =>
    exact h.replace (h front.length call (by simp))

theorem Later.step (h : Later n.calls) (hs : Step conduct n after) : Later after.calls := by
  cases hs with
  | move hm => exact h.move hm
  | enter event arrival => exact h.snoc { event, arrival } rfl
  | change => exact h

def Stuck (conduct : Conduct η) (n : Nest η) : Prop := ∀ after, ¬Move conduct n after

/-- A dispatch that has not answered, and has a task that is not over. -/
structure Call.Pending (c : Call η) : Prop where
  returned : c.returned = none
  task : ∃ task ∈ c.tasks, task.stage.isPending = true

theorem Call.Pending.not_joined (h : call.Pending)
    (hjoined : ∀ task ∈ call.tasks, task.stage.plain.isJoined = true) : False := by
  obtain ⟨task, htask, hpending⟩ := h.task
  have hover := hjoined task htask
  cases hstage : task.stage <;>
    simp [hstage, Stage.isPending, Stage.plain, Dispatcher.Stage.isJoined] at hpending hover

namespace Stuck

variable {task : Task η} {d : Dispatcher}

theorem not_running (h : Stuck conduct n) (hcall : call ∈ n.calls) (htask : task ∈ call.tasks)
    (script : Script) : task.stage ≠ .running script := by
  obtain ⟨dispatcher, registry, free, calls⟩ := n
  obtain ⟨subscription, stage⟩ := task
  obtain ⟨front, back, rfl⟩ := List.append_of_mem hcall
  obtain ⟨left, right, htasks⟩ := List.append_of_mem htask
  rintro rfl
  cases script with
  | done outcome => exact h _ (.finish _ _ _ _ _ _ _ _ _ _ htasks)
  | dispatch event topic next => exact h _ (.dispatch _ _ _ _ _ _ _ _ _ _ _ _ htasks)

theorem not_ended (h : Stuck conduct n) (hcall : call ∈ n.calls) (htask : task ∈ call.tasks)
    (outcome : Outcome) : task.stage ≠ .ended outcome := by
  obtain ⟨dispatcher, registry, free, calls⟩ := n
  obtain ⟨subscription, stage⟩ := task
  obtain ⟨front, back, rfl⟩ := List.append_of_mem hcall
  obtain ⟨left, right, htasks⟩ := List.append_of_mem htask
  rintro rfl
  exact h _ (.join _ _ _ _ _ _ _ _ _ _ htasks)

theorem free_of_waiting (h : Stuck conduct n) (hcall : call ∈ n.calls) (htask : task ∈ call.tasks)
    (hstage : task.stage = .waiting) : n.free = 0 := by
  obtain ⟨dispatcher, registry, free, calls⟩ := n
  obtain ⟨subscription, stage⟩ := task
  obtain ⟨front, back, rfl⟩ := List.append_of_mem hcall
  obtain ⟨left, right, htasks⟩ := List.append_of_mem htask
  obtain rfl : stage = .waiting := hstage
  cases free with
  | zero => rfl
  | succ free => exact absurd (.acquire _ _ _ _ _ _ _ _ _ htasks) (h _)

theorem returned_of_awaiting (h : Stuck conduct n) (hcall : call ∈ n.calls)
    (htask : task ∈ call.tasks) {k : Nat} {script : Nat → Script} {nested : Call η}
    (hstage : task.stage = .awaiting k script) (hnested : n.calls[k]? = some nested) :
    nested.returned = none := by
  obtain ⟨dispatcher, registry, free, calls⟩ := n
  obtain ⟨subscription, stage⟩ := task
  obtain ⟨front, back, rfl⟩ := List.append_of_mem hcall
  obtain ⟨left, right, htasks⟩ := List.append_of_mem htask
  obtain rfl : stage = .awaiting k script := hstage
  cases hreturned : nested.returned with
  | none => rfl
  | some answer =>
    exact absurd (.resume _ _ _ _ _ _ _ _ _ _ _ _ _ htasks hnested hreturned) (h _)

theorem pending (h : Stuck conduct n) (hcall : call ∈ n.calls) (hopen : call.returned = none) :
    call.Pending := by
  refine ⟨hopen, Classical.byContradiction fun hnone => ?_⟩
  have hover : ∀ task ∈ call.tasks, task.stage.isPending = false := fun task htask =>
    Bool.eq_false_iff.mpr fun hpending => hnone ⟨task, htask, hpending⟩
  have hjoined : ∀ task ∈ call.tasks, task.stage.plain.isJoined = true := by
    intro task htask
    have hpending := hover task htask
    cases hstage : task.stage with
    | joined outcome => rfl
    | ended outcome => exact absurd hstage (h.not_ended hcall htask outcome)
    | waiting | running script | awaiting k script => simp [hstage, Stage.isPending] at hpending
  obtain ⟨dispatcher, registry, free, calls⟩ := n
  obtain ⟨front, back, rfl⟩ := List.append_of_mem hcall
  cases hlooked : call.registry with
  | none => exact h _ (.lookUp _ _ _ _ _ _ hlooked)
  | some looked => exact h _ (.return _ _ _ _ _ _ (by simp [hlooked]) hopen hjoined)

/-- A dispatch that waits for a task that waits for a dispatch, and so on, comes to a task that
waits for a permit, since each of these dispatches is later than the one before. -/
theorem free_eq_zero (h : Stuck conduct n) (hlater : Later n.calls) {i : Nat} {call : Call η}
    (hcall : n.calls[i]? = some call) (hopen : call.returned = none) : n.free = 0 := by
  have hmem : call ∈ n.calls := List.mem_of_getElem? hcall
  obtain ⟨task, htask, hpending⟩ := (h.pending hmem hopen).task
  cases hstage : task.stage with
  | waiting => exact h.free_of_waiting hmem htask hstage
  | running script => exact absurd hstage (h.not_running hmem htask script)
  | awaiting k script =>
    obtain ⟨hlt, hk⟩ := hlater i call hcall task htask k script hstage
    have hnested : n.calls[k]? = some n.calls[k] := List.getElem?_eq_getElem hk
    exact h.free_eq_zero hlater hnested (h.returned_of_awaiting hmem htask hstage hnested)
  | ended outcome | joined outcome => simp [hstage, Stage.isPending] at hpending
termination_by n.calls.length - i

end Stuck

/-- All permits are with handlers that wait for dispatches that are not over. -/
structure Deadlocked (n : Nest η) : Prop where
  free : n.free = 0
  awaits : ∀ call ∈ n.calls, ∀ task ∈ call.tasks, task.stage.plain = .running →
    ∃ k script nested, task.stage = .awaiting k script ∧ n.calls[k]? = some nested ∧ nested.Pending

theorem Stuck.deadlocked (h : Stuck conduct n) (hlater : Later n.calls) (hcall : call ∈ n.calls)
    (hopen : call.returned = none) : n.Deadlocked := by
  obtain ⟨i, hi⟩ := List.getElem?_of_mem hcall
  refine ⟨h.free_eq_zero hlater hi hopen, fun other hother task htask hheld => ?_⟩
  cases hstage : task.stage with
  | running script => exact absurd hstage (h.not_running hother htask script)
  | awaiting k script =>
    obtain ⟨j, hj⟩ := List.getElem?_of_mem hother
    obtain ⟨-, hk⟩ := hlater j other hj task htask k script hstage
    have hnested : n.calls[k]? = some n.calls[k] := List.getElem?_eq_getElem hk
    exact ⟨k, script, _, rfl, hnested, h.pending (List.getElem_mem hk)
      (h.returned_of_awaiting hother htask hstage hnested)⟩
  | waiting | ended outcome | joined outcome => simp [hstage, Stage.plain] at hheld

namespace Deadlocked

variable {d : Dispatcher} {registry : Registry η} {left right : List (Task η)}
  {subscription : Subscription η}

theorem not_running (h : Deadlocked n) (hcall : call ∈ n.calls) {script : Script} :
    call.tasks ≠ left ++ ⟨subscription, .running script⟩ :: right := by
  intro htasks
  obtain ⟨k, next, nested, hstage, -⟩ :=
    h.awaits call hcall ⟨subscription, .running script⟩ (by rw [htasks]; simp) rfl
  cases hstage

theorem not_returned (h : Deadlocked n) (hcall : call ∈ n.calls) {k : Nat} {next : Nat → Script}
    (htasks : call.tasks = left ++ ⟨subscription, .awaiting k next⟩ :: right) {nested : Call η}
    (hnested : n.calls[k]? = some nested) {answer : Nat} : nested.returned ≠ some answer := by
  obtain ⟨other, script, found, hstage, hfound, hpending⟩ :=
    h.awaits call hcall ⟨subscription, .awaiting k next⟩ (by rw [htasks]; simp) rfl
  cases hstage
  obtain rfl := Option.some.inj (hfound.symm.trans hnested)
  simp [hpending.returned]

/-- A dispatch goes on. None of its tasks gets a permit, and those that are not over stay so. -/
theorem replace (h : Deadlocked ⟨d, registry, 0, front ++ call :: back⟩) {after : Dispatcher}
    (hheld : ∀ task ∈ next.tasks, task.stage.plain = .running → task ∈ call.tasks)
    (hpending : call.Pending → next.Pending) :
    Deadlocked ⟨after, registry, 0, front ++ next :: back⟩ := by
  have hold : ∀ other ∈ front ++ next :: back, ∀ task ∈ other.tasks,
      task.stage.plain = .running → ∃ k script nested, task.stage = .awaiting k script ∧
        (front ++ call :: back)[k]? = some nested ∧ nested.Pending := by
    intro other hother task htask hrunning
    rcases mem_replace call hother with rfl | hother
    · exact h.awaits call (by simp) task (hheld task htask hrunning) hrunning
    · exact h.awaits other hother task htask hrunning
  refine ⟨rfl, fun other hother task htask hrunning => ?_⟩
  obtain ⟨k, script, nested, hstage, hnested, hopen⟩ := hold other hother task htask hrunning
  by_cases hk : k = front.length
  · have hsame : nested = call := by simpa [hk] using hnested.symm
    exact ⟨k, script, next, hstage, by simp [hk], hpending (hsame ▸ hopen)⟩
  · refine ⟨k, script, nested, hstage, ?_, hopen⟩
    rw [getElem?_replace front back call next, if_neg hk]
    exact hnested

theorem move (h : Deadlocked n) (hsound : Workload.Sound d n.plain)
    (hm : Move conduct n after) : Deadlocked after := by
  cases hm with
  | lookUp dispatcher registry free front back call hnone =>
    obtain rfl : free = 0 := h.free
    refine h.replace (fun task htask hrunning => ?_) fun hpending => ?_
    · obtain ⟨subscription, -, rfl⟩ := List.mem_map.mp htask
      cases hrunning
    · obtain ⟨task, htask, -⟩ := hpending.task
      rw [tasks_of_unlooked hsound (by simp) hnone] at htask
      cases htask
  | acquire => exact absurd h.free (Nat.succ_ne_zero _)
  | dispatch _ _ _ _ _ call _ _ _ _ _ _ htasks => exact absurd htasks (h.not_running (by simp))
  | resume _ _ _ _ _ call _ _ _ _ _ _ _ htasks hnested hreturned =>
    exact absurd hreturned (h.not_returned (by simp) htasks hnested)
  | finish _ _ _ _ _ call _ _ _ _ htasks => exact absurd htasks (h.not_running (by simp))
  | join dispatcher registry free front back call left right subscription outcome htasks =>
    obtain rfl : free = 0 := h.free
    refine h.replace (fun task htask hrunning => ?_) fun hpending => ⟨hpending.returned, ?_⟩
    · rcases mem_replace ⟨subscription, .ended outcome⟩ htask with rfl | htask
      · cases hrunning
      · exact htasks ▸ htask
    · obtain ⟨task, htask, hopen⟩ := hpending.task
      rw [htasks] at htask
      rcases mem_replace ⟨subscription, .joined outcome⟩ htask with rfl | htask
      · cases hopen
      · exact ⟨task, htask, hopen⟩
  | «return» dispatcher registry free front back call hlooked hopen hjoined =>
    obtain rfl : free = 0 := h.free
    exact h.replace (fun task htask _ => htask) fun hpending => (hpending.not_joined hjoined).elim

theorem step (h : Deadlocked n) (hsound : Workload.Sound d n.plain) (hs : Step conduct n after) :
    Deadlocked after := by
  cases hs with
  | move hm => exact h.move hsound hm
  | enter event arrival =>
    refine ⟨h.free, fun call hcall task htask hrunning => ?_⟩
    rcases List.mem_append.mp hcall with hcall | hcall
    · obtain ⟨k, script, nested, hstage, hnested, hopen⟩ := h.awaits call hcall task htask hrunning
      have hk := (List.getElem?_eq_some_iff.mp hnested).1
      exact ⟨k, script, nested, hstage, (List.getElem?_append_left hk).trans hnested, hopen⟩
    · rw [List.mem_singleton.mp hcall] at htask
      cases htask
  | change => exact ⟨h.free, h.awaits⟩

theorem awaiting_eq (h : Deadlocked n) (hsound : Workload.Sound d n.plain) :
    n.awaiting = d.permits := by
  have hheld := hsound.held
  have hfree : n.plain.free = 0 := h.free
  have hrunning : n.plain.running = n.awaiting := by
    have htasks : n.plain.tasks = n.tasks.map (·.plain) := by
      simp [Workload.tasks, Nest.plain, Nest.tasks, Call.plain, List.flatMap_map, List.map_flatMap]
    rw [Workload.running, htasks, List.countP_map, awaiting]
    refine List.countP_congr fun task htask => ?_
    obtain ⟨call, hcall, htask⟩ := List.mem_flatMap.mp htask
    have hawaits := h.awaits call hcall task htask
    cases hstage : task.stage with
    | running script =>
      obtain ⟨k, next, nested, hother, -⟩ := hawaits (by rw [hstage]; rfl)
      rw [hstage] at hother
      cases hother
    | waiting | awaiting k script | ended outcome | joined outcome =>
      simp [Task.plain, hstage, Stage.plain, Stage.isAwaiting]
  omega

theorem exists_open (h : Deadlocked n) (hsound : Workload.Sound d n.plain) (hd : 0 < d.permits) :
    ∃ call ∈ n.calls, call.returned = none := by
  have hsome : 0 < n.awaiting := by rwa [h.awaiting_eq hsound]
  obtain ⟨task, htask, hawaits⟩ := List.countP_pos_iff.mp hsome
  obtain ⟨call, hcall, htask⟩ := List.mem_flatMap.mp htask
  have hheld : task.stage.plain = .running := by
    cases hstage : task.stage <;> simp [hstage, Stage.isAwaiting, Stage.plain] at hawaits ⊢
  obtain ⟨k, script, nested, -, hnested, hpending⟩ := h.awaits call hcall task htask hheld
  exact ⟨nested, List.mem_of_getElem? hnested, hpending.returned⟩

end Deadlocked

/-- Nobody has anything left to do but to wait for a permit or for a dispatch. -/
structure Settled (n : Nest η) : Prop where
  looked : ∀ call ∈ n.calls, call.registry.isSome = true
  ended : ∀ call ∈ n.calls, ∀ task ∈ call.tasks, ∀ outcome, task.stage ≠ .ended outcome
  pending : ∀ call ∈ n.calls, call.returned = none → call.Pending

theorem Deadlocked.stuck (h : Deadlocked n) (hs : Settled n) : Stuck conduct n := by
  intro after hm
  cases hm with
  | lookUp _ _ _ _ _ call hnone =>
    have hlooked := hs.looked call (by simp)
    simp [hnone] at hlooked
  | acquire => exact Nat.succ_ne_zero _ h.free
  | dispatch _ _ _ _ _ call _ _ _ _ _ _ htasks => exact h.not_running (by simp) htasks
  | resume _ _ _ _ _ call _ _ _ _ _ _ _ htasks hnested hreturned =>
    exact absurd hreturned (h.not_returned (by simp) htasks hnested)
  | finish _ _ _ _ _ call _ _ _ _ htasks => exact h.not_running (by simp) htasks
  | join _ _ _ _ _ call _ _ subscription outcome htasks =>
    exact hs.ended call (by simp) ⟨subscription, .ended outcome⟩ (by rw [htasks]; simp) outcome rfl
  | «return» _ _ _ _ _ call hlooked hopen hjoined =>
    exact (hs.pending call (by simp) hopen).not_joined hjoined

theorem Reachable.sound {d : Dispatcher} {registry : Registry η}
    (h : Reachable conduct (idle d registry) n) : Workload.Sound d n.plain ∧ Later n.calls := by
  induction h with
  | refl => exact ⟨Workload.sound_idle d, by simp [Later, idle]⟩
  | step h hs ih => exact ⟨hs.sound ih.1, ih.2.step hs⟩

theorem Deadlocked.run {d : Dispatcher} (h : Deadlocked n) (hsound : Workload.Sound d n.plain)
    (hr : Reachable conduct n after) : Deadlocked after ∧ Workload.Sound d after.plain := by
  induction hr with
  | refl => exact ⟨h, hsound⟩
  | step hr hs ih => exact ⟨ih.1.step ih.2 hs, hs.sound ih.2⟩

/-- As long as some dispatch has not returned somebody can go on, unless all permits are with
handlers that wait for dispatches that are not over. Then it stays so whatever happens, and never
have all dispatches returned. -/
theorem goes_on_or_deadlocked {permits dispatched errors : Nat} {registry : Registry η}
    (h : Reachable conduct (idle { Dispatcher.new permits with dispatched, errors } registry) n) :
    ((∃ call ∈ n.calls, call.returned = none) → (∃ after, Move conduct n after) ∨ n.Deadlocked) ∧
      (n.Deadlocked → n.awaiting = max permits 1 ∧ ∀ after, Reachable conduct n after →
        after.Deadlocked ∧ ∃ call ∈ after.calls, call.returned = none) := by
  obtain ⟨hsound, hlater⟩ := h.sound
  constructor
  · rintro ⟨call, hcall, hopen⟩
    by_cases hmove : ∃ after, Move conduct n after
    · exact .inl hmove
    · have hstuck : Stuck conduct n := fun after hm => hmove ⟨after, hm⟩
      exact .inr (hstuck.deadlocked hlater hcall hopen)
  · intro hdeadlocked
    have hpermits : 0 < max permits 1 := by omega
    refine ⟨hdeadlocked.awaiting_eq hsound, fun after hr => ?_⟩
    obtain ⟨hstays, hafter⟩ := hdeadlocked.run hsound hr
    exact ⟨hstays, hstays.exists_open hafter hpermits⟩

/-- What handlers do that dispatch on another topic, or nothing. -/
def relay : Conduct (Option String)
  | some topic, event, _ => .dispatch event (some topic) fun _ => .done .done
  | none, _, _ => .done .done

def inner : Subscription (Option String) := { id := "inner", topics := ["b"], handler := none }

def outer : Subscription (Option String) := { id := "outer", topics := ["a"], handler := some "b" }

def site : Registry (Option String) :=
  ⟨(SortedMap.empty.insert "inner" inner).insert "outer" outer⟩

def reading : Event := .new ⟨"1", ⟨0, 1, by decide⟩⟩ "a" .null

def outerCall : Call (Option String) where
  event := reading
  arrival := ⟨"a", "local", none, none⟩
  registry := some site
  tasks := [⟨outer, .awaiting 1 fun _ => .done .done⟩]
  invoked := [outer]

def innerCall : Call (Option String) where
  event := reading
  arrival := ⟨"b", "local", none, none⟩
  registry := some site
  tasks := [⟨inner, .waiting⟩]

/-- The outer handler waits for the inner one, and some permits are left for that. -/
def descended (d : Dispatcher) (free : Nat) : Nest (Option String) :=
  ⟨{ d with dispatched := d.dispatched + 2 }, site, free, [outerCall, innerCall]⟩

theorem reachable_descended {d : Dispatcher} {free : Nat} (h : d.permits = free + 1) :
    Reachable relay (idle d site) (descended d free) := by
  have hidle : idle d site = ⟨d, site, free + 1, []⟩ := by rw [idle, h]
  rw [hidle]
  have hstart : Reachable relay ⟨d, site, free + 1, []⟩ ⟨d, site, free + 1, []⟩ := .refl
  have hentered := hstart.step (.enter _ reading ⟨"a", "local", none, none⟩)
  have hasked := (hentered.step (.move (.lookUp _ _ _ [] [] _ rfl))).step
    (.move (.acquire _ _ _ [] [] _ [] [] outer rfl))
  have hwaits := (hasked.step (.move (.dispatch _ _ _ [] [] _ [] [] outer _ _ _ rfl))).step
    (.move (.lookUp _ _ _ [_] [] _ rfl))
  have hinner : site.matching "b" = [inner] := rfl
  have houter : site.matching "a" = [outer] := rfl
  simpa [Call.lookUp, Service.localArrival, Service.localBroker, houter, hinner, descended,
    outerCall, innerCall] using hwaits

theorem goes_on_or_deadlocked_descended :
    Reachable relay (idle { Dispatcher.new 2 with dispatched := 0, errors := 0 } site)
        (descended (.new 2) 1) ∧
      (∃ call ∈ (descended (.new 2) 1).calls, call.returned = none) ∧
      ¬(descended (.new 2) 1).Deadlocked ∧
      ∃ after, Move relay (descended (.new 2) 1) after := by
  have hreachable : Reachable relay
      (idle { Dispatcher.new 2 with dispatched := 0, errors := 0 } site)
      (descended (.new 2) 1) := reachable_descended rfl
  have hopen : ∃ call ∈ (descended (.new 2) 1).calls, call.returned = none :=
    ⟨outerCall, List.mem_cons_self, rfl⟩
  have hfree : ¬(descended (.new 2) 1).Deadlocked := fun h => Nat.one_ne_zero h.free
  obtain ⟨hgoes, -⟩ := goes_on_or_deadlocked hreachable
  exact ⟨hreachable, hopen, hfree, (hgoes hopen).resolve_right hfree⟩

theorem mem_descended {d : Dispatcher} {free : Nat} {call : Call (Option String)}
    (h : call ∈ (descended d free).calls) : call = outerCall ∨ call = innerCall := by
  simpa [descended] using h

theorem deadlocked_descended (d : Dispatcher) : (descended d 0).Deadlocked := by
  have hinner : innerCall.Pending := ⟨rfl, _, List.mem_singleton.mpr rfl, rfl⟩
  refine ⟨rfl, fun call hcall task htask hrunning => ?_⟩
  rcases mem_descended hcall with rfl | rfl
  · obtain rfl := List.mem_singleton.mp htask
    exact ⟨1, _, innerCall, rfl, rfl, hinner⟩
  · obtain rfl := List.mem_singleton.mp htask
    cases hrunning

theorem settled_descended (d : Dispatcher) (free : Nat) : (descended d free).Settled := by
  refine ⟨fun call hcall => ?_, fun call hcall task htask outcome => ?_, fun call hcall _ => ?_⟩ <;>
    rcases mem_descended hcall with rfl | rfl
  · rfl
  · rfl
  · rw [List.mem_singleton.mp htask]
    exact nofun
  · rw [List.mem_singleton.mp htask]
    exact nofun
  · exact ⟨rfl, _, List.mem_singleton.mpr rfl, rfl⟩
  · exact ⟨rfl, _, List.mem_singleton.mpr rfl, rfl⟩

/-- With one permit the outer handler waits for ever. -/
theorem stuck_descended : ∃ n, Reachable relay (idle (.new 1) site) n ∧
    (∃ call ∈ n.calls, call.returned = none) ∧ ∀ after, ¬Move relay n after :=
  ⟨descended (.new 1) 0, reachable_descended rfl, ⟨outerCall, List.mem_cons_self, rfl⟩,
    (deadlocked_descended _).stuck (settled_descended _ _)⟩

end Nest
end EventBus.Dispatcher
