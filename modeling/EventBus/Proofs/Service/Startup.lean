import EventBus.Proofs.Service.Run
import EventBus.Proofs.Splice

namespace EventBus.Service

open EventBus.Splice (mem_replace)

variable {η : Type u}

def put (s : Service η) (more : List String) : Service η :=
  { s with
    subscriber := s.subscriber.map fun subscriber =>
      subscriber.setTopics (Subscriber.watchAlso subscriber.topics more) }

def changes (s : Service η) (more : List String) : Bool :=
  s.subscriber.any fun subscriber =>
    Subscriber.watchAlso subscriber.topics more != subscriber.topics

def note (s : Service η) (changed : Bool) : Service η :=
  { s with subscriber := s.subscriber.map (·.noteChange changed) }

namespace Startup

/-- Where a start stands. It collects the topics of the registry twice, for the subscriber that it
launches and again after it has said that the service runs. -/
inductive Stage (η : Type u) where
  | called
  /-- These declarations are yet to be registered. -/
  | enrolling (left : List (Subscription η))
  | collected (topics : List String)
  /-- The subscriber has been started, and nobody else can reach it yet. -/
  | launched (subscriber : Option Subscriber)
  | placed
  | declared
  | recollected (topics : List String)
  /-- The topics are put down, and made a change or not. -/
  | told (changed : Bool)
  | returned

inductive Call (η : Type u) where
  | arrived (subscription : Subscription η)
  | entered (subscription : Subscription η)
  | found (subscription : Subscription η)
  | holding (subscription : Subscription η)
  | told (changed : Bool)
  | returned

def Stage.next (s : Service η) : Stage η → Service η × Stage η
  | .called =>
    if s.running then (s, .returned) else ({ s with declarations := [] }, .enrolling s.declarations)
  | .enrolling (subscription :: left) =>
    ({ s with registry := enroll s.registry subscription }, .enrolling left)
  | .enrolling [] => (s, .collected s.registry.topics)
  | .collected topics => (s, .launched (s.subscriberOn topics))
  | .launched subscriber => ({ s with subscriber }, .placed)
  | .placed => ({ s with running := true }, .declared)
  | .declared => (s, .recollected s.registry.topics)
  | .recollected topics => (s.put topics, .told (s.changes topics))
  | .told changed => (s.note changed, .returned)
  | .returned => (s, .returned)

def Call.next (s : Service η) : Call η → Service η × Call η
  | .arrived subscription =>
    match s.registry.register subscription with
    | .ok registry => ({ s with registry }, .entered subscription)
    | .error _ => (s, .returned)
  | .entered subscription =>
    (s, if s.running && subscription.enabled then .found subscription else .returned)
  | .found subscription => (s, if s.subscriber.isSome then .holding subscription else .returned)
  | .holding subscription => (s.put subscription.topics, .told (s.changes subscription.topics))
  | .told changed => (s.note changed, .returned)
  | .returned => (s, .returned)

end Startup

/-- A service with a start under way, and the registrations that came meanwhile. -/
structure Startup (η : Type u) where
  service : Service η
  stage : Startup.Stage η := .called
  calls : List (Startup.Call η) := []

namespace Startup

/-- One step of any of those that take part. -/
inductive Step : Startup η → Startup η → Prop where
  | start (s : Service η) (stage : Stage η) (calls : List (Call η)) :
    Step ⟨s, stage, calls⟩ ⟨(stage.next s).1, (stage.next s).2, calls⟩
  | arrive (s : Service η) (stage : Stage η) (calls : List (Call η))
      (subscription : Subscription η) :
    Step ⟨s, stage, calls⟩ ⟨s, stage, calls ++ [.arrived subscription]⟩
  | call (s : Service η) (stage : Stage η) (front : List (Call η)) (call : Call η)
      (back : List (Call η)) :
    Step ⟨s, stage, front ++ call :: back⟩
      ⟨(call.next s).1, stage, front ++ (call.next s).2 :: back⟩
  | listen (s : Service η) (stage : Stage η) (calls : List (Call η)) (move : Subscriber.Move) :
    Step ⟨s, stage, calls⟩ ⟨(Op.listen move).apply s, stage, calls⟩
  /-- The listener is at work before its subscriber is in place. -/
  | listenEarly (s : Service η) (subscriber : Option Subscriber) (calls : List (Call η))
      (move : Subscriber.Move) :
    Step ⟨s, .launched subscriber, calls⟩
      ⟨s, .launched (subscriber.map fun s => move.apply s), calls⟩

inductive Reachable (s : Service η) : Startup η → Prop where
  | called : Reachable s { service := s }
  | step {r after : Startup η} (h : Reachable s r) (hs : Step r after) : Reachable s after

/-- Whether the service has been said to run. -/
def Stage.said : Stage η → Bool
  | .called | .enrolling _ | .collected _ | .launched _ | .placed => false
  | .declared | .recollected _ | .told _ | .returned => true

/-- Whether the topics have been collected for the second time. -/
def Stage.looked : Stage η → Bool
  | .called | .enrolling _ | .collected _ | .launched _ | .placed | .declared => false
  | .recollected _ | .told _ | .returned => true

/-- Topics that the start has collected and not put down. -/
def Stage.owed : Stage η → List String
  | .recollected topics => topics
  | _ => []

/-- Topics that a registration tells the subscriber of if the service runs. -/
def Call.owed : Call η → List String
  | .entered subscription | .found subscription | .holding subscription =>
    if subscription.enabled then subscription.topics else []
  | .arrived _ | .told _ | .returned => []

/-- Whether a registration was told that the service runs, and acts on it. -/
def Call.heard : Call η → Bool
  | .found _ | .holding _ => true
  | .arrived _ | .entered _ | .told _ | .returned => false

inductive Seen (r : Startup η) (filter : String) : Prop where
  | watched (h : filter ∈ r.service.watched)
  | start (h : filter ∈ r.stage.owed)
  | call (call : Call η) (hc : call ∈ r.calls) (h : filter ∈ call.owed)

/-- From the second collection on, someone sees to every filter of an enabled subscription. -/
structure Sound (r : Startup η) : Prop where
  broker : r.service.broker.isSome = true
  running : r.service.running = r.stage.said
  launched : ∀ subscriber, r.stage = .launched subscriber → subscriber.isSome = true
  live : r.stage = .placed ∨ r.stage.said = true → r.service.subscriber.isSome = true
  heard : ∀ call ∈ r.calls, call.heard = true → r.stage.said = true
  seen : r.stage.looked = true → ∀ subscription ∈ r.service.registry.enabled,
    ∀ filter ∈ subscription.topics, r.Seen filter

/-- The service goes on running or not, with its subscriber in place or not, and watches no less. -/
structure Kept (s after : Service η) : Prop where
  broker : after.broker = s.broker
  running : after.running = s.running
  live : after.subscriber.isSome = s.subscriber.isSome
  watched : ∀ filter ∈ s.watched, filter ∈ after.watched

theorem Kept.refl (s : Service η) : Kept s s := ⟨rfl, rfl, rfl, fun _ h => h⟩

theorem watched_put {s : Service η} (h : s.subscriber.isSome = true) (more : List String) :
    (s.put more).watched = Subscriber.watchAlso s.watched more := by
  obtain ⟨subscriber, hs⟩ := Option.isSome_iff_exists.mp h
  simp [watched, put, hs, Subscriber.setTopics]

theorem kept_put (s : Service η) (more : List String) : Kept s (s.put more) := by
  refine ⟨rfl, rfl, Option.isSome_map, fun filter hf => ?_⟩
  cases hs : s.subscriber with
  | none => simp [watched, hs] at hf
  | some subscriber =>
    rw [watched_put (by simp [hs]), Subscriber.mem_watchAlso]
    exact .inl hf

theorem kept_note (s : Service η) (changed : Bool) : Kept s (s.note changed) := by
  refine ⟨rfl, rfl, Option.isSome_map, fun filter hf => ?_⟩
  cases hs : s.subscriber with
  | none => simp [watched, hs] at hf
  | some subscriber => simpa [watched, note, hs, Subscriber.noteChange_topics] using hf

theorem kept_listen (s : Service η) (move : Subscriber.Move) :
    Kept s ((Op.listen move).apply s) :=
  ⟨rfl, rfl, Option.isSome_map, fun _ hf => (watched_listen s move).symm ▸ hf⟩

variable {s after : Service η} {stage : Stage η} {calls : List (Call η)}

theorem Stage.said_of_looked (h : stage.looked = true) : stage.said = true := by
  cases stage <;> first | rfl | cases h

theorem Sound.serve (h : Sound ⟨s, stage, calls⟩) (hk : Kept s after)
    (hregistry : after.registry = s.registry) : Sound ⟨after, stage, calls⟩ := by
  refine ⟨?_, ?_, h.launched, fun hplaced => ?_, h.heard,
    fun hlooked subscription hmem filter hf => ?_⟩
  · exact (congrArg Option.isSome hk.broker).trans h.broker
  · exact hk.running.trans h.running
  · exact hk.live.trans (h.live hplaced)
  · have hmem : subscription ∈ s.registry.enabled := hregistry ▸ hmem
    cases h.seen hlooked subscription hmem filter hf with
    | watched hw => exact .watched (hk.watched filter hw)
    | start ho => exact .start ho
    | call call hc ho => exact .call call hc ho

/-- A registration goes on. What it owed it has told the subscriber of, or still owes, once that
matters, and it sees to what it has put into the registry. -/
theorem Sound.replace {front back : List (Call η)} {call next : Call η}
    (h : Sound ⟨s, stage, front ++ call :: back⟩) (hk : Kept s after)
    (henabled : ∀ subscription ∈ after.registry.enabled,
      subscription ∈ s.registry.enabled ∨ ∀ filter ∈ subscription.topics, filter ∈ next.owed)
    (hheard : next.heard = true → stage.said = true)
    (howed : stage.looked = true → ∀ filter ∈ call.owed,
      filter ∈ after.watched ∨ filter ∈ next.owed) :
    Sound ⟨after, stage, front ++ next :: back⟩ := by
  have hnext : next ∈ front ++ next :: back := by simp
  refine ⟨?_, ?_, h.launched, fun hplaced => ?_, fun other hother => ?_,
    fun hlooked subscription hmem filter hf => ?_⟩
  · exact (congrArg Option.isSome hk.broker).trans h.broker
  · exact hk.running.trans h.running
  · exact hk.live.trans (h.live hplaced)
  · rcases mem_replace call hother with rfl | hother
    · exact hheard
    · exact h.heard other hother
  · rcases henabled subscription hmem with hold | hnew
    · cases h.seen hlooked subscription hold filter hf with
      | watched hw => exact .watched (hk.watched filter hw)
      | start ho => exact .start ho
      | call other hother ho =>
        rcases mem_replace next hother with rfl | hother
        · rcases howed hlooked filter ho with hw | ho
          · exact .watched hw
          · exact .call next hnext ho
        · exact .call other hother ho
    · exact .call next hnext (hnew filter hf)

theorem Sound.call {front back : List (Call η)} (call : Call η)
    (h : Sound ⟨s, stage, front ++ call :: back⟩) :
    Sound ⟨(call.next s).1, stage, front ++ (call.next s).2 :: back⟩ := by
  have hrunning : s.running = stage.said := h.running
  cases call with
  | arrived subscription =>
    unfold Call.next
    dsimp only
    split
    · next registry hreg =>
      refine h.replace ⟨rfl, rfl, rfl, fun _ hf => hf⟩ (fun other hmem => ?_) nofun nofun
      obtain ⟨hall, henabled⟩ := Registry.mem_enabled.mp hmem
      rcases Registry.mem_all_of_register hreg hall with rfl | hold
      · right
        simp [Call.owed, henabled]
      · exact .inl (Registry.mem_enabled.mpr ⟨hold, henabled⟩)
    · exact h.replace (.refl s) (fun _ hmem => .inl hmem) nofun nofun
  | entered subscription =>
    simp only [Call.next]
    split
    · next hboth =>
      refine h.replace (.refl s) (fun _ hmem => .inl hmem) (fun _ => ?_) fun _ _ hf => .inr hf
      exact hrunning.symm.trans (Bool.and_eq_true_iff.mp hboth).1
    · next hboth =>
      -- By the second collection the service runs, so it is the subscription that is not enabled.
      refine h.replace (.refl s) (fun _ hmem => .inl hmem) nofun fun hlooked filter hf => ?_
      have hsaid : s.running = true := hrunning.trans (Stage.said_of_looked hlooked)
      have hdisabled : subscription.enabled = false := by simpa [hsaid] using hboth
      simp [Call.owed, hdisabled] at hf
  | found subscription =>
    have hsaid : stage.said = true := h.heard (.found subscription) (by simp) rfl
    have hlive : s.subscriber.isSome = true := h.live (.inr hsaid)
    simp only [Call.next, hlive, if_true]
    exact h.replace (.refl s) (fun _ hmem => .inl hmem) (fun _ => hsaid) fun _ _ hf => .inr hf
  | holding subscription =>
    have hsaid : stage.said = true := h.heard (.holding subscription) (by simp) rfl
    have hlive : s.subscriber.isSome = true := h.live (.inr hsaid)
    simp only [Call.next]
    refine h.replace (kept_put s _) (fun _ hmem => .inl hmem) nofun fun _ filter hf => .inl ?_
    rw [watched_put hlive, Subscriber.mem_watchAlso]
    right
    simp only [Call.owed] at hf
    split at hf
    · exact hf
    · cases hf
  | told changed =>
    exact h.replace (kept_note s changed) (fun _ hmem => .inl hmem) nofun nofun
  | returned => exact h.replace (.refl s) (fun _ hmem => .inl hmem) nofun nofun

theorem sound_unsaid (hbroker : s.broker.isSome = true) (hstopped : s.running = false)
    (hsaid : stage.said = false)
    (hlaunched : ∀ subscriber, stage = .launched subscriber → subscriber.isSome = true)
    (hplaced : stage = .placed → s.subscriber.isSome = true)
    (hcalls : ∀ call ∈ calls, call.heard = false) : Sound ⟨s, stage, calls⟩ := by
  refine ⟨hbroker, hstopped.trans hsaid.symm, hlaunched, fun hlive => ?_, fun call hc hheard => ?_,
    fun hlooked => ?_⟩
  · rcases hlive with hlive | hlive
    · exact hplaced hlive
    · exact absurd hlive (by simp [hsaid])
  · exact absurd hheard (by simp [hcalls call hc])
  · exact absurd (Stage.said_of_looked hlooked) (by simp [hsaid])

theorem Sound.unheard (h : Sound ⟨s, stage, calls⟩) (hsaid : stage.said = false) :
    ∀ call ∈ calls, call.heard = false := by
  intro call hc
  refine Bool.eq_false_iff.mpr fun hheard => ?_
  exact absurd (h.heard call hc hheard) (by simp [hsaid])

theorem Sound.settle (h : Sound ⟨s, stage, calls⟩)
    (hlooked : stage.looked = true) {next : Stage η} (hnext : next.said = true)
    (hlaunched : ∀ subscriber, next ≠ .launched subscriber)
    (hwatched : ∀ filter ∈ stage.owed, filter ∈ s.watched) : Sound ⟨s, next, calls⟩ := by
  have hsaid := Stage.said_of_looked hlooked
  refine ⟨h.broker, (h.running.trans hsaid).trans hnext.symm,
    fun subscriber hsub => absurd hsub (hlaunched subscriber), fun _ => h.live (.inr hsaid),
    fun _ _ _ => hnext, fun _ subscription hmem filter hf => ?_⟩
  cases h.seen hlooked subscription hmem filter hf with
  | watched hw => exact .watched hw
  | start ho => exact .watched (hwatched filter ho)
  | call call hc ho => exact .call call hc ho

theorem Sound.start (h : Sound ⟨s, stage, calls⟩) :
    Sound ⟨(stage.next s).1, (stage.next s).2, calls⟩ := by
  have hbroker : s.broker.isSome = true := h.broker
  have hrunning : s.running = stage.said := h.running
  cases stage with
  | called =>
    have hstopped : s.running = false := hrunning
    rw [Stage.next, if_neg (by simp [hstopped])]
    exact sound_unsaid hbroker hrunning rfl (by simp) (by simp) (h.unheard rfl)
  | enrolling left =>
    cases left with
    | nil =>
      simp only [Stage.next]
      exact sound_unsaid hbroker hrunning rfl (by simp) (by simp) (h.unheard rfl)
    | cons subscription left =>
      simp only [Stage.next]
      exact sound_unsaid hbroker hrunning rfl (by simp) (by simp) (h.unheard rfl)
  | collected topics =>
    simp only [Stage.next]
    refine sound_unsaid hbroker hrunning rfl (fun subscriber hsub => ?_) (by simp) (h.unheard rfl)
    obtain rfl := Stage.launched.inj hsub
    simpa [subscriberOn] using hbroker
  | launched subscriber =>
    simp only [Stage.next]
    have hlive := h.launched subscriber rfl
    exact sound_unsaid hbroker hrunning rfl (by simp) (fun _ => hlive) (h.unheard rfl)
  | placed =>
    simp only [Stage.next]
    have hlive : s.subscriber.isSome = true := h.live (.inl rfl)
    exact ⟨hbroker, rfl, by simp, fun _ => hlive, fun _ _ _ => rfl, by simp [Stage.looked]⟩
  | declared =>
    simp only [Stage.next]
    have hlive : s.subscriber.isSome = true := h.live (.inr rfl)
    refine ⟨hbroker, hrunning, by simp, fun _ => hlive, h.heard,
      fun _ subscription hmem filter hf => ?_⟩
    exact .start (Registry.mem_topics.mpr ⟨subscription, hmem, hf⟩)
  | recollected topics =>
    simp only [Stage.next]
    have hlive : s.subscriber.isSome = true := h.live (.inr rfl)
    refine (h.serve (kept_put s topics) rfl).settle rfl rfl (by simp) fun filter hf => ?_
    rw [watched_put hlive, Subscriber.mem_watchAlso]
    exact .inr hf
  | told changed =>
    simp only [Stage.next]
    exact (h.serve (kept_note s changed) rfl).settle rfl rfl (by simp) (by simp [Stage.owed])
  | returned => exact h

theorem Sound.step {r after : Startup η} (h : Sound r) (hs : Step r after) : Sound after := by
  cases hs with
  | start s stage calls => exact h.start
  | arrive s stage calls subscription =>
    refine ⟨h.broker, h.running, h.launched, h.live, fun call hc => ?_,
      fun hlooked other hmem filter hf => ?_⟩
    · rcases List.mem_append.mp hc with hc | hc
      · exact h.heard call hc
      · rw [List.mem_singleton.mp hc]
        exact nofun
    · cases h.seen hlooked other hmem filter hf with
      | watched hw => exact .watched hw
      | start ho => exact .start ho
      | call call hc ho => exact .call call (List.mem_append_left _ hc) ho
  | call s stage front call back => exact h.call call
  | listen s stage calls move => exact h.serve (kept_listen s move) rfl
  | listenEarly s subscriber calls move =>
    refine sound_unsaid h.broker h.running rfl (fun other hother => ?_) (by simp) (h.unheard rfl)
    obtain rfl := Stage.launched.inj hother
    rw [Option.isSome_map]
    exact h.launched subscriber rfl

theorem Reachable.sound {r : Startup η} (hbroker : s.broker.isSome = true)
    (hstopped : s.running = false) (h : Reachable s r) : Sound r := by
  induction h with
  | called => exact sound_unsaid hbroker hstopped rfl (by simp) (by simp) (by simp)
  | step h hs ih => exact ih.step hs

/-- Once a start and the registrations that came meanwhile have returned, the service runs and its
subscriber watches all that is wanted. -/
theorem wanted_watched_of_returned {r : Startup η} (hbroker : s.broker.isSome = true)
    (hstopped : s.running = false) (h : Reachable s r) (hstart : r.stage = .returned)
    (hcalls : ∀ call ∈ r.calls, call = .returned) :
    r.service.running = true ∧ ∃ subscriber, r.service.subscriber = some subscriber ∧
      ∀ subscription ∈ r.service.registry.enabled, ∀ filter ∈ subscription.topics,
        filter ∈ subscriber.topics := by
  have hsound := h.sound hbroker hstopped
  have hlive := hsound.live (.inr (by rw [hstart]; rfl))
  obtain ⟨subscriber, hsub⟩ := Option.isSome_iff_exists.mp hlive
  refine ⟨hsound.running.trans (by rw [hstart]; rfl), subscriber, hsub,
    fun subscription hmem filter hf => ?_⟩
  cases hsound.seen (by rw [hstart]; rfl) subscription hmem filter hf with
  | watched hw => simpa [watched, hsub] using hw
  | start ho => simp [hstart, Stage.owed] at ho
  | call call hc ho => simp [hcalls call hc, Call.owed] at ho

/-- A subscription that comes too late for the first collection, and asks too early whether the
service runs. -/
def late : Subscription Unit := { id := "s", topics := ["a/#"], handler := () }

theorem wanted_watched_of_returned_late :
    ∃ r : Startup Unit, Reachable (new .standard (some (.standard "a")) []) r ∧
      r.stage = .returned ∧ (∀ call ∈ r.calls, call = .returned) ∧
      r.service.registry.topics = ["a/#"] ∧
      r.service.running = true ∧ ∃ subscriber, r.service.subscriber = some subscriber ∧
        ∀ subscription ∈ r.service.registry.enabled, ∀ filter ∈ subscription.topics,
          filter ∈ subscriber.topics := by
  have hcollected : Reachable (new .standard (some (.standard "a")) []) _ :=
    ((Reachable.called.step (.start _ _ _)).step (.start _ _ _)).step (.arrive _ _ _ late)
  have hasked := (hcollected.step (.call _ _ [] _ [])).step (.call _ _ [] _ [])
  have hdeclared := ((hasked.step (.start _ _ _)).step (.start _ _ _)).step (.start _ _ _)
  have hreturned := ((hdeclared.step (.start _ _ _)).step (.start _ _ _)).step (.start _ _ _)
  have hcalls : ∀ call ∈ [Call.returned], call = (.returned : Call Unit) := by simp
  exact ⟨_, hreturned, rfl, hcalls, rfl, wanted_watched_of_returned rfl rfl hreturned rfl hcalls⟩

theorem note_put (s : Service η) (more : List String) :
    (s.put more).note (s.changes more) = s.watch more := by
  cases h : s.subscriber with
  | none => simp [put, note, watch, h]
  | some subscriber =>
    simp [put, note, changes, watch, h, Subscriber.addTopics, Subscriber.changeTopics]

theorem Reachable.enrolled {t : Service η} {left : List (Subscription η)}
    (h : Reachable s ⟨t, .enrolling left, calls⟩) :
    Reachable s ⟨{ t with registry := left.foldl enroll t.registry }, .enrolling [], calls⟩ := by
  induction left generalizing t with
  | nil => exact h
  | cons subscription left ih => exact ih (h.step (.start _ _ _))

theorem reachable_start (s : Service η) : Reachable s ⟨s.start, .returned, []⟩ := by
  have hnext : Reachable s _ := Reachable.called.step (.start _ _ _)
  rw [Stage.next] at hnext
  by_cases hrunning : s.running = true
  · rw [if_pos hrunning] at hnext
    rwa [Service.start, if_pos hrunning]
  · rw [if_neg hrunning] at hnext
    have hplaced := ((hnext.enrolled.step (.start _ _ _)).step (.start _ _ _)).step (.start _ _ _)
    have htold := ((hplaced.step (.start _ _ _)).step (.start _ _ _)).step (.start _ _ _)
    have hreturned := htold.step (.start _ _ _)
    simp only [Stage.next, note_put] at hreturned
    rw [Service.start, if_neg hrunning]
    exact hreturned

theorem Reachable.announced {t : Service η} {subscription : Subscription η}
    (h : Reachable s ⟨t, stage, calls ++ [.found subscription]⟩) :
    Reachable s ⟨t.watch subscription.topics, stage, calls ++ [.returned]⟩ := by
  have hfound := h.step (.call _ _ calls _ [])
  rw [Call.next] at hfound
  cases hsub : t.subscriber with
  | none =>
    have hsame : t.watch subscription.topics = t := by
      rw [watch, hsub, Option.map_none, ← hsub]
    simpa only [hsub, Option.isSome_none, Bool.false_eq_true, if_false, hsame] using hfound
  | some subscriber =>
    rw [if_pos (by simp [hsub])] at hfound
    have hreturned := (hfound.step (.call _ _ calls _ [])).step (.call _ _ calls _ [])
    simpa only [Call.next, note_put] using hreturned

theorem Reachable.register {t : Service η} (h : Reachable s ⟨t, stage, calls⟩)
    (subscription : Subscription η) :
    Reachable s ⟨t.afterRegister subscription, stage, calls ++ [.returned]⟩ := by
  have hnext := (h.step (.arrive _ _ _ subscription)).step (.call _ _ calls _ [])
  rw [Call.next] at hnext
  unfold afterRegister Service.register
  cases hreg : t.registry.register subscription with
  | error error => simpa only [hreg] using hnext
  | ok registry =>
    simp only [hreg] at hnext ⊢
    have hasked := hnext.step (.call _ _ calls _ [])
    rw [Call.next] at hasked
    rw [announce]
    split
    · next hboth =>
      rw [if_pos hboth] at hasked
      exact hasked.announced
    · next hboth =>
      rw [if_neg hboth] at hasked
      exact hasked

end Startup
end EventBus.Service
