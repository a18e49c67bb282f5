import EventBus.Proofs.Subscriber.Listener

namespace EventBus.Subscriber

inductive Change where
  | add (more : List String)
  | remove (gone : List String)
  deriving DecidableEq, Repr

def Change.apply (topics : List String) : Change → List String
  | .add more => watchAlso topics more
  | .remove gone => watchNoMore topics gone

/-- A subscriber, and the calls in flight: those that put down their topics but raised no flag yet,
and whether each of them changed anything. -/
structure Race where
  subscriber : Subscriber
  calls : List Bool := []

/-- One step of any of those that take part. -/
inductive Race.Step : Race → Race → Prop where
  | update (s : Subscriber) (calls : List Bool) (change : Change) :
    Step ⟨s, calls⟩
      ⟨s.setTopics (change.apply s.topics), calls ++ [change.apply s.topics != s.topics]⟩
  | raise (s : Subscriber) (before : List Bool) (changed : Bool) (after : List Bool) :
    Step ⟨s, before ++ changed :: after⟩ ⟨s.noteChange changed, before ++ after⟩
  /-- A token is due to be replaced. -/
  | refresh (s : Subscriber) (calls : List Bool) : Step ⟨s, calls⟩ ⟨s.noteChange true, calls⟩
  | listen (s : Subscriber) (calls : List Bool) (move : Move) :
    Step ⟨s, calls⟩ ⟨move.apply s, calls⟩

/-- What comes after a start, whoever was in flight then. -/
inductive Race.Reachable : Race → Prop where
  | started (s : Subscriber) (topics : List String) (calls : List Bool) (h : s.running = false) :
    Reachable ⟨s.start topics, calls⟩
  | step {r after : Race} (h : Reachable r) (hs : Step r after) : Reachable after

/-- An open session is subscribed to the plan, or is about to be told. -/
structure Race.Noted (r : Race) : Prop where
  running : r.subscriber.phase ≠ .over → r.subscriber.running = true
  noted : ∀ filters, r.subscriber.phase = .subscribed filters → filters ≠ r.subscriber.plan →
    r.subscriber.reconnectRequested = true ∨ true ∈ r.calls

namespace Race

theorem noted_start {s : Subscriber} {topics : List String} {calls : List Bool}
    (h : s.running = false) : Noted ⟨s.start topics, calls⟩ := by
  have hstart : s.start topics = { s with
      topics, reconnectRequested := false, running := true, state := .connecting,
      phase := .opening, attempts := 0 } := if_neg (by simp [h])
  rw [hstart]
  exact ⟨fun _ => rfl, fun filters hp => by simp at hp⟩

theorem Noted.update {s : Subscriber} {calls : List Bool} (h : Noted ⟨s, calls⟩) (change : Change) :
    Noted ⟨s.setTopics (change.apply s.topics), calls ++ [change.apply s.topics != s.topics]⟩ := by
  refine ⟨h.running, fun filters hp hne => ?_⟩
  by_cases hsame : change.apply s.topics = s.topics
  · have hset : s.setTopics (change.apply s.topics) = s := by rw [hsame]; rfl
    rw [hset] at hne ⊢
    rcases h.noted filters hp hne with hflag | hcall
    · exact .inl hflag
    · exact .inr (List.mem_append_left _ hcall)
  · exact .inr (List.mem_append_right _ (by simpa using hsame))

/-- While a session is open someone is listening, so a flag that is wanted goes up. -/
theorem Noted.noteChange {s : Subscriber} {calls : List Bool}
    (h : s.phase ≠ .over → s.running = true) : Noted ⟨s.noteChange true, calls⟩ := by
  by_cases hrunning : s.running = true
  · have hnote : s.noteChange true = { s with reconnectRequested := true } := by
      simp [Subscriber.noteChange, hrunning]
    rw [hnote]
    exact ⟨h, fun _ _ _ => .inl rfl⟩
  · have hover : s.phase = .over := Classical.byContradiction fun hp => hrunning (h hp)
    have hnote : s.noteChange true = s := by simp [Subscriber.noteChange, hrunning]
    rw [hnote]
    exact ⟨h, fun filters hp => by simp [hover] at hp⟩

theorem Noted.raise {s : Subscriber} {before after : List Bool} {changed : Bool}
    (h : Noted ⟨s, before ++ changed :: after⟩) :
    Noted ⟨s.noteChange changed, before ++ after⟩ := by
  cases changed with
  | false =>
    refine ⟨h.running, fun filters hp hne => ?_⟩
    rcases h.noted filters hp hne with hflag | hcall
    · exact .inl hflag
    · exact .inr (by simpa using hcall)
  | true => exact noteChange h.running

theorem Noted.listen {s : Subscriber} {calls : List Bool} (h : Noted ⟨s, calls⟩) (move : Move) :
    Noted ⟨move.apply s, calls⟩ := by
  have hmoved := moved_apply s move
  have hplan := hmoved.plan
  cases hmoved.way with
  | rests phase running flag =>
    refine ⟨fun hp => ?_, fun filters hp hne => ?_⟩
    · rw [running]
      exact h.running (phase ▸ hp)
    · rw [flag]
      exact h.noted filters (phase ▸ hp) (hplan ▸ hne)
  | acknowledges before phase running =>
    refine ⟨fun _ => running.trans (h.running (by simp [before])), fun filters hp => ?_⟩
    simp [phase] at hp
  | subscribes before phase running =>
    refine ⟨fun _ => running.trans (h.running (by simp [before])), fun filters hp hne => ?_⟩
    rw [phase] at hp
    exact absurd (Phase.subscribed.inj hp).symm (hplan ▸ hne)
  | leaves before phase running =>
    exact ⟨fun _ => running.trans (h.running before), fun filters hp => absurd hp (phase filters)⟩
  | halts phase => exact ⟨fun hp => absurd phase hp, fun filters hp => by simp [phase] at hp⟩

theorem Noted.step {r after : Race} (h : Noted r) (hs : Step r after) : Noted after := by
  cases hs with
  | update s calls change => exact h.update change
  | raise s before changed after => exact h.raise
  | refresh s calls => exact noteChange h.running
  | listen s calls move => exact h.listen move

theorem Reachable.noted {r : Race} (h : Reachable r) : Noted r := by
  induction h with
  | started s topics calls h => exact noted_start h
  | step h hs ih => exact ih.step hs

/-- No change of topics is lost: while a session is open and not subscribed to what the plan is by
now, the flag is up, or a call that changed the topics is yet to raise it. -/
theorem subscribed_or_noted {r : Race} {filters : List String} (h : Reachable r)
    (hlive : r.subscriber.phase = .subscribed filters) (hstale : filters ≠ r.subscriber.plan) :
    r.subscriber.reconnectRequested = true ∨ true ∈ r.calls :=
  h.noted.noted filters hlive hstale

/-- The subscriber of a session without topics that is being told of one. -/
def halfway : Race where
  subscriber :=
    applyAll (start { settings := .standard "a" } [])
      [.connect (fun _ => .acknowledged) (fun _ => .ok []) none, .subscribe] |>.setTopics ["b"]
  calls := [true]

theorem subscribed_or_noted_halfway :
    Reachable halfway ∧ halfway.subscriber.phase = .subscribed [] ∧ [] ≠ halfway.subscriber.plan ∧
      (halfway.subscriber.reconnectRequested = true ∨ true ∈ halfway.calls) := by
  have hstart : Reachable ⟨start { settings := .standard "a" } [], []⟩ := .started _ _ _ rfl
  have hsession := (hstart.step (.listen _ _ (.connect (fun _ => .acknowledged) (fun _ => .ok [])
    none))).step (.listen _ _ .subscribe)
  have hreachable : Reachable halfway := hsession.step (.update _ _ (.add ["b"]))
  have hlive : halfway.subscriber.phase = .subscribed [] := by rfl
  have hstale : [] ≠ halfway.subscriber.plan := by decide
  exact ⟨hreachable, hlive, hstale, subscribed_or_noted hreachable hlive hstale⟩

theorem Reachable.changeTopics {s : Subscriber} {calls : List Bool} (h : Reachable ⟨s, calls⟩)
    (change : Change) : Reachable ⟨s.changeTopics (change.apply s.topics), calls⟩ := by
  have hraise := Step.raise (s.setTopics (change.apply s.topics)) calls
    (change.apply s.topics != s.topics) []
  rw [List.append_nil] at hraise
  exact (h.step (.update s calls change)).step hraise

theorem Reachable.applyAll {s : Subscriber} {calls : List Bool} (h : Reachable ⟨s, calls⟩)
    (moves : List Move) : Reachable ⟨s.applyAll moves, calls⟩ := by
  induction moves generalizing s with
  | nil => exact h
  | cons move rest ih => exact ih (h.step (.listen s calls move))

theorem Reachable.turn {l : Listener} {calls : List Bool} (h : Reachable ⟨l.subscriber, calls⟩)
    (w : World η) (sink : Sink) : Reachable ⟨(w.turn sink l).2.subscriber, calls⟩ := by
  obtain ⟨moves, hmoves⟩ := turn_moves w sink l
  rw [hmoves]
  exact h.applyAll moves

end Race
end EventBus.Subscriber
