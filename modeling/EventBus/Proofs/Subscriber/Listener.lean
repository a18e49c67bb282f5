import EventBus.World

namespace EventBus.Subscriber

/-- The steps of the listener, with what the outside has to do with each. -/
inductive Move where
  | connect (network : Connection.Network) (files : Connection.FileReader)
      (token : Option (Except String Connection.AccessToken))
  | subscribe
  | hear (sink : Sink) (now : Timestamp) (traffic : Traffic)
  | work (sink : Sink) (now : Timestamp)
  | cycle
  | close (sink : Sink) (now : Timestamp)
  | resume

/-- A move that is not the listener's next changes nothing. -/
def Move.apply (s : Subscriber) : Move → Subscriber
  | .connect network files token =>
    if s.phase = .opening then s.connect network files token else s
  | .subscribe => if s.phase = .acknowledged then s.subscribe else s
  | .hear sink now traffic => s.hear sink now traffic
  | .work sink now => s.work sink now
  | .cycle => s.cycle
  | .close sink now => s.close sink now
  | .resume => s.resume

/-- The ways on from a phase. The flag is taken down only on the way to an acknowledged session,
and only an acknowledged one becomes a session that is subscribed. -/
inductive Way (s after : Subscriber) : Prop where
  | rests (phase : after.phase = s.phase) (running : after.running = s.running)
      (flag : after.reconnectRequested = s.reconnectRequested)
  | acknowledges (before : s.phase = .opening) (phase : after.phase = .acknowledged)
      (running : after.running = s.running)
  | subscribes (before : s.phase = .acknowledged) (phase : after.phase = .subscribed s.plan)
      (running : after.running = s.running)
  | leaves (before : s.phase ≠ .over) (phase : ∀ filters, after.phase ≠ .subscribed filters)
      (running : after.running = s.running)
  | halts (phase : after.phase = .over)

/-- Settings and topics are for others to change. -/
structure Moved (s after : Subscriber) : Prop where
  settings : after.settings = s.settings
  topics : after.topics = s.topics
  way : Way s after

theorem Moved.plan {s after : Subscriber} (h : Moved s after) : after.plan = s.plan := by
  rw [Subscriber.plan, Subscriber.plan, h.settings, h.topics]

theorem fail_cases (s : Subscriber) :
    (∃ attempt delay, s.fail =
      { s with attempts := attempt, state := .reconnecting attempt, phase := .waiting delay }) ∨
      s.fail = s.halt ∨ s.fail = { s with phase := .over } := by
  unfold fail
  split
  · next attempt delay _ => exact .inl ⟨attempt, delay, rfl⟩
  · exact .inr (.inl rfl)
  · exact .inr (.inl rfl)
  · exact .inr (.inr rfl)

theorem moved_fail {s : Subscriber} (h : s.phase ≠ .over) : Moved s s.fail := by
  rcases fail_cases s with ⟨attempt, delay, hs⟩ | hs | hs
  · rw [hs]
    exact ⟨rfl, rfl, .leaves h (by simp) rfl⟩
  · rw [hs]
    exact ⟨rfl, rfl, .halts rfl⟩
  · rw [hs]
    exact ⟨rfl, rfl, .halts rfl⟩

theorem moved_connect {network : Connection.Network} {files : Connection.FileReader}
    {token : Option (Except String Connection.AccessToken)} {s : Subscriber}
    (h : s.phase = .opening) : Moved s (s.connect network files token) := by
  have hfail : Moved s s.fail := moved_fail (by simp [h])
  unfold connect
  split
  · exact hfail
  · split
    · exact ⟨rfl, rfl, .acknowledges h rfl rfl⟩
    · exact hfail
    · exact hfail

theorem moved_subscribe {s : Subscriber} (h : s.phase = .acknowledged) : Moved s s.subscribe := by
  unfold subscribe
  split
  · exact ⟨rfl, rfl, .subscribes h rfl rfl⟩
  · exact moved_fail (by simp [h])

theorem hear_cases (sink : Sink) (now : Timestamp) (s : Subscriber) (traffic : Traffic) :
    (∃ worker, s.hear sink now traffic = { s with worker }) ∨
      ∃ filters worker, s.phase = .subscribed filters ∧
        s.hear sink now traffic = fail { s with worker } := by
  unfold hear
  split
  · left
    unfold receive
    split <;> exact ⟨_, rfl⟩
  · next filters h _ => exact .inr ⟨filters, _, h, rfl⟩
  · exact .inl ⟨s.worker, rfl⟩

theorem moved_hear (sink : Sink) (now : Timestamp) (s : Subscriber) (traffic : Traffic) :
    Moved s (s.hear sink now traffic) := by
  rcases hear_cases sink now s traffic with ⟨worker, hs⟩ | ⟨filters, worker, hphase, hs⟩
  · rw [hs]
    exact ⟨rfl, rfl, .rests rfl rfl rfl⟩
  · rw [hs]
    rcases fail_cases { s with worker } with ⟨attempt, delay, hf⟩ | hf | hf
    · rw [hf]
      exact ⟨rfl, rfl, .leaves (by simp [hphase]) (by simp) rfl⟩
    · rw [hf]
      exact ⟨rfl, rfl, .halts rfl⟩
    · rw [hf]
      exact ⟨rfl, rfl, .halts rfl⟩

theorem moved_cycle (s : Subscriber) : Moved s s.cycle := by
  unfold cycle
  split
  · next h =>
    split
    · exact ⟨rfl, rfl, .leaves (by simp [h]) (by simp) rfl⟩
    · exact ⟨rfl, rfl, .rests rfl rfl rfl⟩
  · exact ⟨rfl, rfl, .rests rfl rfl rfl⟩

theorem moved_close (sink : Sink) (now : Timestamp) (s : Subscriber) :
    Moved s (s.close sink now) := by
  unfold close
  split
  · next h => exact ⟨rfl, rfl, .leaves (by simp [h]) (by simp) rfl⟩
  · exact ⟨rfl, rfl, .rests rfl rfl rfl⟩

theorem moved_resume (s : Subscriber) : Moved s s.resume := by
  unfold resume
  split
  · next h => exact ⟨rfl, rfl, .leaves (by simp [h]) (by simp) rfl⟩
  · exact ⟨rfl, rfl, .rests rfl rfl rfl⟩

theorem moved_apply (s : Subscriber) (move : Move) : Moved s (move.apply s) := by
  cases move with
  | connect network files token =>
    simp only [Move.apply]
    split
    · next h => exact moved_connect h
    · exact ⟨rfl, rfl, .rests rfl rfl rfl⟩
  | subscribe =>
    simp only [Move.apply]
    split
    · next h => exact moved_subscribe h
    · exact ⟨rfl, rfl, .rests rfl rfl rfl⟩
  | hear sink now traffic => exact moved_hear sink now s traffic
  | work sink now => exact ⟨rfl, rfl, .rests rfl rfl rfl⟩
  | cycle => exact moved_cycle s
  | close sink now => exact moved_close sink now s
  | resume => exact moved_resume s

theorem fail_requested (s : Subscriber) : s.fail.reconnectRequested = s.reconnectRequested := by
  rcases fail_cases s with ⟨attempt, delay, hs⟩ | hs | hs
  · rw [hs]
  · rw [hs]
    rfl
  · rw [hs]

theorem connect_requested {network : Connection.Network} {files : Connection.FileReader}
    {token : Option (Except String Connection.AccessToken)} {s : Subscriber}
    (h : (s.connect network files token).reconnectRequested = true) :
    s.reconnectRequested = true := by
  unfold connect at h
  split at h
  · exact (fail_requested s).symm.trans h
  · split at h
    · cases h
    · exact (fail_requested s).symm.trans h
    · exact (fail_requested s).symm.trans h

theorem requested_of_apply {s : Subscriber} {move : Move}
    (h : (move.apply s).reconnectRequested = true) : s.reconnectRequested = true := by
  cases move with
  | connect network files token =>
    simp only [Move.apply] at h
    split at h
    · exact connect_requested h
    · exact h
  | subscribe =>
    simp only [Move.apply, subscribe] at h
    split at h
    · split at h
      · exact h
      · exact (fail_requested s).symm.trans h
    · exact h
  | hear sink now traffic =>
    simp only [Move.apply] at h
    rcases hear_cases sink now s traffic with ⟨worker, hs⟩ | ⟨filters, worker, -, hs⟩
    · rwa [hs] at h
    · rwa [hs, fail_requested] at h
  | work sink now => exact h
  | cycle =>
    simp only [Move.apply, cycle] at h
    split at h
    · split at h <;> exact h
    · exact h
  | close sink now =>
    simp only [Move.apply, close] at h
    split at h <;> exact h
  | resume =>
    simp only [Move.apply, resume] at h
    split at h <;> exact h

/-- The moves of a turn, one after the other. -/
def applyAll (s : Subscriber) (moves : List Move) : Subscriber :=
  moves.foldl (fun s move => move.apply s) s

theorem schedule_subscriber (now : Nat) (s : Subscriber) :
    (Listener.schedule now s).subscriber = s := by
  unfold Listener.schedule
  split <;> rfl

theorem exists_moves_connect {s : Subscriber} (h : s.resume.phase = .opening)
    (network : Connection.Network) (files : Connection.FileReader)
    (token : Option (Except String Connection.AccessToken)) :
    ∃ moves, s.resume.connect network files token = applyAll s moves :=
  ⟨[.resume, .connect network files token], by simp [applyAll, Move.apply, h]⟩

theorem turn_moves (w : World η) (sink : Sink) (l : Listener) :
    ∃ moves, (w.turn sink l).2.subscriber = applyAll l.subscriber moves := by
  by_cases hdue : (l.due? w.now).any (· ≤ w.now) = true
  · match h : l.subscriber.phase with
    | .over => exact ⟨[], by simp [World.turn, h, applyAll]⟩
    | .opening =>
      simp only [World.turn, if_pos hdue, h, schedule_subscriber]
      exact exists_moves_connect (by simp [resume, h]) _ _ _
    | .waiting delay =>
      simp only [World.turn, if_pos hdue, h, schedule_subscriber]
      exact exists_moves_connect (by simp [resume, h]) _ _ _
    | .acknowledged =>
      refine ⟨[.subscribe], ?_⟩
      simp [World.turn, if_pos hdue, h, applyAll, Move.apply, schedule_subscriber]
    | .subscribed filters =>
      exact ⟨[.cycle], by simp [World.turn, if_pos hdue, h, applyAll, Move.apply]⟩
    | .closing =>
      exact ⟨[.close sink w.stamp.time], by simp [World.turn, if_pos hdue, h, applyAll, Move.apply]⟩
  · exact ⟨[], by simp [World.turn, if_neg hdue, applyAll]⟩

end EventBus.Subscriber
