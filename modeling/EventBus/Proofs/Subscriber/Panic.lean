import EventBus.Proofs.Subscriber.Accounting
import EventBus.Proofs.Subscriber.Cycle

namespace EventBus.Subscriber

open Worker

variable {sink : Sink}

namespace Worker

variable {base : String}

theorem answers_isError (past deliveries : List Delivery) :
    answers sink Outcome.isError past deliveries =
      refusals sink past deliveries + answers sink (· = .panicked) past deliveries := by
  induction deliveries generalizing past with
  | nil => rfl
  | cons delivery rest ih =>
    have hrest := ih (past ++ [delivery])
    rw [refusals] at hrest ⊢
    simp only [answers, hrest]
    cases sink past delivery <;> simp [Outcome.isError] <;> omega

theorem panics_readings_singleton (past : List Delivery) (message : Received) :
    answers sink (· = .panicked) past (readings base [message]) =
      if panicsAt base sink past message then 1 else 0 := by
  cases hreading : message.reading base <;>
    simp [readings, panicsAt, hreading, answers]

theorem calm_iff_panics (past : List Delivery) (messages : List Received) :
    calm base sink past messages = true ↔
      answers sink (· = .panicked) past (readings base messages) = 0 := by
  induction messages generalizing past with
  | nil => simp [calm, readings, answers]
  | cons message rest ih =>
    rw [calm, Bool.and_eq_true, ih, readings_cons message rest, answers_append,
      panics_readings_singleton, Nat.add_eq_zero_iff]
    cases panicsAt base sink past message <;> simp

/-- A worker that got through with what it took up got through with everything, and counted every
answer that is an error, just if the sink did not panic. -/
theorem complete_iff_calm {w after : Worker} {messages : List Received}
    (hsurplus : after.surplus sink = w.surplus sink)
    (hdelivered : after.delivered =
      w.delivered ++ readings base (takenUp base sink w.delivered messages))
    (hcount : after.tally.messages =
      w.tally.messages + (takenUp base sink w.delivered messages).length) :
    (after.delivered = w.delivered ++ readings base messages ∧
      after.tally.errors = w.tally.errors + messages.countP (·.unreadable) +
        answers sink Outcome.isError w.delivered (readings base messages)) ↔
      calm base sink w.delivered messages = true := by
  have herrors := errors_of_surplus hsurplus hdelivered hcount
  rw [answers_isError]
  constructor
  · rintro ⟨hall, hcounted⟩
    -- What is handed over is all there is to hand over, so the counts differ by the panics.
    have hreadings := List.append_cancel_left (hdelivered.symm.trans hall)
    have htaken := length_readings base (takenUp base sink w.delivered messages)
    have hmessages := length_readings base messages
    have hsplit :=
      congrArg List.length (@takenUp_append_dropped base sink w.delivered messages)
    rw [List.length_append] at hsplit
    rw [hreadings] at herrors htaken
    rw [calm_iff_panics]
    omega
  · intro hcalm
    have hpanics := (calm_iff_panics w.delivered messages).mp hcalm
    rw [takenUp_of_calm hcalm] at hdelivered herrors
    exact ⟨hdelivered, by rw [herrors, hpanics, Nat.add_zero]⟩

end Worker

theorem worker_fail (s : Subscriber) : s.fail.worker = s.worker := by
  rcases fail_cases s with ⟨attempt, delay, hs⟩ | hs | hs
  · rw [hs]
  · rw [hs]
    rfl
  · rw [hs]

theorem surplus_hear (now : Timestamp) (s : Subscriber) (traffic : Traffic) :
    (s.hear sink now traffic).worker.surplus sink = s.worker.surplus sink := by
  unfold hear
  split
  · unfold Subscriber.receive
    dsimp only
    rw [surplus_accept]
    split
    · exact surplus_work now s.worker
    · rfl
  · rw [worker_fail]
    exact surplus_drain now s.worker
  · rfl

theorem surplus_apply (s : Subscriber) (happening : Happening) :
    (happening.apply sink s).worker.surplus sink = s.worker.surplus sink := by
  cases happening with
  | polled now traffic => exact surplus_hear now s traffic
  | worked now => exact surplus_work now s.worker
  | updated topics => rfl
  | raised changed => rcases noteChange_cases s changed with hs | hs <;> rw [Happening.apply, hs]
  | looked =>
    rw [Happening.apply, cycle]
    split
    · split <;> rfl
    · rfl

/-- Neither what a session polls nor what its worker takes up makes a difference to its books. -/
theorem surplus_session (s : Subscriber) (happenings : List Happening) :
    (run sink s happenings).worker.surplus sink = s.worker.surplus sink := by
  induction happenings generalizing s with
  | nil => rfl
  | cons happening rest ih => exact (ih (happening.apply sink s)).trans (surplus_apply s happening)

theorem kept_of_open {s : Subscriber} {happenings : List Happening} {filters : List String}
    (hopen : (run sink s.subscribe happenings).phase = .subscribed filters) :
    Kept sink s happenings (run sink s.subscribe happenings) := by
  cases course_run sink s happenings with
  | opened _ _ kept => exact kept
  | leaving hphase => simp [hphase] at hopen
  | failed hnone => exact absurd hopen (hnone filters)

theorem surplus_subscribe (s : Subscriber) :
    s.subscribe.worker.surplus sink = s.worker.surplus sink := by
  unfold subscribe
  split
  · rfl
  · rw [worker_fail]

/-- A session that is open goes on whatever its sink does, and its worker gets through with the
messages up to the first that the sink panics at. The errors are those of them that could not be
read or were refused. So every message is handed over, and every answer that is an error counted,
just if the sink panics at none. -/
theorem heard_iff_calm {s : Subscriber} {happenings : List Happening} {filters : List String}
    (hopen : (run sink s.subscribe happenings).phase = .subscribed filters) (now : Timestamp) :
    let base := s.settings.topicPrefix
    let past := s.worker.delivered
    let messages := published happenings
    let taken := takenUp base sink past messages
    let after := (run sink s.subscribe happenings).drain sink now
    after.phase = .subscribed filters ∧
      after.worker.delivered = past ++ readings base taken ∧
      after.worker.tally.errors = s.worker.tally.errors + taken.countP (·.unreadable) +
        refusals sink past (readings base taken) ∧
      (after.worker.delivered = past ++ readings base messages ∧
          after.worker.tally.errors = s.worker.tally.errors + messages.countP (·.unreadable) +
            answers sink Outcome.isError past (readings base messages) ↔
        calm base sink past messages = true) := by
  intro base past messages taken after
  have hkept := kept_of_open hopen
  have hworker : after.worker =
      (run sink s.subscribe happenings).worker.drain base sink now := by
    simp only [after, Subscriber.drain, hkept.settings, base]
  obtain ⟨hdelivered, hcount, -⟩ := hkept.fed.drain now
  rw [← hworker] at hdelivered hcount
  have hsurplus : after.worker.surplus sink = s.worker.surplus sink := by
    rw [hworker, surplus_drain, surplus_session, surplus_subscribe]
  exact ⟨hopen, hdelivered, errors_of_surplus hsurplus hdelivered hcount,
    complete_iff_calm hsurplus hdelivered hcount⟩

/-- A sink that panics at the first delivery and takes all others. -/
def panicsOnce : Sink := fun past _ => if past.isEmpty then .panicked else .done

/-- The broker sends a message twice, and the worker takes up the first before the second comes. -/
def sentTwice (now : Timestamp) : List Happening :=
  [.polled now numberOne, .worked now, .polled now numberOne]

/-- The second message finds no worker. -/
theorem heard_iff_calm_panicsOnce :
    let now : Timestamp := .epoch
    let base := acknowledgedTo.settings.topicPrefix
    let after := (run panicsOnce acknowledgedTo.subscribe (sentTwice now)).drain panicsOnce now
    after.phase = .subscribed ["a"] ∧ calm base panicsOnce [] (published (sentTwice now)) = false ∧
      ¬(after.worker.delivered = readings base (published (sentTwice now)) ∧
        after.worker.tally.errors =
          answers panicsOnce Outcome.isError [] (readings base (published (sentTwice now)))) := by
  intro now base after
  have hopen : (run panicsOnce acknowledgedTo.subscribe (sentTwice now)).phase =
      .subscribed ["a"] := by decide
  obtain ⟨hphase, -, -, hiff⟩ := heard_iff_calm hopen now
  have hpanics : calm base panicsOnce [] (published (sentTwice now)) = false := by decide
  refine ⟨hphase, hpanics, fun h => ?_⟩
  have hcalm := hiff.mp ⟨h.1, h.2.trans (by decide)⟩
  exact Bool.false_ne_true (hpanics.symm.trans hcalm)

/-- Both messages can be read. One is handed over, and the panic is no error. -/
theorem panic_silences :
    let now : Timestamp := .epoch
    let after := (run panicsOnce acknowledgedTo.subscribe (sentTwice now)).drain panicsOnce now
    after.phase = .subscribed ["a"] ∧
      (published (sentTwice now)).countP (·.unreadable) = 0 ∧
      (readings acknowledgedTo.settings.topicPrefix (published (sentTwice now))).length = 2 ∧
      after.worker.delivered.length = 1 ∧ after.worker.tally.errors = 0 := by
  decide

end EventBus.Subscriber
