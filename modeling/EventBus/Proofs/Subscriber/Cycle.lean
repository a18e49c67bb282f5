import EventBus.Proofs.Subscriber.Listener
import EventBus.Proofs.Subscriber.Worker
import Mathlib.Data.List.Induction

namespace EventBus.Subscriber

open Worker

/-- What happens from the time that a session is subscribed. -/
inductive Happening where
  /-- The session polled its connection, and this came in or went out. -/
  | polled (now : Timestamp) (traffic : Traffic)
  | worked (now : Timestamp)
  /-- Someone put down other topics. -/
  | updated (topics : List String)
  /-- Someone raised the flag, if there was a reason to. -/
  | raised (changed : Bool)
  /-- The session looked at the flag. -/
  | looked

def Happening.apply (sink : Sink) (s : Subscriber) : Happening → Subscriber
  | .polled now traffic => s.hear sink now traffic
  | .worked now => s.work sink now
  | .updated topics => s.setTopics topics
  | .raised changed => s.noteChange changed
  | .looked => s.cycle

/-- The message that was polled, if it was one. -/
def Happening.message? : Happening → Option Received
  | .polled _ traffic =>
    match traffic.route with
    | .message topic payload _ => some ⟨topic, payload⟩
    | _ => none
  | .worked _ | .updated _ | .raised _ | .looked => none

def run (sink : Sink) (s : Subscriber) (happenings : List Happening) : Subscriber :=
  happenings.foldl (fun s happening => happening.apply sink s) s

def published (happenings : List Happening) : List Received :=
  happenings.filterMap Happening.message?

variable {sink : Sink}

theorem run_append (s : Subscriber) (front back : List Happening) :
    run sink s (front ++ back) = run sink (run sink s front) back :=
  List.foldl_append

theorem published_append (front back : List Happening) :
    published (front ++ back) = published front ++ published back :=
  List.filterMap_append

/-- The worker of a session that began with `s` was given what was polled in `happenings`. -/
structure Kept (sink : Sink) (s : Subscriber) (happenings : List Happening) (t : Subscriber) :
    Prop where
  settings : t.settings = s.settings
  fed : Fed s.settings.topicPrefix sink s.worker.delivered s.worker.tally.messages
    (published happenings) t.worker

namespace Kept

variable {s t : Subscriber} {happenings : List Happening}

theorem rest (h : Kept sink s happenings t) {happening : Happening}
    (hquiet : happening.message? = none) (after : Subscriber)
    (hsettings : after.settings = t.settings) (hworker : after.worker = t.worker) :
    Kept sink s (happenings ++ [happening]) after := by
  refine ⟨hsettings.trans h.settings, ?_⟩
  have hpublished : published (happenings ++ [happening]) = published happenings := by
    simp [published, hquiet]
  rw [hpublished, hworker]
  exact h.fed

theorem work (h : Kept sink s happenings t) (now : Timestamp) :
    Kept sink s happenings (t.work sink now) := by
  refine ⟨h.settings, ?_⟩
  have hfed := h.fed.work now
  rwa [← h.settings] at hfed ⊢

theorem receive (h : Kept sink s happenings t) {now : Timestamp} {happening : Happening}
    {message : Received} (hmessage : happening.message? = some message) :
    Kept sink s (happenings ++ [happening]) (t.receive sink now message) := by
  have hpublished : published (happenings ++ [happening]) = published happenings ++ [message] := by
    simp [published, hmessage]
  unfold Subscriber.receive
  refine ⟨?_, ?_⟩
  · dsimp only
    split
    · exact h.settings
    · exact h.settings
  · rw [hpublished]
    dsimp only
    split
    · exact (h.work now).fed.accept message
    · exact h.fed.accept message

end Kept

theorem hear_of_phase {s : Subscriber} (h : ∀ filters, s.phase ≠ .subscribed filters)
    (now : Timestamp) (traffic : Traffic) : s.hear sink now traffic = s := by
  unfold hear
  split
  · next filters _ _ _ hphase _ => exact absurd hphase (h filters)
  · next filters hphase _ => exact absurd hphase (h filters)
  · rfl

theorem cycle_of_phase {s : Subscriber} (h : ∀ filters, s.phase ≠ .subscribed filters) :
    s.cycle = s := by
  unfold cycle
  split
  · next filters hphase => exact absurd hphase (h filters)
  · rfl

theorem noteChange_cases (s : Subscriber) (changed : Bool) :
    s.noteChange changed = { s with reconnectRequested := true } ∨ s.noteChange changed = s := by
  unfold noteChange
  split
  · exact .inl rfl
  · exact .inr rfl

theorem phase_apply {s : Subscriber} (h : ∀ filters, s.phase ≠ .subscribed filters)
    (happening : Happening) : (happening.apply sink s).phase = s.phase := by
  cases happening with
  | polled now traffic => rw [Happening.apply, hear_of_phase h]
  | worked now => rfl
  | updated topics => rfl
  | raised changed => rcases noteChange_cases s changed with hs | hs <;> rw [Happening.apply, hs]
  | looked => rw [Happening.apply, cycle_of_phase h]

theorem Kept.leave {s t : Subscriber} {happenings : List Happening}
    (h : Kept sink s happenings t) (hphase : t.phase = .closing) (happening : Happening) :
    Kept sink s happenings (happening.apply sink t) := by
  have hleft : ∀ filters, t.phase ≠ .subscribed filters := by simp [hphase]
  cases happening with
  | polled now traffic => rwa [Happening.apply, hear_of_phase hleft]
  | worked now => exact h.work now
  | updated topics => exact ⟨h.settings, h.fed⟩
  | raised changed =>
    rw [Happening.apply]
    rcases noteChange_cases t changed with ht | ht <;> rw [ht]
    · exact ⟨h.settings, h.fed⟩
    · exact h
  | looked => rwa [Happening.apply, cycle_of_phase hleft]

/-- Where the session that began with `s` has got to. -/
inductive Course (sink : Sink) (s : Subscriber) (happenings : List Happening) (t : Subscriber) :
    Prop where
  | opened (filters : List String) (phase : t.phase = .subscribed filters)
      (kept : Kept sink s happenings t)
  | leaving (phase : t.phase = .closing) (front back : List Happening)
      (hsplit : happenings = front ++ .looked :: back)
      (hopen : ∃ filters, (run sink s.subscribe front).phase = .subscribed filters)
      (flag : (run sink s.subscribe front).reconnectRequested = true)
      (kept : Kept sink s front t)
  | failed (hopen : ∀ filters, t.phase ≠ .subscribed filters) (hleaving : t.phase ≠ .closing)

theorem failed_fail (s t : Subscriber) (happenings : List Happening) :
    Course sink s happenings t.fail := by
  rcases fail_cases t with ⟨attempt, delay, ht⟩ | ht | ht
  · rw [ht]
    exact .failed (by simp) (by simp)
  · rw [ht]
    exact .failed (by simp [halt]) (by simp [halt])
  · rw [ht]
    exact .failed (by simp) (by simp)

theorem course_subscribe (s : Subscriber) : Course sink s [] s.subscribe := by
  unfold subscribe
  split
  · exact .opened s.plan rfl ⟨rfl, fed_renew s.worker⟩
  · exact failed_fail s s []

/-- What is polled while the session is open goes to the worker, unless it ends the session. -/
theorem Kept.poll {s t : Subscriber} {happenings : List Happening} {filters : List String}
    (h : Kept sink s happenings t) (hphase : t.phase = .subscribed filters) (now : Timestamp)
    (traffic : Traffic) :
    Course sink s (happenings ++ [.polled now traffic]) (t.hear sink now traffic) := by
  unfold hear
  rw [hphase]
  split
  · next others topic payload retain hopen hroute =>
    have hmessage : (Happening.polled now traffic).message? = some ⟨topic, payload⟩ := by
      simp [Happening.message?, hroute]
    refine .opened filters ?_ (h.receive hmessage)
    unfold Subscriber.receive
    dsimp only
    split <;> exact hphase
  · exact failed_fail s _ _
  · next hmessage hdisconnect =>
    have hquiet : (Happening.polled now traffic).message? = none := by
      unfold Happening.message?
      dsimp only
      split
      · next topic payload retain hroute => exact absurd hroute (hmessage _ _ _ _ rfl)
      · rfl
    exact .opened filters hphase (h.rest hquiet _ rfl rfl)

theorem Course.step {s : Subscriber} {happenings : List Happening}
    (h : Course sink s happenings (run sink s.subscribe happenings)) (happening : Happening) :
    Course sink s (happenings ++ [happening])
      (happening.apply sink (run sink s.subscribe happenings)) := by
  cases h with
  | opened filters hphase kept =>
    cases happening with
    | polled now traffic => exact kept.poll hphase now traffic
    | worked now => exact .opened filters hphase ((kept.work now).rest rfl _ rfl rfl)
    | updated topics => exact .opened filters hphase (kept.rest rfl _ rfl rfl)
    | raised changed =>
      rw [Happening.apply]
      rcases noteChange_cases (run sink s.subscribe happenings) changed with ht | ht <;> rw [ht]
      · exact .opened filters hphase (kept.rest rfl _ rfl rfl)
      · exact .opened filters hphase (kept.rest rfl _ rfl rfl)
    | looked =>
      rw [Happening.apply, cycle, hphase]
      dsimp only
      split
      · next hflag =>
        exact .leaving rfl happenings [] rfl ⟨filters, hphase⟩ hflag ⟨kept.settings, kept.fed⟩
      · exact .opened filters hphase (kept.rest rfl _ rfl rfl)
  | leaving hphase front back hsplit hopen flag kept =>
    -- The worker stays with the messages of `front`, whatever is polled from here on.
    refine .leaving ?_ front (back ++ [happening]) ?_ hopen flag (kept.leave hphase happening)
    · exact (phase_apply (by simp [hphase]) happening).trans hphase
    · rw [hsplit, List.append_assoc, List.cons_append]
  | failed hopen hleaving =>
    refine .failed ?_ ?_
    · rwa [phase_apply hopen happening]
    · rwa [phase_apply hopen happening]

theorem course_run (sink : Sink) (s : Subscriber) (happenings : List Happening) :
    Course sink s happenings (run sink s.subscribe happenings) := by
  induction happenings using List.reverseRecOn with
  | nil => exact course_subscribe s
  | append_singleton happenings happening ih =>
    rw [run_append]
    exact ih.step happening

theorem split_of_closing {s : Subscriber} {happenings : List Happening}
    (h : (run sink s.subscribe happenings).phase = .closing) :
    ∃ front back, happenings = front ++ .looked :: back ∧
      (∃ filters, (run sink s.subscribe front).phase = .subscribed filters) ∧
      (run sink s.subscribe front).reconnectRequested = true ∧
      Kept sink s front (run sink s.subscribe happenings) := by
  cases course_run sink s happenings with
  | opened filters hphase kept => simp [hphase] at h
  | leaving hphase front back hsplit hopen flag kept =>
    exact ⟨front, back, hsplit, hopen, flag, kept⟩
  | failed hopen hleaving => exact absurd h hleaving

theorem Kept.close {s t : Subscriber} {happenings : List Happening}
    (h : Kept sink s happenings t) (hphase : t.phase = .closing) (now : Timestamp) :
    (t.close sink now).phase = .opening ∧
      (t.close sink now).worker = t.worker.drain s.settings.topicPrefix sink now := by
  rw [Subscriber.close, hphase]
  exact ⟨rfl, by rw [← h.settings]; rfl⟩

/-- A session that is cycled hands over, in the order in which they were polled, the messages that
were polled before it saw the flag, up to one that the sink panics at. So all that can be read is
handed over just if none of it was polled while the session took leave, and none dropped after a
panic. -/
theorem close_delivers {now : Timestamp} {s : Subscriber} {happenings : List Happening}
    (hclosing : (run sink s.subscribe happenings).phase = .closing) :
    let base := s.settings.topicPrefix
    let past := s.worker.delivered
    let closed := (run sink s.subscribe happenings).close sink now
    closed.phase = .opening ∧
      ∃ front back, happenings = front ++ .looked :: back ∧
        (∃ filters, (run sink s.subscribe front).phase = .subscribed filters) ∧
        (run sink s.subscribe front).reconnectRequested = true ∧
        closed.worker.delivered =
          past ++ readings base (takenUp base sink past (published front)) ∧
        closed.worker.tally.messages =
          s.worker.tally.messages + (takenUp base sink past (published front)).length ∧
        (closed.worker.delivered = past ++ readings base (published happenings) ↔
          readings base (dropped base sink past (published front)) = [] ∧
            readings base (published back) = []) := by
  intro base past closed
  obtain ⟨front, back, hsplit, hopen, hflag, hkept⟩ := split_of_closing hclosing
  obtain ⟨hphase, hworker⟩ := hkept.close hclosing now
  obtain ⟨hdelivered, hcount, -⟩ := hkept.fed.drain now
  rw [← hworker] at hdelivered hcount
  refine ⟨hphase, front, back, hsplit, hopen, hflag, hdelivered, hcount, ?_⟩
  have hpublished : published happenings =
      takenUp base sink past (published front) ++
        (dropped base sink past (published front) ++ published back) := by
    rw [← List.append_assoc, takenUp_append_dropped, hsplit, published_append]
    rfl
  rw [hdelivered, hpublished, readings_append, readings_append, ← List.append_assoc,
    List.self_eq_append_right, List.append_eq_nil_iff]

/-- The broker sends the number one, on topic `a`. -/
def numberOne : Traffic := .incoming (.publish [97] [49] false)

/-- A session is told to end between two messages, and polls the second while it takes leave. -/
def toldBetween (now : Timestamp) : List Happening :=
  [.polled now numberOne, .raised true, .looked, .polled now numberOne]

/-- A subscriber to `a` that the broker acknowledged a session of. -/
def acknowledgedTo : Subscriber := (start { settings := .standard "c" } ["a"]).acknowledge

theorem close_delivers_toldBetween :
    let now : Timestamp := .epoch
    let sink : Sink := fun _ _ => .done
    let base := acknowledgedTo.settings.topicPrefix
    let past := acknowledgedTo.worker.delivered
    let left := run sink acknowledgedTo.subscribe (toldBetween now)
    let closed := left.close sink now
    left.phase = .closing ∧ closed.phase = .opening ∧
      ∃ front back, toldBetween now = front ++ .looked :: back ∧
        (∃ filters, (run sink acknowledgedTo.subscribe front).phase = .subscribed filters) ∧
        (run sink acknowledgedTo.subscribe front).reconnectRequested = true ∧
        closed.worker.delivered =
          past ++ readings base (takenUp base sink past (published front)) ∧
        closed.worker.tally.messages = acknowledgedTo.worker.tally.messages +
          (takenUp base sink past (published front)).length ∧
        (closed.worker.delivered = past ++ readings base (published (toldBetween now)) ↔
          readings base (dropped base sink past (published front)) = [] ∧
            readings base (published back) = []) := by
  intro now sink base past left closed
  have hclosing : left.phase = .closing := by decide
  exact ⟨hclosing, close_delivers hclosing⟩

/-- The second message is lost. -/
theorem close_not_delivers :
    let now : Timestamp := .epoch
    let sink : Sink := fun _ _ => .done
    let left := run sink acknowledgedTo.subscribe (toldBetween now)
    left.phase = .closing ∧
      (left.close sink now).worker.delivered ≠ acknowledgedTo.worker.delivered ++
        readings acknowledgedTo.settings.topicPrefix (published (toldBetween now)) := by
  intro now sink left
  refine ⟨by decide, fun h => ?_⟩
  have hlength := congrArg List.length h
  revert hlength
  decide

end EventBus.Subscriber
