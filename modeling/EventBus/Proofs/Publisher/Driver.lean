import EventBus.Proofs.Publisher.Queue

namespace EventBus.Publisher

open Connection (RetryPolicy Options)
open EventBus.Publisher.Flow (plain)

/-- A session, and whether it was asked to end. -/
structure Driver where
  session : Session
  shutdown : Bool := false

namespace Driver

inductive Event where
  | polled (traffic : Traffic)
  | failed (reason : String)
  /-- The driver has waited, and makes a new link if it can. -/
  | rebuilt (result : Except Connection.Error Options)
  | asked
  /-- The driver sees that it was asked to end, while it polls or waits. -/
  | heeded

namespace Event

def apply (d : Driver) : Event → Driver
  | .polled traffic => { d with session := d.session.observe traffic }
  | .failed reason => { d with session := d.session.fail reason d.shutdown }
  | .rebuilt result => { d with session := d.session.resume result }
  | .asked => { d with shutdown := true }
  | .heeded => { d with session := d.session.finish }

def Enabled (d : Driver) : Event → Prop
  | .polled _ | .failed _ => d.session.phase = .polling
  | .rebuilt _ => ∃ delay, d.session.phase = .waiting delay
  | .asked => True
  | .heeded => d.shutdown = true ∧ d.session.phase ≠ .ended

def acknowledges : Event → Bool
  | .polled traffic => traffic.route = .connected
  | .failed _ | .rebuilt _ | .asked | .heeded => false

def sets : Event → Bool
  | .polled traffic => traffic.route = .connected ∨ traffic.route = .disconnected
  | .failed _ => true
  | .rebuilt _ | .asked | .heeded => false

def count (failures : Nat) : Event → Nat
  | .failed _ => failures + 1
  | event => if event.acknowledges then 0 else failures

end Event

/-- The runs of a driver, with what happened, the oldest first. -/
inductive Run (policy : RetryPolicy) (options : Options) : List Event → Driver → Prop where
  | start : Run policy options [] { session := .new policy options }
  | step {events : List Event} {d : Driver} (h : Run policy options events d) (event : Event)
      (he : event.Enabled d) : Run policy options (events ++ [event]) (event.apply d)

def acknowledged (events : List Event) : Bool := events.any (·.acknowledges)

def asked (events : List Event) : Bool := events.any fun
  | .asked => true
  | _ => false

/-- Failures since the broker last acknowledged the session. -/
def failures (events : List Event) : Nat := events.foldl Event.count 0

/-- A session that came through these events gives up at its next failure. -/
structure Exhausting (policy : RetryPolicy) (events : List Event) : Prop where
  acknowledged : acknowledged events = true
  unasked : asked events = false
  limited : 0 < policy.maxAttempts
  spent : failures events = policy.maxAttempts.toNat

variable {policy : RetryPolicy} {options : Options} {events : List Event} {d : Driver}
  {event : Event}

theorem acknowledged_append (events : List Event) (event : Event) :
    acknowledged (events ++ [event]) = (acknowledged events || event.acknowledges) := by
  simp [acknowledged]

theorem asked_append (events : List Event) (event : Event) :
    asked (events ++ [event]) = (asked events || asked [event]) := by
  simp [asked]

theorem failures_append (events : List Event) (event : Event) :
    failures (events ++ [event]) = event.count (failures events) := by
  simp [failures]

section Failure
variable {s : Session} {reason : String} {shutdown : Bool}

theorem fail_keeps (s : Session) (reason : String) (shutdown : Bool) :
    (s.fail reason shutdown).policy = s.policy ∧
      (s.fail reason shutdown).established = s.established := by
  unfold Session.fail
  dsimp only
  split
  · split
    · unfold Session.retry
      split <;> exact ⟨rfl, rfl⟩
    · exact ⟨rfl, rfl⟩
  · exact ⟨rfl, rfl⟩
  · exact ⟨rfl, rfl⟩

theorem fail_of_new (hphase : s.phase = .polling) (h : s.established = false) :
    s.fail reason shutdown =
      { s with phase := .ended, state := .disconnected reason, connected := false } := by
  unfold Session.fail
  rw [hphase]
  exact if_neg (by simp [Session.enter, h])

theorem fail_of_established (hphase : s.phase = .polling) (h : s.established = true) :
    s.fail reason shutdown = (s.enter (.networkError reason)).retry shutdown := by
  unfold Session.fail
  rw [hphase]
  exact if_pos h

theorem fail_of_asked (hphase : s.phase = .polling) (h : s.established = true) :
    s.fail reason true =
      { s with phase := .ended, state := .disconnected reason, connected := false } := by
  rw [fail_of_established hphase h]
  rfl

theorem fail_of_left (hphase : s.phase = .polling) (h : s.established = true)
    (hleft : ¬(0 < s.policy.maxAttempts ∧ s.policy.maxAttempts ≤ s.attempts))
    (hfits : s.attempts.toNat + 1 < 2 ^ 32) :
    s.fail reason false =
      { s with
        attempts := s.attempts + 1
        phase := .waiting s.policy.delay
        state := .reconnecting (s.attempts + 1)
        connected := false } := by
  rw [fail_of_established hphase h]
  simp only [Session.retry, Session.enter, RetryPolicy.decide_of_left hleft hfits]
  rfl

theorem fail_of_full (hphase : s.phase = .polling) (h : s.established = true)
    (hleft : ¬(0 < s.policy.maxAttempts ∧ s.policy.maxAttempts ≤ s.attempts))
    (hfull : ¬s.attempts.toNat + 1 < 2 ^ 32) :
    s.fail reason false =
      { s with phase := .ended, state := .disconnected reason, connected := false } := by
  rw [fail_of_established hphase h]
  simp only [Session.retry, Session.enter, RetryPolicy.decide_of_full hleft hfull]
  rfl

theorem fail_of_spent (hphase : s.phase = .polling) (h : s.established = true)
    (hspent : 0 < s.policy.maxAttempts ∧ s.policy.maxAttempts ≤ s.attempts) :
    s.fail reason false =
      { s with
        phase := .ended
        state := .permanentlyDisconnected (Session.exhaustedReason s.policy)
        connected := false } := by
  rw [fail_of_established hphase h]
  simp only [Session.retry, Session.enter, RetryPolicy.decide_of_spent hspent]
  rfl

theorem fail_connected (hphase : s.phase = .polling) :
    (s.fail reason shutdown).connected = (s.fail reason shutdown).state.isConnected := by
  cases hestablished : s.established with
  | false =>
    rw [fail_of_new hphase hestablished]
    rfl
  | true =>
    cases shutdown with
    | true =>
      rw [fail_of_asked hphase hestablished]
      rfl
    | false =>
      by_cases hspent : 0 < s.policy.maxAttempts ∧ s.policy.maxAttempts ≤ s.attempts
      · rw [fail_of_spent hphase hestablished hspent]
        rfl
      · by_cases hfits : s.attempts.toNat + 1 < 2 ^ 32
        · rw [fail_of_left hphase hestablished hspent hfits]
          rfl
        · rw [fail_of_full hphase hestablished hspent hfits]
          rfl

end Failure

theorem observe_cases {s : Session} (hphase : s.phase = .polling) (traffic : Traffic) :
    ((Event.polled traffic).acknowledges = true ∧ s.observe traffic =
      { s with established := true, attempts := 0, state := .connected, connected := true }) ∨
    ((Event.polled traffic).acknowledges = false ∧ (Event.polled traffic).sets = true ∧
      s.observe traffic =
        { s with state := .disconnected "Broker disconnected", connected := false }) ∨
    ((Event.polled traffic).acknowledges = false ∧ (Event.polled traffic).sets = false ∧
      s.observe traffic = s) := by
  cases hroute : traffic.route with
  | connected =>
    have hobserve : s.observe traffic =
        { s with established := true, attempts := 0 }.enter .acknowledged := by
      simp only [Session.observe, hphase, hroute]
    exact .inl ⟨by simp [Event.acknowledges, hroute], hobserve⟩
  | disconnected =>
    have hobserve : s.observe traffic = s.enter .closedByBroker := by
      simp only [Session.observe, hphase, hroute]
    exact .inr (.inl ⟨by simp [Event.acknowledges, hroute], by simp [Event.sets, hroute], hobserve⟩)
  | message | subscribed | housekeeping | outgoing =>
    refine .inr (.inr ⟨by simp [Event.acknowledges, hroute], by simp [Event.sets, hroute], ?_⟩)
    simp only [Session.observe, hphase, hroute]

theorem resume_of_waiting {s : Session} {delay : Duration} (hphase : s.phase = .waiting delay)
    (result : Except Connection.Error Options) :
    ∃ link, s.resume result = { s with phase := .polling, link } := by
  unfold Session.resume
  rw [hphase]
  cases result with
  | ok options => exact ⟨{ options }, rfl⟩
  | error error => exact ⟨s.link, rfl⟩

/-- How a session stands that came through these events. -/
inductive Standing (policy : RetryPolicy) (events : List Event) (s : Session) : Prop where
  | live (phase : s.phase ≠ .ended) (connected : s.connected = s.state.isConnected)
      (attempts : s.attempts.toNat = failures events)
      (within : 0 < policy.maxAttempts → failures events ≤ policy.maxAttempts.toNat)
      (state : ∀ reason, s.state ≠ .permanentlyDisconnected reason)
  | ended (phase : s.phase = .ended) (connected : s.connected = false)
      (state : ∀ reason, s.state = .permanentlyDisconnected reason →
        reason = Session.exhaustedReason policy ∧ ∃ front last back,
          events = front ++ .failed last :: back ∧ Exhausting policy front)

structure Accounted (policy : RetryPolicy) (events : List Event) (d : Driver) : Prop where
  keeps : d.session.policy = policy
  shutdown : d.shutdown = asked events
  established : d.session.established = acknowledged events
  standing : Standing policy events d.session

theorem accounted_new (policy : RetryPolicy) (options : Options) :
    Accounted policy [] { session := .new policy options } := by
  refine ⟨rfl, rfl, rfl, .live ?_ rfl rfl (fun _ => Nat.zero_le _) ?_⟩ <;> simp [Session.new]

theorem Accounted.live (h : Accounted policy events d) (hphase : d.session.phase ≠ .ended) :
    d.session.connected = d.session.state.isConnected ∧
      d.session.attempts.toNat = failures events ∧
      (0 < policy.maxAttempts → failures events ≤ policy.maxAttempts.toNat) ∧
      ∀ reason, d.session.state ≠ .permanentlyDisconnected reason := by
  cases h.standing with
  | live _ connected attempts within state => exact ⟨connected, attempts, within, state⟩
  | ended phase => exact absurd phase hphase

theorem Accounted.spent_iff (h : Accounted policy events d) (hphase : d.session.phase ≠ .ended) :
    (0 < d.session.policy.maxAttempts ∧ d.session.policy.maxAttempts ≤ d.session.attempts) ↔
      0 < policy.maxAttempts ∧ failures events = policy.maxAttempts.toNat := by
  rw [h.keeps]
  refine and_congr_right fun hlimit => ?_
  obtain ⟨-, hattempts, hwithin, -⟩ := h.live hphase
  rw [UInt32.le_iff_toNat_le, hattempts]
  exact ⟨Nat.le_antisymm (hwithin hlimit), Nat.le_of_eq ∘ Eq.symm⟩

theorem Accounted.standing_ended (h : Accounted policy events d) (hphase : d.session.phase = .ended)
    (event : Event) : Standing policy (events ++ [event]) d.session := by
  cases h.standing with
  | live phase => exact absurd hphase phase
  | ended phase connected state =>
    refine .ended phase connected fun reason hreason => ?_
    obtain ⟨hlast, front, last, back, hevents, hexhausting⟩ := state reason hreason
    exact ⟨hlast, front, last, back ++ [event], by simp [hevents], hexhausting⟩

theorem Accounted.append (h : Accounted policy events d) {session : Session}
    (keeps : session.policy = d.session.policy)
    (established : session.established = (d.session.established || event.acknowledges))
    (unasked : asked [event] = false) (standing : Standing policy (events ++ [event]) session) :
    Accounted policy (events ++ [event]) { d with session } := by
  refine ⟨keeps.trans h.keeps, ?_, ?_, standing⟩
  · rw [asked_append, unasked, Bool.or_false]
    exact h.shutdown
  · rw [acknowledged_append, ← h.established]
    exact established

theorem Accounted.standing_goesOn (h : Accounted policy events d) (hlive : d.session.phase ≠ .ended)
    (hcount : event.count (failures events) = failures events) {session : Session}
    (attempts : session.attempts = d.session.attempts) (phase : session.phase ≠ .ended)
    (connected : session.connected = session.state.isConnected)
    (state : ∀ reason, session.state ≠ .permanentlyDisconnected reason) :
    Standing policy (events ++ [event]) session := by
  obtain ⟨-, hattempts, hwithin, -⟩ := h.live hlive
  have hfailures : failures (events ++ [event]) = failures events :=
    (failures_append events event).trans hcount
  refine .live phase connected ?_ ?_ state
  · rw [attempts, hattempts, hfailures]
  · rwa [hfailures]

theorem Accounted.polled (h : Accounted policy events d) (traffic : Traffic)
    (hphase : d.session.phase = .polling) :
    Accounted policy (events ++ [.polled traffic]) (Event.apply d (.polled traffic)) := by
  have hlive : d.session.phase ≠ .ended := by simp [hphase]
  obtain ⟨connected, -, -, state⟩ := h.live hlive
  simp only [Event.apply]
  rcases observe_cases hphase traffic with ⟨hack, hs⟩ | ⟨hack, -, hs⟩ | ⟨hack, -, hs⟩
  · have hfailures : failures (events ++ [.polled traffic]) = 0 := by
      simp [failures_append, Event.count, hack]
    rw [hs]
    refine h.append rfl (by simp [hack]) rfl (.live hlive rfl ?_ ?_ (by simp))
    · rw [hfailures]
      rfl
    · simp [hfailures]
  · have hcount : (Event.polled traffic).count (failures events) = failures events := by
      simp [Event.count, hack]
    rw [hs]
    exact h.append rfl (by simp [hack]) rfl (h.standing_goesOn hlive hcount rfl hlive rfl (by simp))
  · have hcount : (Event.polled traffic).count (failures events) = failures events := by
      simp [Event.count, hack]
    rw [hs]
    exact h.append rfl (by simp [hack]) rfl
      (h.standing_goesOn hlive hcount rfl hlive connected state)

theorem Accounted.standing_fail (h : Accounted policy events d) (reason : String)
    (hphase : d.session.phase = .polling) :
    Standing policy (events ++ [.failed reason]) (d.session.fail reason d.shutdown) := by
  have hlive : d.session.phase ≠ .ended := by simp [hphase]
  obtain ⟨-, attempts, within, -⟩ := h.live hlive
  cases hestablished : d.session.established with
  | false =>
    rw [fail_of_new hphase hestablished]
    exact .ended rfl rfl (by simp)
  | true =>
    cases hshutdown : d.shutdown with
    | true =>
      rw [fail_of_asked hphase hestablished]
      exact .ended rfl rfl (by simp)
    | false =>
      by_cases hspent : 0 < d.session.policy.maxAttempts ∧
          d.session.policy.maxAttempts ≤ d.session.attempts
      · obtain ⟨hlimit, hfailures⟩ := (h.spent_iff hlive).mp hspent
        have hexhausting : Exhausting policy events :=
          ⟨h.established.symm.trans hestablished, h.shutdown.symm.trans hshutdown, hlimit,
            hfailures⟩
        rw [fail_of_spent hphase hestablished hspent, h.keeps]
        refine .ended rfl rfl fun last hlast => ⟨?_, events, reason, [], rfl, hexhausting⟩
        exact (Connection.State.permanentlyDisconnected.inj hlast).symm
      · have hfailures : failures (events ++ [.failed reason]) = failures events + 1 :=
          failures_append events (.failed reason)
        by_cases hfits : d.session.attempts.toNat + 1 < 2 ^ 32
        · rw [fail_of_left hphase hestablished hspent hfits]
          refine .live (by simp) rfl ?_ (fun hlimit => ?_) (by simp)
          · rw [hfailures, ← attempts]
            exact (UInt32.toNat_add ..).trans (Nat.mod_eq_of_lt hfits)
          · have hle := within hlimit
            have hne : failures events ≠ policy.maxAttempts.toNat := fun heq =>
              hspent ((h.spent_iff hlive).mpr ⟨hlimit, heq⟩)
            omega
        · rw [fail_of_full hphase hestablished hspent hfits]
          exact .ended rfl rfl (by simp)

theorem Accounted.rebuilt (h : Accounted policy events d)
    (result : Except Connection.Error Options) {delay : Duration}
    (hphase : d.session.phase = .waiting delay) :
    Accounted policy (events ++ [.rebuilt result]) (Event.apply d (.rebuilt result)) := by
  have hlive : d.session.phase ≠ .ended := by simp [hphase]
  obtain ⟨connected, -, -, state⟩ := h.live hlive
  obtain ⟨link, hresume⟩ := resume_of_waiting hphase result
  simp only [Event.apply, hresume]
  exact h.append rfl (Bool.or_false _).symm rfl
    (h.standing_goesOn hlive rfl rfl (by simp) connected state)

theorem Accounted.asked (h : Accounted policy events d) :
    Accounted policy (events ++ [.asked]) (Event.apply d .asked) := by
  have hfailures : failures (events ++ [.asked]) = failures events := failures_append events .asked
  refine ⟨h.keeps, by simp [Event.apply, Driver.asked], ?_, ?_⟩
  · rw [acknowledged_append]
    exact h.established.trans (Bool.or_false _).symm
  · cases h.standing with
    | live phase connected attempts within state =>
      exact .live phase connected (hfailures ▸ attempts) (hfailures ▸ within) state
    | ended phase => exact h.standing_ended phase .asked

theorem Accounted.heeded (h : Accounted policy events d) (hphase : d.session.phase ≠ .ended) :
    Accounted policy (events ++ [.heeded]) (Event.apply d .heeded) := by
  obtain ⟨-, -, -, state⟩ := h.live hphase
  exact h.append rfl (Bool.or_false _).symm rfl
    (.ended rfl rfl fun reason hreason => absurd hreason (state reason))

theorem Accounted.step (h : Accounted policy events d) (he : event.Enabled d) :
    Accounted policy (events ++ [event]) (event.apply d) := by
  cases event with
  | polled traffic => exact h.polled traffic he
  | failed reason =>
    obtain ⟨hpolicy, hestablished⟩ := fail_keeps d.session reason d.shutdown
    refine h.append hpolicy ?_ rfl (h.standing_fail reason he)
    exact hestablished.trans (Bool.or_false _).symm
  | rebuilt result =>
    obtain ⟨delay, hphase⟩ := he
    exact h.rebuilt result hphase
  | asked => exact h.asked
  | heeded => exact h.heeded he.2

theorem Run.accounted (h : Run policy options events d) : Accounted policy events d := by
  induction h with
  | start => exact accounted_new policy options
  | step h event he ih => exact ih.step he

theorem isConnected_iff (state : Connection.State) :
    state.isConnected = true ↔ state = .connected := by
  cases state <;> simp [Connection.State.isConnected]

theorem connected_of_sets (he : event.Enabled d) (hsets : event.sets = true) :
    (event.apply d).session.connected = (event.apply d).session.state.isConnected := by
  cases event with
  | polled traffic =>
    have hphase : d.session.phase = .polling := he
    rcases observe_cases hphase traffic with ⟨-, hs⟩ | ⟨-, -, hs⟩ | ⟨-, hrests, -⟩
    · simp only [Event.apply, hs, Connection.State.isConnected]
    · simp only [Event.apply, hs, Connection.State.isConnected]
    · rw [hrests] at hsets
      cases hsets
  | failed reason => exact fail_connected he
  | rebuilt | asked | heeded => cases hsets

theorem Run.next_failure (h : Run policy options events d) (hphase : d.session.phase = .polling)
    (hacknowledged : acknowledged events = true) (hasked : asked events = false)
    (reason : String) :
    let k := failures events + 1
    let after := (Event.apply d (.failed reason)).session
    (policy.maxAttempts = 0 ∨ k ≤ policy.maxAttempts.toNat → k < 2 ^ 32 →
      after.phase = .waiting policy.delay ∧ after.state = .reconnecting (UInt32.ofNat k)) ∧
    (policy.maxAttempts = 0 → k = 2 ^ 32 →
      after.phase = .ended ∧ after.state = .disconnected reason) ∧
    (0 < policy.maxAttempts → k = policy.maxAttempts.toNat + 1 → after.phase = .ended ∧
      after.state = .permanentlyDisconnected (Session.exhaustedReason policy)) := by
  have haccounted := h.accounted
  have hlive : d.session.phase ≠ .ended := by simp [hphase]
  obtain ⟨-, hattempts, -, -⟩ := haccounted.live hlive
  have hestablished : d.session.established = true := haccounted.established.trans hacknowledged
  have hshutdown : d.shutdown = false := haccounted.shutdown.trans hasked
  have hkeeps := haccounted.keeps
  intro k after
  have hafter : after = d.session.fail reason false := by
    simp only [after, Event.apply, hshutdown]
  have hleft : policy.maxAttempts = 0 ∨ k ≤ policy.maxAttempts.toNat →
      ¬(0 < d.session.policy.maxAttempts ∧
        d.session.policy.maxAttempts ≤ d.session.attempts) := by
    intro hallowed
    rw [haccounted.spent_iff hlive]
    rintro ⟨hlimit, hfailures⟩
    rcases hallowed with hzero | hk
    · simp [hzero] at hlimit
    · omega
  refine ⟨fun hallowed hfits => ?_, fun hunlimited hfull => ?_, fun hlimit hlast => ?_⟩
  · have hnext : d.session.attempts + 1 = UInt32.ofNat k := by
      rw [← UInt32.ofNat_toNat (x := d.session.attempts), hattempts, UInt32.ofNat_add]
      rfl
    rw [hafter, fail_of_left hphase hestablished (hleft hallowed) (hattempts ▸ hfits), hkeeps,
      hnext]
    exact ⟨rfl, rfl⟩
  · have hfull : ¬d.session.attempts.toNat + 1 < 2 ^ 32 := by omega
    rw [hafter, fail_of_full hphase hestablished (hleft (.inl hunlimited)) hfull]
    exact ⟨rfl, rfl⟩
  · have hspent := (haccounted.spent_iff hlive).mpr ⟨hlimit, Nat.succ.inj hlast⟩
    rw [hafter, fail_of_spent hphase hestablished hspent, hkeeps]
    exact ⟨rfl, rfl⟩

theorem Run.failures_lt (h : Run policy options events d) (hlive : d.session.phase ≠ .ended) :
    failures events < 2 ^ 32 := by
  obtain ⟨-, hattempts, -, -⟩ := h.accounted.live hlive
  exact hattempts ▸ d.session.attempts.toNat_lt

/-- Whatever a driver polls, and whenever it is asked to end, it is connected just if it says so,
fails at once before it was ever acknowledged, and gives up at the failure its limit does not allow
and at no other. Without a limit it numbers its attempts as long as 32 bits last, and panics at the
failure after that. -/
theorem driver_sound (h : Run policy options events d) :
    (d.session.phase ≠ .ended → (d.session.connected = true ↔ d.session.state = .connected)) ∧
    (d.session.phase = .ended → d.session.connected = false) ∧
    (∀ event : Event, event.Enabled d → event.sets = true →
      let after := (event.apply d).session
      after.connected = true ↔ after.state = .connected) ∧
    (∀ reason, d.session.phase = .polling →
      let k := failures events + 1
      let after := (Event.apply d (.failed reason)).session
      (acknowledged events = false → after.phase = .ended ∧ after.state = .disconnected reason) ∧
      (acknowledged events = true → asked events = true →
        after.phase = .ended ∧ after.state = .disconnected reason) ∧
      (acknowledged events = true → asked events = false →
        (policy.maxAttempts = 0 → k < 2 ^ 32 → after.phase = .waiting policy.delay ∧
          ∃ attempt : UInt32, after.state = .reconnecting attempt ∧ attempt.toNat = k) ∧
        (policy.maxAttempts = 0 → ¬k < 2 ^ 32 →
          k = 2 ^ 32 ∧ after.phase = .ended ∧ after.state = .disconnected reason) ∧
        (k ≤ policy.maxAttempts.toNat → after.phase = .waiting policy.delay ∧
          ∃ attempt : UInt32, after.state = .reconnecting attempt ∧ attempt.toNat = k) ∧
        (0 < policy.maxAttempts → k ≤ policy.maxAttempts.toNat + 1) ∧
        (0 < policy.maxAttempts → k = policy.maxAttempts.toNat + 1 → after.phase = .ended ∧
          after.state = .permanentlyDisconnected (Session.exhaustedReason policy)))) ∧
    (∀ reason, d.session.state = .permanentlyDisconnected reason →
      d.session.phase = .ended ∧ ∃ front last back,
        events = front ++ .failed last :: back ∧ Exhausting policy front) := by
  have haccounted := h.accounted
  refine ⟨fun hlive => ?_, fun hended => ?_, fun event he hsets => ?_, fun reason hphase => ?_,
    fun reason hreason => ?_⟩
  · rw [(haccounted.live hlive).1]
    exact isConnected_iff _
  · cases haccounted.standing with
    | live phase => exact absurd hended phase
    | ended _ connected => exact connected
  · intro after
    rw [connected_of_sets he hsets]
    exact isConnected_iff _
  · have hlive : d.session.phase ≠ .ended := by simp [hphase]
    refine ⟨fun hnew => ?_, fun hacknowledged hasked => ?_, fun hacknowledged hasked => ?_⟩
    · have hnew : d.session.established = false := haccounted.established.trans hnew
      simp only [Event.apply, fail_of_new hphase hnew, and_self]
    · have hestablished : d.session.established = true :=
        haccounted.established.trans hacknowledged
      have hshutdown : d.shutdown = true := haccounted.shutdown.trans hasked
      simp only [Event.apply, hshutdown, fail_of_asked hphase hestablished, and_self]
    · obtain ⟨hallowed, hfull, hlast⟩ := h.next_failure hphase hacknowledged hasked reason
      have hnumbered := h.failures_lt hlive
      obtain ⟨-, -, hwithin, -⟩ := haccounted.live hlive
      refine ⟨fun hunlimited hk => ?_, fun hunlimited hk => ?_, fun hk => ?_,
        fun hlimit => Nat.succ_le_succ (hwithin hlimit), hlast⟩
      · obtain ⟨hwaits, hstate⟩ := hallowed (.inl hunlimited) hk
        exact ⟨hwaits, _, hstate, UInt32.toNat_ofNat_of_lt hk⟩
      · have hk : failures events + 1 = 2 ^ 32 := by omega
        exact ⟨hk, hfull hunlimited hk⟩
      · have hlt := policy.maxAttempts.toNat_lt
        have hfits : failures events + 1 < 2 ^ 32 := by omega
        obtain ⟨hwaits, hstate⟩ := hallowed (.inr hk) hfits
        exact ⟨hwaits, _, hstate, UInt32.toNat_ofNat_of_lt hfits⟩
  · cases haccounted.standing with
    | live _ _ _ _ state => exact absurd hreason (state reason)
    | ended phase _ state => exact ⟨phase, (state reason hreason).2⟩

/-- The broker answers, is lost, and is lost again after the one attempt that is allowed. -/
def lost : List Event :=
  [.polled (.incoming .connectAnswer), .failed "gone", .rebuilt (.ok plain)]

theorem driver_sound_lost :
    ∃ d, Run ⟨1, .ofSeconds 5⟩ plain lost d ∧ d.session.state = .reconnecting 1 ∧
      d.session.connected = false ∧
      let after := (Event.apply d (.failed "gone")).session
      after.phase = .ended ∧ after.connected = false ∧ after.state =
        .permanentlyDisconnected (Session.exhaustedReason ⟨1, .ofSeconds 5⟩) := by
  have hacknowledged : Run ⟨1, .ofSeconds 5⟩ plain _ _ :=
    .step .start (.polled (.incoming .connectAnswer)) rfl
  have hfailed : Run ⟨1, .ofSeconds 5⟩ plain _ _ := hacknowledged.step (.failed "gone") rfl
  have hrun : Run ⟨1, .ofSeconds 5⟩ plain lost _ := hfailed.step (.rebuilt (.ok plain)) ⟨_, rfl⟩
  obtain ⟨-, -, hsets, hfails, -⟩ := driver_sound hrun
  obtain ⟨-, -, hlast⟩ := hfails "gone" rfl
  obtain ⟨-, -, -, -, hends⟩ := hlast rfl rfl
  obtain ⟨hphase, hstate⟩ := hends (by decide) rfl
  refine ⟨_, hrun, rfl, rfl, hphase, Bool.eq_false_iff.mpr fun hup => ?_, hstate⟩
  have hstays := (hsets (.failed "gone") rfl rfl).mp hup
  rw [hstate] at hstays
  cases hstays

/-- A broker that answers once, and every connection to it fails after that. -/
def outage : Nat → List Event
  | 0 => [.polled (.incoming .connectAnswer)]
  | n + 1 => outage n ++ [.failed "gone", .rebuilt (.ok plain)]

def unlimited : RetryPolicy := ⟨0, .ofSeconds 5⟩

theorem acknowledged_outage (n : Nat) : acknowledged (outage n) = true := by
  induction n with
  | zero => rfl
  | succ n ih =>
    rw [acknowledged] at ih ⊢
    rw [outage, List.any_append, ih, Bool.true_or]

theorem asked_outage (n : Nat) : asked (outage n) = false := by
  induction n with
  | zero => rfl
  | succ n ih =>
    rw [asked] at ih ⊢
    rw [outage, List.any_append, ih]
    rfl

theorem failures_outage (n : Nat) : failures (outage n) = n := by
  induction n with
  | zero => rfl
  | succ n ih =>
    rw [failures] at ih ⊢
    rw [outage, List.foldl_append, ih]
    rfl

theorem exists_run_outage (n : Nat) (h : n < 2 ^ 32) :
    ∃ d, Run unlimited plain (outage n) d ∧ d.session.phase = .polling := by
  induction n with
  | zero => exact ⟨_, .step .start _ rfl, rfl⟩
  | succ n ih =>
    obtain ⟨d, hrun, hphase⟩ := ih (by omega)
    obtain ⟨hallowed, -, -⟩ :=
      hrun.next_failure hphase (acknowledged_outage n) (asked_outage n) "gone"
    obtain ⟨hwaits, -⟩ := hallowed (.inl rfl) (by rwa [failures_outage])
    have hrebuilt := (hrun.step (.failed "gone") hphase).step (.rebuilt (.ok plain)) ⟨_, hwaits⟩
    rw [List.append_assoc] at hrebuilt
    obtain ⟨link, hresume⟩ := resume_of_waiting hwaits (.ok plain)
    exact ⟨_, hrebuilt, congrArg Session.phase hresume⟩

/-- Without a limit the failure that 32 bits do not number ends the driver. -/
theorem not_numbered_after_outage :
    ∃ d, Run unlimited plain (outage 4294967295) d ∧ d.session.phase = .polling ∧
      unlimited.maxAttempts = 0 ∧ acknowledged (outage 4294967295) = true ∧
      asked (outage 4294967295) = false ∧ failures (outage 4294967295) + 1 = 2 ^ 32 ∧
      let after := (Event.apply d (.failed "gone")).session
      after.phase = .ended ∧ ∀ attempt, after.state ≠ .reconnecting attempt := by
  obtain ⟨d, hrun, hphase⟩ := exists_run_outage 4294967295 (by decide)
  have hacknowledged := acknowledged_outage 4294967295
  have hasked := asked_outage 4294967295
  have hcount : failures (outage 4294967295) + 1 = 2 ^ 32 := by rw [failures_outage]
  obtain ⟨-, hfull, -⟩ := hrun.next_failure hphase hacknowledged hasked "gone"
  obtain ⟨hended, hstate⟩ := hfull rfl hcount
  refine ⟨d, hrun, hphase, rfl, hacknowledged, hasked, hcount, hended, fun attempt => ?_⟩
  rw [hstate]
  exact Connection.State.noConfusion

theorem exists_run_of_connect {network : Connection.Network} {files : Connection.FileReader}
    {provider provider' : Option Connection.TokenProvider} {p p' : Publisher}
    (hclosed : p.isConnected = false)
    (h : p.connect network files provider = (provider', p', .ok ())) :
    ∃ options d, Run (.ofSettings p.settings) options [.polled (.incoming .connectAnswer)] d ∧
      p'.session = some d.session := by
  unfold Publisher.connect at h
  rw [if_neg (by simp [hclosed])] at h
  dsimp only at h
  split at h
  · cases h
  · next options hprepare =>
    refine ⟨options, _, .step .start _ rfl, ?_⟩
    cases hattempt : network options with
    | acknowledged =>
      rw [hattempt] at h
      cases h
      rfl
    | failed reason =>
      rw [hattempt] at h
      cases h
    | unanswered =>
      rw [hattempt] at h
      cases h

end Driver
end EventBus.Publisher
