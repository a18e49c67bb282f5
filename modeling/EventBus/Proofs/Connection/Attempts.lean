import EventBus.Proofs.Publisher.Driver
import EventBus.Proofs.Subscriber.Attempts

namespace EventBus

namespace Connection.RetryPolicy

/-- The answer to a failure that comes after so many others in a row, each of them answered with an
attempt that is fed back. -/
def answer? (policy : RetryPolicy) : Nat → Option RetryDecision
  | 0 => some (policy.decide 0 false)
  | n + 1 =>
    match policy.answer? n with
    | some (.proceed attempt _) => some (policy.decide attempt false)
    | _ => none

variable {policy : RetryPolicy}

theorem not_spent_of_unlimited (h : policy.maxAttempts = 0) (attempts : UInt32) :
    ¬(0 < policy.maxAttempts ∧ policy.maxAttempts ≤ attempts) := by
  intro hspent
  simp [h] at hspent

theorem answer?_of_fits (h : policy.maxAttempts = 0) (n : Nat) (hfits : n + 1 < 2 ^ 32) :
    policy.answer? n = some (.proceed (.ofNat (n + 1)) policy.delay) := by
  induction n with
  | zero => rw [answer?, decide_of_left (not_spent_of_unlimited h 0) (by decide)]; rfl
  | succ n ih =>
    have hbelow : n + 1 < 2 ^ 32 := Nat.lt_of_succ_lt hfits
    have hlast : (UInt32.ofNat (n + 1)).toNat = n + 1 := UInt32.toNat_ofNat_of_lt hbelow
    have hnext : UInt32.ofNat (n + 1) + 1 = .ofNat (n + 1 + 1) := (UInt32.ofNat_add ..).symm
    rw [answer?, ih hbelow]
    dsimp only
    rw [decide_of_left (not_spent_of_unlimited h _) (by rwa [hlast]), hnext]

theorem answer?_of_last (h : policy.maxAttempts = 0) :
    policy.answer? 4294967295 = some .overflowed := by
  have hlast : (UInt32.ofNat 4294967295).toNat = 4294967295 := UInt32.toNat_ofNat_of_lt (by decide)
  rw [answer?, answer?_of_fits h 4294967294 (by decide)]
  dsimp only
  rw [decide_of_full (not_spent_of_unlimited h _) (by rw [hlast]; decide)]

theorem answer?_of_beyond (h : policy.maxAttempts = 0) {n : Nat} (hlt : 2 ^ 32 < n + 1) :
    policy.answer? n = none := by
  induction n with
  | zero => simp at hlt
  | succ n ih =>
    rw [answer?]
    by_cases hlast : n = 4294967295
    · rw [hlast, answer?_of_last h]
    · rw [ih (by omega)]

theorem answer?_numbered (h : policy.maxAttempts = 0) (n : Nat) :
    ((∃ attempt, policy.answer? n = some (.proceed attempt policy.delay) ∧
      attempt.toNat = n + 1) ↔ n + 1 < 2 ^ 32) ∧
    (policy.answer? n = some .overflowed ↔ n + 1 = 2 ^ 32) := by
  rcases Nat.lt_trichotomy (n + 1) (2 ^ 32) with hlt | heq | hgt
  · rw [answer?_of_fits h n hlt]
    refine ⟨iff_of_true ⟨_, rfl, UInt32.toNat_ofNat_of_lt hlt⟩ hlt, ?_⟩
    exact iff_of_false (by simp) (Nat.ne_of_lt hlt)
  · rw [Nat.succ.inj heq, answer?_of_last h]
    exact ⟨iff_of_false (by simp) (by decide), iff_of_true rfl rfl⟩
  · rw [answer?_of_beyond h hgt]
    exact ⟨iff_of_false (by simp) (Nat.lt_asymm hgt), iff_of_false (by simp) (Nat.ne_of_gt hgt)⟩

end Connection.RetryPolicy

namespace Subscriber

open Connection.RetryPolicy (decide_of_left decide_of_full not_spent_of_unlimited)

variable {s after : Subscriber}

theorem fail_of_fits (h : s.settings.maxReconnectAttempts = 0)
    (hfits : s.attempts.toNat + 1 < 2 ^ 32) : s.fail = { s with
      attempts := s.attempts + 1
      state := .reconnecting (s.attempts + 1)
      phase := .waiting s.settings.reconnectDelay } := by
  unfold fail
  rw [decide_of_left (not_spent_of_unlimited h _) hfits]
  rfl

theorem fail_of_full (h : s.settings.maxReconnectAttempts = 0)
    (hfull : ¬s.attempts.toNat + 1 < 2 ^ 32) : s.fail = { s with phase := .over } := by
  unfold fail
  rw [decide_of_full (not_spent_of_unlimited h _) hfull]

/-- A listener without a limit is said to run whatever becomes of it, and while it lives its counter
is the number of its failures. -/
structure Unlimited (past : List Mark) (s : Subscriber) : Prop where
  settings : s.settings.maxReconnectAttempts = 0
  running : s.running = true
  attempts : s.phase ≠ .over → s.attempts.toNat = failures past

variable {past : List Mark}

theorem unlimited_start (h : s.running = false) (hlimit : s.settings.maxReconnectAttempts = 0)
    (topics : List String) : Unlimited [] (s.start topics) := by
  rw [start, if_neg (by simp [h])]
  exact ⟨hlimit, rfl, fun _ => rfl⟩

theorem Unlimited.withWorker (h : Unlimited past s) (worker : Worker) :
    Unlimited past { s with worker } where
  settings := h.settings
  running := h.running
  attempts := h.attempts

theorem Unlimited.fail (h : Unlimited past s) (hlive : s.phase ≠ .over) :
    (failures past + 1 < 2 ^ 32 → s.fail.phase = .waiting s.settings.reconnectDelay ∧
      s.fail.attempts.toNat = failures past + 1 ∧ s.fail.state = .reconnecting s.fail.attempts) ∧
    (¬failures past + 1 < 2 ^ 32 → s.fail.phase = .over) ∧ s.fail.running = true := by
  have hattempts := h.attempts hlive
  by_cases hfits : s.attempts.toNat + 1 < 2 ^ 32
  · have hnext : (s.attempts + 1).toNat = failures past + 1 := by
      rw [← hattempts]
      exact (UInt32.toNat_add ..).trans (Nat.mod_eq_of_lt hfits)
    rw [fail_of_fits h.settings hfits]
    exact ⟨fun _ => ⟨rfl, hnext, rfl⟩, fun hfull => absurd (hattempts ▸ hfits) hfull, h.running⟩
  · rw [fail_of_full h.settings hfits]
    exact ⟨fun hlt => absurd (hattempts ▸ hlt) hfits, fun _ => rfl, h.running⟩

theorem Unlimited.step (h : Unlimited past s) {mark : Option Mark} (he : Effect s after mark) :
    Unlimited (past ++ mark.toList) after := by
  have hsettings : after.settings.maxReconnectAttempts = 0 := he.settings ▸ h.settings
  cases he with
  | rests phase _ running _ attempts =>
    rw [Option.toList_none, List.append_nil]
    refine ⟨hsettings, running.trans h.running, fun hlive => ?_⟩
    rw [attempts]
    exact h.attempts ((not_congr phase).mp hlive)
  | acknowledges _ _ _ running _ attempts =>
    refine ⟨hsettings, running.trans h.running, fun _ => ?_⟩
    rw [attempts, Option.toList_some, failures_append]
    rfl
  | fails live worker after_eq =>
    obtain ⟨hfits, hfull, hrunning⟩ := (h.withWorker worker).fail live
    rw [← after_eq] at hfits hfull hrunning
    refine ⟨hsettings, hrunning, fun hlive => ?_⟩
    rw [Option.toList_some, failures_append]
    exact (hfits (not_not.mp (mt hfull hlive))).2.1
  | cycles live _ _ running _ attempts =>
    refine ⟨hsettings, running.trans h.running, fun _ => ?_⟩
    rw [attempts, Option.toList_some, failures_append]
    exact h.attempts live

theorem Unlimited.live (h : Unlimited past s) (incidents : List Incident) :
    Unlimited (past ++ marks s incidents) (live s incidents) := by
  induction incidents generalizing s past with
  | nil => simpa [marks, Subscriber.live] using h
  | cons incident rest ih =>
    have hrest := ih (h.step (effect_apply s incident))
    rwa [List.append_assoc] at hrest

theorem Unlimited.fails (h : Unlimited past s) {incident : Incident}
    (hmark : incident.mark? s = some .failed) :
    (failures past + 1 < 2 ^ 32 →
      (incident.apply s).phase = .waiting s.settings.reconnectDelay ∧
        ∃ attempt, (incident.apply s).state = .reconnecting attempt ∧
          attempt.toNat = failures past + 1) ∧
    (¬failures past + 1 < 2 ^ 32 → failures past + 1 = 2 ^ 32 ∧ (incident.apply s).phase = .over) ∧
    (incident.apply s).running = true := by
  have heffect := effect_apply s incident
  rw [hmark] at heffect
  cases heffect with
  | fails live worker after_eq =>
    have hcount : s.attempts.toNat = failures past := h.attempts live
    have hbound := s.attempts.toNat_lt
    obtain ⟨hfits, hfull, hrunning⟩ := (h.withWorker worker).fail live
    rw [after_eq]
    refine ⟨fun hlt => ?_, fun hlt => ⟨by omega, hfull hlt⟩, hrunning⟩
    obtain ⟨hphase, hattempts, hstate⟩ := hfits hlt
    exact ⟨hphase, _, hstate, hattempts⟩

theorem Unlimited.numbered (h : Unlimited past s) {incident : Incident}
    (hmark : incident.mark? s = some .failed) :
    ((∃ attempt, (incident.apply s).state = .reconnecting attempt ∧
      (incident.apply s).phase = .waiting s.settings.reconnectDelay ∧
      attempt.toNat = failures past + 1) ↔ failures past + 1 < 2 ^ 32) ∧
    ((incident.apply s).phase = .over ↔ failures past + 1 = 2 ^ 32) ∧
    (incident.apply s).running = true := by
  obtain ⟨hfits, hfull, hrunning⟩ := h.fails hmark
  by_cases hk : failures past + 1 < 2 ^ 32
  · obtain ⟨hwaits, attempt, hstate, hnumber⟩ := hfits hk
    have hlive : (incident.apply s).phase ≠ .over := ne_of_eq_of_ne hwaits Phase.noConfusion
    exact ⟨iff_of_true ⟨attempt, hstate, hwaits, hnumber⟩ hk,
      iff_of_false hlive (Nat.ne_of_lt hk), hrunning⟩
  · obtain ⟨heq, hends⟩ := hfull hk
    refine ⟨iff_of_false ?_ hk, iff_of_true hends heq, hrunning⟩
    rintro ⟨attempt, -, hwaits, -⟩
    exact absurd (hwaits.symm.trans hends) Phase.noConfusion

def refused : Incident := .moved (.connect (fun _ => .unanswered) (fun _ => .ok []) none)

theorem mark?_refused (h : s.phase = .opening) : refused.mark? s = some .failed := by
  have hopens : s.opens (fun _ => .unanswered) (fun _ => .ok []) none = false := by
    unfold opens
    split <;> simp
  simp [refused, Incident.mark?, h, hopens]

theorem Unlimited.exists_refusals (h : Unlimited [] s) (hphase : s.phase = .opening) (n : Nat)
    (hn : n < 2 ^ 32) :
    ∃ incidents, failures (marks s incidents) = n ∧
      (Subscriber.live s incidents).phase = .opening := by
  induction n with
  | zero => exact ⟨[], rfl, hphase⟩
  | succ n ih =>
    obtain ⟨incidents, hcount, hopening⟩ := ih (by omega)
    have hmark := mark?_refused hopening
    obtain ⟨hfits, -, -⟩ := (h.live incidents).fails hmark
    rw [List.nil_append, hcount] at hfits
    obtain ⟨hwaiting, -⟩ := hfits hn
    refine ⟨incidents ++ [refused, .moved .resume], ?_, ?_⟩
    · rw [marks_append, marks, hmark]
      exact (failures_append _ _).trans (by rw [hcount, Mark.count])
    · rw [live_append]
      change (Subscriber.resume (refused.apply (Subscriber.live s incidents))).phase = .opening
      simp [resume, hwaiting]

end Subscriber

namespace Publisher.Driver

variable {policy : Connection.RetryPolicy} {options : Connection.Options} {events : List Event}
  {d : Driver}

theorem Run.numbered (h : Run policy options events d) (hlimit : policy.maxAttempts = 0)
    (hphase : d.session.phase = .polling) (hacknowledged : acknowledged events = true)
    (hasked : asked events = false) (reason : String) :
    let k := failures events + 1
    let after := (Event.apply d (.failed reason)).session
    ((∃ attempt, after.state = .reconnecting attempt ∧ after.phase = .waiting policy.delay ∧
      attempt.toNat = k) ↔ k < 2 ^ 32) ∧
    (after.phase = .ended ↔ k = 2 ^ 32) := by
  intro k after
  have hlive : d.session.phase ≠ .ended := by simp [hphase]
  have hbound := h.failures_lt hlive
  obtain ⟨hfits, hfull, -⟩ := h.next_failure hphase hacknowledged hasked reason
  by_cases hk : k < 2 ^ 32
  · obtain ⟨hwaits, hstate⟩ := hfits (.inl hlimit) hk
    have hgoes : after.phase ≠ .ended := ne_of_eq_of_ne hwaits Phase.noConfusion
    refine ⟨iff_of_true ⟨_, hstate, hwaits, UInt32.toNat_ofNat_of_lt hk⟩ hk, ?_⟩
    exact iff_of_false hgoes (Nat.ne_of_lt hk)
  · have heq : k = 2 ^ 32 := by omega
    obtain ⟨hends, -⟩ := hfull hlimit heq
    refine ⟨iff_of_false ?_ hk, iff_of_true hends heq⟩
    rintro ⟨attempt, -, hwaits, -⟩
    exact absurd (hwaits.symm.trans hends) Phase.noConfusion

end Publisher.Driver

namespace Connection.RetryPolicy

open Publisher (Driver)
open Publisher.Driver (acknowledged asked)

/-- Under a policy without a limit a failure is answered with an attempt that has its number just
if that is below `2 ^ 32`, be it in the loop that the policy is made for, by a listener or by a
driver that was acknowledged and not asked to end. They count since the last acknowledgement, and
the failure that 32 bits do not number ends them. The listener goes on saying that it runs. -/
theorem numbered_iff {policy : RetryPolicy} (h : policy.maxAttempts = 0) :
    (∀ n, let k := n + 1
      ((∃ attempt, policy.answer? n = some (.proceed attempt policy.delay) ∧ attempt.toNat = k) ↔
        k < 2 ^ 32) ∧
      (policy.answer? n = some .overflowed ↔ k = 2 ^ 32)) ∧
    (∀ (s : Subscriber) (topics : List String) (incidents : List Subscriber.Incident)
        (incident : Subscriber.Incident), s.running = false → ofSettings s.settings = policy →
      let k := Subscriber.failures (Subscriber.marks (s.start topics) incidents) + 1
      let before := Subscriber.live (s.start topics) incidents
      let after := incident.apply before
      incident.mark? before = some .failed →
        ((∃ attempt, after.state = .reconnecting attempt ∧ after.phase = .waiting policy.delay ∧
          attempt.toNat = k) ↔ k < 2 ^ 32) ∧
        (after.phase = .over ↔ k = 2 ^ 32) ∧ after.running = true) ∧
    ∀ options events (d : Driver) reason, Driver.Run policy options events d →
      d.session.phase = .polling → acknowledged events = true → asked events = false →
      let k := Driver.failures events + 1
      let after := (Driver.Event.apply d (.failed reason)).session
      ((∃ attempt, after.state = .reconnecting attempt ∧ after.phase = .waiting policy.delay ∧
        attempt.toNat = k) ↔ k < 2 ^ 32) ∧
      (after.phase = .ended ↔ k = 2 ^ 32) := by
  refine ⟨answer?_numbered h, fun s topics incidents incident hstopped hpolicy => ?_,
    fun options events d reason hrun hphase hacknowledged hasked =>
      hrun.numbered h hphase hacknowledged hasked reason⟩
  intro k before after hmark
  have hlimit : s.settings.maxReconnectAttempts = 0 := (congrArg maxAttempts hpolicy).trans h
  have hunlimited := (Subscriber.unlimited_start hstopped hlimit topics).live incidents
  have hsettings : before.settings = s.settings := by
    rw [Subscriber.live_settings, Subscriber.start, if_neg (by simp [hstopped])]
  have hdelay : before.settings.reconnectDelay = policy.delay := by
    rw [hsettings, ← hpolicy]
    rfl
  have hnumbered := hunlimited.numbered hmark
  rwa [hdelay] at hnumbered

/-- A subscriber that has just been started, with no limit and five seconds between attempts. -/
def started : Subscriber := Subscriber.start { settings := .standard "c" } ["a"]

/-- The last failure of the loop that has a number, the first one of a listener and the second one
of a driver. -/
theorem numbered_iff_below :
    let policy := Driver.unlimited
    policy.maxAttempts = 0 ∧
    (∃ attempt, policy.answer? 4294967294 = some (.proceed attempt policy.delay) ∧
      attempt.toNat = 4294967295) ∧
    (∃ attempt, (Subscriber.refused.apply started).state = .reconnecting attempt ∧
      attempt.toNat = 1) ∧
    ∃ d attempt, Driver.Run policy Publisher.Flow.plain (Driver.outage 1) d ∧
      (Driver.Event.apply d (.failed "gone")).session.state = .reconnecting attempt ∧
      attempt.toNat = 2 := by
  intro policy
  obtain ⟨hloop, hlistener, hdriver⟩ := @numbered_iff policy rfl
  have hmark : Subscriber.refused.mark? started = some .failed := Subscriber.mark?_refused rfl
  obtain ⟨attempt, hproceed, hnumber⟩ := (hloop 4294967294).1.mpr (by decide)
  have hrefused :=
    hlistener { settings := .standard "c" } ["a"] [] _ rfl (by decide +kernel) hmark
  obtain ⟨first, hstate, -, hfirst⟩ := hrefused.1.mpr (by decide)
  obtain ⟨d, hrun, hphase⟩ := Driver.exists_run_outage 1 (by decide)
  have hgone := hdriver _ _ d "gone" hrun hphase rfl rfl
  obtain ⟨second, hstate', -, hsecond⟩ := hgone.1.mpr (by decide)
  exact ⟨rfl, ⟨attempt, hproceed, hnumber⟩, ⟨first, hstate, hfirst⟩, d, second, hrun, hstate',
    hsecond⟩

/-- The failure that 32 bits do not number gets no attempt, in the loop and from a listener. -/
theorem not_numbered_at_last :
    let policy := Driver.unlimited
    policy.maxAttempts = 0 ∧ policy.answer? 4294967295 = some .overflowed ∧
    ∃ incidents, let before := Subscriber.live started incidents
      let after := Subscriber.refused.apply before
      Subscriber.failures (Subscriber.marks started incidents) + 1 = 2 ^ 32 ∧
      Subscriber.refused.mark? before = some .failed ∧
      after.phase = .over ∧ after.running = true := by
  intro policy
  have hunlimited : Subscriber.Unlimited [] started := Subscriber.unlimited_start rfl rfl ["a"]
  obtain ⟨incidents, hcount, hphase⟩ := hunlimited.exists_refusals rfl 4294967295 (by decide)
  have hmark := Subscriber.mark?_refused hphase
  obtain ⟨-, hfull, hrunning⟩ := (hunlimited.live incidents).fails hmark
  rw [List.nil_append, hcount] at hfull
  obtain ⟨-, hends⟩ := hfull (by decide)
  exact ⟨rfl, answer?_of_last rfl, incidents, by rw [hcount], hmark, hends, hrunning⟩

end Connection.RetryPolicy
end EventBus
