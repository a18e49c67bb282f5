import EventBus.Proofs.Subscriber.Listener
import Mathlib.Data.List.Induction

namespace EventBus.Subscriber

/-- What happens to a subscriber that nobody stops. -/
inductive Incident where
  | moved (move : Move)
  | broken (sink : Sink) (now : Timestamp)
  /-- Someone put down other topics. -/
  | updated (topics : List String)
  /-- Someone raised the flag, if there was a reason to. -/
  | raised (changed : Bool)

inductive Mark where
  | acknowledged
  | failed
  | cycled
  deriving DecidableEq, Repr

/-- Whether an attempt to open a session succeeds. -/
def opens (s : Subscriber) (network : Connection.Network) (files : Connection.FileReader)
    (token : Option (Except String Connection.AccessToken)) : Bool :=
  match Connection.Options.prepare files s.settings s.clientId token with
  | .error _ => false
  | .ok options => network options = .acknowledged

/-- Whether the broker can be asked for the plan. -/
def canSubscribe (s : Subscriber) : Bool :=
  s.plan.all fun filter => (Topic.filterFault filter).isNone

def isOpen (s : Subscriber) : Bool :=
  match s.phase with
  | .subscribed _ => true
  | _ => false

namespace Incident

def apply (s : Subscriber) : Incident → Subscriber
  | .moved move => move.apply s
  | .broken sink now => if s.isOpen then (s.drain sink now).fail else s
  | .updated topics => s.setTopics topics
  | .raised changed => s.noteChange changed

def mark? (s : Subscriber) : Incident → Option Mark
  | .moved (.connect network files token) =>
    if s.phase = .opening then
      some (if s.opens network files token then .acknowledged else .failed)
    else none
  | .moved .subscribe => if s.phase = .acknowledged ∧ ¬s.canSubscribe then some .failed else none
  | .moved (.hear _ _ traffic) =>
    if s.isOpen ∧ traffic.route = .disconnected then some .failed else none
  | .moved (.close _ _) => if s.phase = .closing then some .cycled else none
  | .broken _ _ => if s.isOpen then some .failed else none
  | .moved (.work _ _) | .moved .cycle | .moved .resume | .updated _ | .raised _ => none

end Incident

def live (s : Subscriber) (incidents : List Incident) : Subscriber :=
  incidents.foldl Incident.apply s

/-- The marks of a run, the oldest first. -/
def marks (s : Subscriber) : List Incident → List Mark
  | [] => []
  | incident :: rest => (incident.mark? s).toList ++ marks (incident.apply s) rest

def Mark.count (failures : Nat) : Mark → Nat
  | .acknowledged => 0
  | .failed => failures + 1
  | .cycled => failures

/-- Failures since the broker last acknowledged a session, or since the beginning. -/
def failures (marks : List Mark) : Nat := marks.foldl Mark.count 0

theorem failures_append (marks : List Mark) (mark : Mark) :
    failures (marks ++ [mark]) = mark.count (failures marks) := by
  simp [failures]

theorem one_le_failures {marks : List Mark} (h : marks.getLast? = some .failed) :
    1 ≤ failures marks := by
  obtain ⟨front, rfl⟩ := List.getLast?_eq_some_iff.mp h
  rw [failures_append]
  exact Nat.le_add_left 1 _

/-- What an incident with a mark does to what a subscriber says of itself. -/
inductive Effect (s after : Subscriber) : Option Mark → Prop where
  | rests (phase : after.phase = .over ↔ s.phase = .over) (settings : after.settings = s.settings)
      (running : after.running = s.running) (state : after.state = s.state)
      (attempts : after.attempts = s.attempts) : Effect s after none
  | acknowledges (live : s.phase ≠ .over) (phase : after.phase ≠ .over)
      (settings : after.settings = s.settings) (running : after.running = s.running)
      (state : after.state = .listening) (attempts : after.attempts = 0) :
    Effect s after (some .acknowledged)
  | fails (live : s.phase ≠ .over) (worker : Worker)
      (after_eq : after = Subscriber.fail { s with worker }) : Effect s after (some .failed)
  | cycles (live : s.phase ≠ .over) (phase : after.phase ≠ .over)
      (settings : after.settings = s.settings) (running : after.running = s.running)
      (state : after.state = .connecting) (attempts : after.attempts = s.attempts) :
    Effect s after (some .cycled)

theorem Effect.same (s : Subscriber) : Effect s s none := .rests Iff.rfl rfl rfl rfl rfl

variable {s : Subscriber}

theorem not_over_of_isOpen (h : s.isOpen = true) : s.phase ≠ .over := by
  intro hover
  simp [isOpen, hover] at h

theorem effect_connect (h : s.phase = .opening) (network : Connection.Network)
    (files : Connection.FileReader) (token : Option (Except String Connection.AccessToken)) :
    Effect s (s.connect network files token)
      (some (if s.opens network files token then .acknowledged else .failed)) := by
  have hlive : s.phase ≠ .over := by simp [h]
  have hfails : s.opens network files token = false → s.connect network files token = s.fail →
      Effect s (s.connect network files token)
        (some (if s.opens network files token then .acknowledged else .failed)) := by
    intro hopens hconnect
    rw [hopens, hconnect, if_neg Bool.false_ne_true]
    exact .fails hlive s.worker rfl
  cases hprepare : Connection.Options.prepare files s.settings s.clientId token with
  | error error => exact hfails (by simp [opens, hprepare]) (by simp [connect, hprepare])
  | ok options =>
    cases hattempt : network options with
    | acknowledged =>
      have hopens : s.opens network files token = true := by simp [opens, hprepare, hattempt]
      have hconnect : s.connect network files token = s.acknowledge := by
        simp [connect, hprepare, hattempt]
      rw [hopens, hconnect, if_pos rfl]
      exact .acknowledges hlive (by simp [acknowledge]) rfl rfl rfl rfl
    | failed reason =>
      exact hfails (by simp [opens, hprepare, hattempt]) (by simp [connect, hprepare, hattempt])
    | unanswered =>
      exact hfails (by simp [opens, hprepare, hattempt]) (by simp [connect, hprepare, hattempt])

theorem effect_subscribe (h : s.phase = .acknowledged) :
    Effect s s.subscribe (if ¬s.canSubscribe then some .failed else none) := by
  have hlive : s.phase ≠ .over := by simp [h]
  by_cases hplan : s.canSubscribe = true
  · rw [if_neg (not_not_intro hplan)]
    have hsubscribe : s.subscribe =
        { s with phase := .subscribed s.plan, worker := s.worker.renew } := if_pos hplan
    rw [hsubscribe]
    exact .rests (by simp [h]) rfl rfl rfl rfl
  · rw [if_pos hplan]
    have hsubscribe : s.subscribe = s.fail := if_neg hplan
    rw [hsubscribe]
    exact .fails hlive s.worker rfl

theorem effect_hear (sink : Sink) (now : Timestamp) (s : Subscriber) (traffic : Traffic) :
    Effect s (s.hear sink now traffic)
      (if s.isOpen ∧ traffic.route = .disconnected then some .failed else none) := by
  unfold hear
  split
  · next filters topic payload retain hphase hroute =>
    rw [if_neg (by simp [hroute])]
    unfold receive
    dsimp only
    split <;> exact .rests Iff.rfl rfl rfl rfl rfl
  · next filters hphase hroute =>
    rw [if_pos ⟨by simp [isOpen, hphase], hroute⟩]
    exact .fails (by simp [hphase]) _ rfl
  · next hmessage hdisconnect =>
    rw [if_neg]
    · exact .same s
    · rintro ⟨hopen, hroute⟩
      unfold isOpen at hopen
      split at hopen
      · next filters hphase => exact hdisconnect filters hphase hroute
      · cases hopen

theorem effect_cycle (s : Subscriber) : Effect s s.cycle none := by
  unfold cycle
  split
  · next filters hphase =>
    split
    · exact .rests (by simp [hphase]) rfl rfl rfl rfl
    · exact .same s
  · exact .same s

theorem effect_close (sink : Sink) (now : Timestamp) (s : Subscriber) :
    Effect s (s.close sink now) (if s.phase = .closing then some .cycled else none) := by
  unfold close
  split
  · next hphase =>
    rw [if_pos hphase]
    exact .cycles (by simp [hphase]) (by simp) rfl rfl rfl rfl
  · next hphase =>
    rw [if_neg hphase]
    exact .same s

theorem effect_resume (s : Subscriber) : Effect s s.resume none := by
  unfold resume
  split
  · next delay hphase => exact .rests (by simp [hphase]) rfl rfl rfl rfl
  · exact .same s

theorem effect_noteChange (s : Subscriber) (changed : Bool) :
    Effect s (s.noteChange changed) none := by
  unfold noteChange
  split
  · exact .rests Iff.rfl rfl rfl rfl rfl
  · exact .same s

theorem effect_apply (s : Subscriber) (incident : Incident) :
    Effect s (incident.apply s) (incident.mark? s) := by
  cases incident with
  | moved move =>
    cases move with
    | connect network files token =>
      simp only [Incident.apply, Incident.mark?, Move.apply]
      split
      · next hphase => exact effect_connect hphase network files token
      · exact .same s
    | subscribe =>
      simp only [Incident.apply, Incident.mark?, Move.apply]
      by_cases hphase : s.phase = .acknowledged
      · simpa only [hphase, if_true, true_and] using effect_subscribe hphase
      · simpa only [hphase, if_false, false_and] using Effect.same s
    | hear sink now traffic => exact effect_hear sink now s traffic
    | work sink now => exact .rests Iff.rfl rfl rfl rfl rfl
    | cycle => exact effect_cycle s
    | close sink now => exact effect_close sink now s
    | resume => exact effect_resume s
  | broken sink now =>
    simp only [Incident.apply, Incident.mark?]
    split
    · next hopen => exact .fails (not_over_of_isOpen hopen) _ rfl
    · exact .same s
  | updated topics => exact .rests Iff.rfl rfl rfl rfl rfl
  | raised changed => exact effect_noteChange s changed

theorem apply_of_cycled {incident : Incident} (h : incident.mark? s = some .cycled) :
    s.phase ≠ .over ∧ (incident.apply s).attempts = s.attempts ∧
      (incident.apply s).running = s.running := by
  have heffect := effect_apply s incident
  rw [h] at heffect
  cases heffect with
  | cycles live _ _ running _ attempts => exact ⟨live, attempts, running⟩

theorem fail_of_lt (h : s.attempts < s.settings.maxReconnectAttempts) :
    s.fail = { s with
      attempts := s.attempts + 1
      state := .reconnecting (s.attempts + 1)
      phase := .waiting s.settings.reconnectDelay } := by
  have hleft : ¬(0 < s.settings.maxReconnectAttempts ∧
      s.settings.maxReconnectAttempts ≤ s.attempts) := fun hspent => UInt32.not_le.mpr h hspent.2
  unfold fail
  rw [Connection.RetryPolicy.decide_of_left hleft (Connection.RetryPolicy.fits_of_lt h)]
  rfl

theorem fail_of_le (hlimit : 0 < s.settings.maxReconnectAttempts)
    (h : s.settings.maxReconnectAttempts ≤ s.attempts) : s.fail = s.halt := by
  unfold fail
  rw [Connection.RetryPolicy.decide_of_spent ⟨hlimit, h⟩]

/-- What a listener that has not given up says of itself. -/
def stateAfter (past : List Mark) : State :=
  match past.getLast? with
  | none | some .cycled => .connecting
  | some .acknowledged => .listening
  | some .failed => .reconnecting (UInt32.ofNat (failures past))

inductive Progress (limit : UInt32) (past : List Mark) (s : Subscriber) : Prop where
  | trying (phase : s.phase ≠ .over) (running : s.running = true)
      (within : failures past ≤ limit.toNat) (attempts : s.attempts.toNat = failures past)
      (state : s.state = stateAfter past)
  | gaveUp (phase : s.phase = .over) (running : s.running = false) (state : s.state = .stopped)
      (spent : failures past = limit.toNat + 1) (last : past.getLast? = some .failed)

structure Account (limit : UInt32) (past : List Mark) (s : Subscriber) : Prop where
  settings : s.settings.maxReconnectAttempts = limit
  progress : Progress limit past s

theorem account_start (h : s.running = false) (topics : List String) :
    Account s.settings.maxReconnectAttempts [] (s.start topics) := by
  have hstart : s.start topics = { s with
      topics, reconnectRequested := false, running := true, state := .connecting,
      phase := .opening, attempts := 0 } := if_neg (by simp [h])
  rw [hstart]
  exact ⟨rfl, .trying (by simp) rfl (Nat.zero_le _) rfl rfl⟩

variable {limit : UInt32} {past : List Mark} {after : Subscriber}

/-- The failure is the next of those that are allowed, or the one that is not. -/
theorem Account.fail (hlimit : 0 < limit) (h : Account limit past s) (hlive : s.phase ≠ .over)
    (worker : Worker) : Account limit (past ++ [.failed]) (Subscriber.fail { s with worker }) := by
  cases h.progress with
  | gaveUp phase => exact absurd phase hlive
  | trying phase running within attempts state =>
    have hcount : failures (past ++ [.failed]) = failures past + 1 := failures_append past .failed
    by_cases hleft : s.attempts < limit
    · have hfail := fail_of_lt (s := { s with worker }) (h.settings ▸ hleft)
      have hlt : s.attempts.toNat < limit.toNat := UInt32.lt_iff_toNat_lt.mp hleft
      have hnext : (s.attempts + 1).toNat = failures past + 1 := by
        rw [UInt32.toNat_add, attempts]
        have := limit.toNat_lt
        exact Nat.mod_eq_of_lt (by simp; omega)
      rw [hfail]
      refine ⟨h.settings, .trying (by simp) running (by omega) (hnext.trans hcount.symm) ?_⟩
      simp only [stateAfter, List.getLast?_append, List.getLast?_singleton, Option.some_or, hcount,
        ← hnext, UInt32.ofNat_toNat]
    · have hle : limit ≤ s.attempts := UInt32.not_lt.mp hleft
      have hfail := fail_of_le (s := { s with worker }) (h.settings ▸ hlimit) (h.settings ▸ hle)
      have hge : limit.toNat ≤ s.attempts.toNat := UInt32.le_iff_toNat_le.mp hle
      rw [hfail]
      exact ⟨h.settings, .gaveUp rfl rfl rfl (by omega) (by simp)⟩

theorem Account.step (hlimit : 0 < limit) (h : Account limit past s) {mark : Option Mark}
    (he : Effect s after mark) : Account limit (past ++ mark.toList) after := by
  cases he with
  | rests phase settings running state attempts =>
    simp only [Option.toList_none, List.append_nil]
    refine ⟨settings ▸ h.settings, ?_⟩
    cases h.progress with
    | trying live up within spent said =>
      exact .trying ((not_congr phase).mpr live) (running.trans up) within (attempts ▸ spent)
        (state.trans said)
    | gaveUp gone down said spent last =>
      exact .gaveUp (phase.mpr gone) (running.trans down) (state.trans said) spent last
  | acknowledges live phase settings running state attempts =>
    have hcount : failures (past ++ [.acknowledged]) = 0 := failures_append past .acknowledged
    cases h.progress with
    | gaveUp gone => exact absurd gone live
    | trying _ up within spent said =>
      refine ⟨settings ▸ h.settings, .trying phase (running.trans up) ?_ ?_ ?_⟩
      · simp [hcount]
      · simp [hcount, attempts]
      · simp [stateAfter, state]
  | fails live worker after_eq =>
    rw [after_eq]
    exact h.fail hlimit live worker
  | cycles live phase settings running state attempts =>
    have hcount : failures (past ++ [.cycled]) = failures past := failures_append past .cycled
    cases h.progress with
    | gaveUp gone => exact absurd gone live
    | trying _ up within spent said =>
      refine ⟨settings ▸ h.settings, .trying phase (running.trans up) ?_ ?_ ?_⟩
      · simpa [hcount] using within
      · simpa [hcount, attempts] using spent
      · simp [stateAfter, state]

theorem Account.live (hlimit : 0 < limit) (h : Account limit past s) (incidents : List Incident) :
    Account limit (past ++ marks s incidents) (live s incidents) := by
  induction incidents generalizing s past with
  | nil => simpa [marks, Subscriber.live] using h
  | cons incident rest ih =>
    have hrest := ih (h.step hlimit (effect_apply s incident))
    rwa [List.append_assoc] at hrest

/-- A listener gives up at the failure after the last that is allowed, counted since it was last
acknowledged, and at no other. A session that is cycled costs nothing, and a start gives everything
back. -/
theorem gives_up_exactly (h : s.running = false) (hlimit : 0 < s.settings.maxReconnectAttempts)
    (topics : List String) (incidents : List Incident) :
    let limit := s.settings.maxReconnectAttempts
    let past := marks (s.start topics) incidents
    let after := live (s.start topics) incidents
    failures past ≤ limit.toNat + 1 ∧
    (after.running = true ↔ failures past ≤ limit.toNat) ∧
    (failures past ≤ limit.toNat → past.getLast? = some .failed → ∃ attempt : UInt32,
      attempt.toNat = failures past ∧ 1 ≤ attempt ∧ attempt ≤ limit ∧
        after.state = .reconnecting attempt) ∧
    (∀ incident : Incident, incident.mark? after = some .cycled →
      (incident.apply after).attempts = after.attempts ∧ (incident.apply after).running = true) ∧
    (failures past = limit.toNat + 1 → past.getLast? = some .failed ∧ after.running = false ∧
      after.state = .stopped ∧ ∀ again, (after.start again).running = true ∧
        (after.start again).attempts = 0 ∧
        (after.start again).settings.maxReconnectAttempts = limit) := by
  intro limit past after
  have haccount : Account limit past after := by
    simpa using (account_start h topics).live hlimit incidents
  cases haccount.progress with
  | trying phase running within attempts state =>
    refine ⟨by omega, iff_of_true running within, fun _ hlast => ?_, fun incident hmark => ?_,
      fun hspent => by omega⟩
    · have hpositive : 1 ≤ failures past := one_le_failures hlast
      refine ⟨after.attempts, attempts, ?_, ?_, ?_⟩
      · exact UInt32.le_iff_toNat_le.mpr (by simpa [attempts] using hpositive)
      · exact UInt32.le_iff_toNat_le.mpr (by omega)
      · rw [state, stateAfter, hlast, ← attempts, UInt32.ofNat_toNat]
    · obtain ⟨-, hattempts, hrunning⟩ := apply_of_cycled hmark
      exact ⟨hattempts, hrunning.trans running⟩
  | gaveUp phase running state spent last =>
    refine ⟨by omega, iff_of_false (by simp [running]) (by omega), fun _ => by omega,
      fun incident hmark => absurd phase (apply_of_cycled hmark).1,
      fun _ => ⟨last, running, state, fun again => ?_⟩⟩
    have hfresh := account_start running again
    cases hfresh.progress with
    | gaveUp _ _ _ hfailures => simp [failures] at hfailures
    | trying _ up _ none =>
      exact ⟨up, UInt32.toNat_inj.mp none, hfresh.settings.trans haccount.settings⟩

/-- A listener that may fail once, and does between two sessions that are refused. -/
def once : Subscriber :=
  { settings := { BrokerSettings.standard "c" with maxReconnectAttempts := 1 } }

def spending (sink : Sink) (now : Timestamp) : List Incident :=
  [.moved (.connect (fun _ => .unanswered) (fun _ => .ok []) none), .moved .resume,
    .moved (.connect (fun _ => .acknowledged) (fun _ => .ok []) none), .moved .subscribe,
    .broken sink now, .moved .resume,
    .moved (.connect (fun _ => .unanswered) (fun _ => .ok []) none)]

theorem gives_up_exactly_once :
    let sink : Sink := fun _ _ => .done
    let now : Timestamp := .epoch
    let after := live (once.start ["a"]) (spending sink now)
    failures (marks (once.start ["a"]) (spending sink now)) = 2 ∧ after.running = false ∧
      after.state = .stopped ∧ ∀ again, (after.start again).attempts = 0 := by
  intro sink now after
  have hfailures : failures (marks (once.start ["a"]) (spending sink now)) = 2 := by rfl
  obtain ⟨-, -, -, -, hspent⟩ :=
    gives_up_exactly (s := once) rfl (by decide) ["a"] (spending sink now)
  obtain ⟨-, hrunning, hstate, hagain⟩ := hspent hfailures
  exact ⟨hfailures, hrunning, hstate, fun again => (hagain again).2.1⟩

/-- How a cycle ends: before the broker acknowledged the session, in the session, or to make way
for the next one. -/
inductive Ending where
  | refused
  | broken
  | cycled
  deriving DecidableEq, Repr

def Ending.marks : Ending → List Mark
  | .refused => [.failed]
  | .broken => [.acknowledged, .failed]
  | .cycled => [.acknowledged, .cycled]

structure Ready (s : Subscriber) : Prop where
  phase : s.phase = .opening ∨ ∃ delay, s.phase = .waiting delay
  running : s.running = true

variable {files : Connection.FileReader} {token : Option (Except String Connection.AccessToken)}

theorem marks_append (s : Subscriber) (front back : List Incident) :
    marks s (front ++ back) = marks s front ++ marks (live s front) back := by
  induction front generalizing s with
  | nil => rfl
  | cons incident rest ih => simp [marks, live, ih]

theorem live_append (s : Subscriber) (front back : List Incident) :
    live s (front ++ back) = live (live s front) back := by
  simp [live]

theorem Effect.settings {mark : Option Mark} (h : Effect s after mark) :
    after.settings = s.settings := by
  cases h with
  | rests _ settings => exact settings
  | acknowledges _ _ settings => exact settings
  | fails live worker after_eq =>
    rw [after_eq]
    exact (moved_fail (s := { s with worker }) live).settings
  | cycles _ _ settings => exact settings

theorem live_settings (s : Subscriber) (incidents : List Incident) :
    (live s incidents).settings = s.settings := by
  induction incidents generalizing s with
  | nil => rfl
  | cons incident rest ih => exact (ih _).trans (effect_apply s incident).settings

theorem ready_fail (h : s.running = true) : s.fail.phase = .over ∨ Ready s.fail := by
  rcases fail_cases s with ⟨attempt, delay, hs⟩ | hs | hs
  · rw [hs]
    exact .inr ⟨.inr ⟨delay, rfl⟩, h⟩
  · rw [hs]
    exact .inl rfl
  · rw [hs]
    exact .inl rfl

theorem Ready.resume (h : Ready s) : s.resume.phase = .opening ∧ s.resume.running = true ∧
    s.resume.settings = s.settings := by
  rcases h.phase with hphase | ⟨delay, hphase⟩ <;> simp [Subscriber.resume, hphase, h.running]

/-- A session can be had, with these files and this token. -/
def Prepares (files : Connection.FileReader)
    (token : Option (Except String Connection.AccessToken)) (s : Subscriber) : Prop :=
  ∃ options, Connection.Options.prepare files s.settings s.clientId token = .ok options

theorem Ready.exists_refused (h : Ready s) (hprepares : Prepares files token s) :
    ∃ incidents, marks s incidents = [.failed] ∧
      ((live s incidents).phase = .over ∨ Ready (live s incidents)) := by
  obtain ⟨hphase, hrunning, hsettings⟩ := h.resume
  obtain ⟨options, hprepare⟩ := hprepares
  rw [← hsettings, clientId, ← hsettings] at hprepare
  have hopens : opens s.resume (fun _ => .unanswered) files token = false := by
    simp [opens, clientId, hprepare]
  have hconnect : s.resume.connect (fun _ => .unanswered) files token = s.resume.fail := by
    simp [connect, clientId, hprepare]
  refine ⟨[.moved .resume, .moved (.connect (fun _ => .unanswered) files token)], ?_, ?_⟩
  · simp [marks, Incident.mark?, Incident.apply, Move.apply, hphase, hopens]
  · simpa [live, Incident.apply, Move.apply, hphase, hconnect] using ready_fail hrunning

theorem Ready.exists_session (h : Ready s) (hprepares : Prepares files token s) :
    ∃ incidents, marks s incidents = [.acknowledged] ∧
      (live s incidents).phase = .subscribed [] ∧ (live s incidents).running = true := by
  have hready : Ready (s.setTopics []) := ⟨h.phase, h.running⟩
  obtain ⟨hphase, hrunning, hsettings⟩ := hready.resume
  have htopics : (s.setTopics []).resume.topics = [] := (moved_resume _).topics
  generalize hopening : (s.setTopics []).resume = opening at hphase hrunning hsettings htopics
  obtain ⟨options, hprepare⟩ := hprepares
  have hprepare : Connection.Options.prepare files opening.settings opening.clientId token =
      .ok options := by rwa [clientId, hsettings]
  have hplan : opening.acknowledge.plan = [] := by
    rw [plan]
    change Topic.plan _ opening.topics = []
    rw [htopics]
    rfl
  have hopens : opening.opens (fun _ => .acknowledged) files token = true := by
    simp [opens, hprepare]
  have hconnect : opening.connect (fun _ => .acknowledged) files token = opening.acknowledge := by
    simp [connect, hprepare]
  have hcan : opening.acknowledge.canSubscribe = true := by simp [canSubscribe, hplan]
  have hsubscribe : opening.acknowledge.subscribe = { opening.acknowledge with
      phase := .subscribed [], worker := opening.worker.renew } := by
    rw [subscribe, hplan]
    rfl
  refine ⟨[.updated [], .moved .resume, .moved (.connect (fun _ => .acknowledged) files token),
    .moved .subscribe], ?_, ?_⟩
  · simp [marks, Incident.mark?, Incident.apply, Move.apply, hopening, hphase, hopens, hconnect,
      hcan]
  · have hlive : live s [.updated [], .moved .resume,
        .moved (.connect (fun _ => .acknowledged) files token), .moved .subscribe] =
          opening.acknowledge.subscribe := by
      simp [live, Incident.apply, Move.apply, hopening, hphase, hconnect, acknowledge]
    rw [hlive, hsubscribe]
    exact ⟨rfl, hrunning⟩

theorem Ready.exists_cycle (h : Ready s) (hprepares : Prepares files token s) (sink : Sink)
    (now : Timestamp) (ending : Ending) :
    ∃ incidents, marks s incidents = ending.marks ∧
      ((live s incidents).phase = .over ∨ Ready (live s incidents)) := by
  cases ending with
  | refused => exact h.exists_refused hprepares
  | broken =>
    obtain ⟨incidents, hmarks, hphase, hrunning⟩ := h.exists_session hprepares
    refine ⟨incidents ++ [.broken sink now], ?_, ?_⟩
    · simp [marks_append, hmarks, marks, Incident.mark?, isOpen, hphase, Ending.marks]
    · have hbroken : (live s incidents).isOpen = true := by simp [isOpen, hphase]
      have hlive : live s (incidents ++ [.broken sink now]) =
          ((live s incidents).drain sink now).fail := (live_append ..).trans (if_pos hbroken)
      rw [hlive]
      exact ready_fail hrunning
  | cycled =>
    obtain ⟨incidents, hmarks, hphase, hrunning⟩ := h.exists_session hprepares
    have hnote : (live s incidents).noteChange true =
        { live s incidents with reconnectRequested := true } := if_pos (by simp [hrunning])
    refine ⟨incidents ++ [.raised true, .moved .cycle, .moved (.close sink now)], ?_, ?_⟩
    · simp [marks_append, hmarks, marks, Incident.mark?, Incident.apply, Move.apply, hnote, cycle,
        hphase, Ending.marks]
    · rw [live_append]
      generalize live s incidents = session at hphase hrunning hnote
      have hlive : live session [.raised true, .moved .cycle, .moved (.close sink now)] =
          { drain sink now { session with reconnectRequested := true, phase := .closing } with
            state := .connecting, phase := .opening } := by
        simp [live, Incident.apply, Move.apply, hnote, cycle, hphase, close, drain]
      rw [hlive]
      exact .inr ⟨.inl rfl, hrunning⟩

/-- Any course of cycles is the one of some listener, as long as its attempts last. -/
theorem exists_incidents (h : s.running = false) (hlimit : 0 < s.settings.maxReconnectAttempts)
    (hprepares : Prepares files token s) (sink : Sink) (now : Timestamp) (topics : List String)
    (endings : List Ending)
    (hleft : ∀ front ending back, endings = front ++ ending :: back →
      failures (front.flatMap Ending.marks) ≤ s.settings.maxReconnectAttempts.toNat) :
    ∃ incidents, marks (s.start topics) incidents = endings.flatMap Ending.marks ∧
      ((live (s.start topics) incidents).phase = .over ∨
        Ready (live (s.start topics) incidents)) := by
  have hstart : (s.start topics).settings = s.settings := by rw [start, if_neg (by simp [h])]
  induction endings using List.reverseRecOn with
  | nil =>
    refine ⟨[], rfl, .inr ?_⟩
    change Ready (s.start topics)
    rw [start, if_neg (by simp [h])]
    exact ⟨.inl rfl, rfl⟩
  | append_singleton front ending ih =>
    have hfront := hleft front ending [] rfl
    obtain ⟨incidents, hmarks, hready⟩ := ih fun front' ending' back hback =>
      hleft front' ending' (back ++ [ending]) (by simp [hback])
    have haccount := (account_start h topics).live hlimit incidents
    rw [List.nil_append, hmarks] at haccount
    have hready : Ready (live (s.start topics) incidents) := by
      cases haccount.progress with
      | trying live => exact hready.resolve_left live
      | gaveUp _ _ _ spent => omega
    have hsettings : (live (s.start topics) incidents).settings = s.settings :=
      (live_settings ..).trans hstart
    have hprepares : Prepares files token (live (s.start topics) incidents) := by
      rwa [Prepares, clientId, hsettings]
    obtain ⟨more, hmore, hnext⟩ := hready.exists_cycle hprepares sink now ending
    refine ⟨incidents ++ more, ?_, ?_⟩
    · simp [marks_append, hmarks, hmore]
    · rwa [live_append]

end EventBus.Subscriber
