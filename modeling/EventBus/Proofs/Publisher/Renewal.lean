import EventBus.Proofs.Publisher.Driver

namespace EventBus.Publisher

open Connection (AccessToken Credentials FileReader Options RetryPolicy)

namespace Driver

/-- What there is for an attempt to connect again: the files, and the answer of the provider. -/
structure Attempt where
  files : FileReader
  token : Except String AccessToken

/-- What the new link is to be made with. -/
def Attempt.prepare (settings : BrokerSettings) (attempt : Attempt) :
    Except Connection.Error Options :=
  Options.prepare attempt.files settings settings.clientId (some attempt.token)

structure Opening where
  options : Options
  /-- Whether the broker had acknowledged the session before. -/
  established : Bool
  /-- The attempt that it belongs to, if it is one to connect again. -/
  attempt : Option Attempt

/-- The connection is opened with the credentials that were resolved for its attempt, and with
options that were made of them. -/
def Opening.Fresh (settings : BrokerSettings) (opening : Opening) : Prop :=
  ∃ attempt, opening.attempt = some attempt ∧
    Credentials.resolve settings (some attempt.token) = .ok opening.options.credentials ∧
    Options.ofSettings attempt.files settings settings.clientId opening.options.credentials =
      .ok opening.options

/-- A driver with a token provider, and the connections that it opened. To poll a link while there
is no connection opens one, with the options that the link was made with. -/
structure Renewing where
  driver : Driver
  /-- Whether the next poll opens a connection. -/
  down : Bool := true
  /-- The latest attempt to connect again, until its connection is lost. -/
  attempt : Option Attempt := none
  openings : List Opening := []

namespace Renewing

inductive Step where
  | polled (traffic : Traffic)
  | failed (reason : String)
  /-- The driver has waited, and makes a new link if it can. -/
  | rebuilt (attempt : Attempt)
  | asked
  /-- The driver sees that it was asked to end. If it polls, it takes leave over its link. -/
  | heeded

def Step.event (settings : BrokerSettings) : Step → Event
  | .polled traffic => .polled traffic
  | .failed reason => .failed reason
  | .rebuilt attempt => .rebuilt (attempt.prepare settings)
  | .asked => .asked
  | .heeded => .heeded

/-- Whether the driver, if it is polling, polls its link. -/
def Step.polls : Step → Bool
  | .polled _ | .failed _ | .heeded => true
  | .rebuilt _ | .asked => false

def poll (r : Renewing) : Renewing :=
  if r.down ∧ r.driver.session.phase = .polling then
    { r with
      down := false
      openings := r.openings ++
        [⟨r.driver.session.link.options, r.driver.session.established, r.attempt⟩] }
  else r

def Step.apply (settings : BrokerSettings) (r : Renewing) (step : Step) : Renewing :=
  let r := if step.polls then r.poll else r
  let r := { r with driver := (step.event settings).apply r.driver }
  match step with
  | .failed _ => { r with down := true, attempt := none }
  | .rebuilt attempt => { r with down := true, attempt := some attempt }
  | .polled _ | .asked | .heeded => r

/-- The runs of a driver whose first link was made with these options. -/
inductive Run (settings : BrokerSettings) (options : Options) : List Step → Renewing → Prop where
  | start : Run settings options [] { driver := { session := .new (.ofSettings settings) options } }
  | step {steps : List Step} {r : Renewing} (h : Run settings options steps r) (step : Step)
      (he : (step.event settings).Enabled r.driver) :
      Run settings options (steps ++ [step]) (step.apply settings r)

/-- What the link is made with after these steps. -/
def latest (settings : BrokerSettings) (options : Options) (steps : List Step) : Options :=
  steps.foldl (fun options step =>
    match step with
    | .rebuilt attempt => (attempt.prepare settings).toOption.getD options
    | .polled _ | .failed _ | .asked | .heeded => options) options

variable {settings : BrokerSettings} {options : Options} {steps : List Step} {r : Renewing}

theorem latest_append (settings : BrokerSettings) (options : Options) (steps : List Step)
    (attempt : Attempt) :
    latest settings options (steps ++ [.rebuilt attempt]) =
      (attempt.prepare settings).toOption.getD (latest settings options steps) := by
  simp [latest]

theorem latest_append_other {step : Step} (h : ∀ attempt, step ≠ .rebuilt attempt) :
    latest settings options (steps ++ [step]) = latest settings options steps := by
  cases step with
  | rebuilt attempt => exact absurd rfl (h attempt)
  | polled traffic | failed reason | asked | heeded => simp [latest]

theorem latest_append_asked {back : List Step} (h : ∀ step ∈ back, step = .asked) :
    latest settings options (steps ++ back) = latest settings options steps := by
  induction back generalizing steps with
  | nil => rw [List.append_nil]
  | cons step rest ih =>
    obtain ⟨rfl, hrest⟩ := List.forall_mem_cons.mp h
    rw [List.append_cons, ih hrest, latest_append_other (by simp)]

theorem split_append {step : Step} {front back : List Step} {attempt : Attempt}
    (h : steps ++ [step] = front ++ .rebuilt attempt :: back) :
    (back = [] ∧ steps = front ∧ step = .rebuilt attempt) ∨
      ∃ more, back = more ++ [step] ∧ steps = front ++ .rebuilt attempt :: more := by
  rcases List.eq_nil_or_concat back with rfl | ⟨more, last, rfl⟩
  · obtain ⟨hsteps, hstep⟩ := List.append_inj' h rfl
    exact .inl ⟨rfl, hsteps, (List.cons.inj hstep).1⟩
  · rw [List.concat_eq_append, ← List.cons_append, ← List.append_assoc] at h
    obtain ⟨hsteps, hstep⟩ := List.append_inj' h rfl
    obtain ⟨rfl, -⟩ := List.cons.inj hstep
    exact .inr ⟨more, List.concat_eq_append, hsteps⟩

/-- The next poll opens a connection of a session that the broker acknowledged before. -/
structure Opens (r : Renewing) : Prop where
  established : r.driver.session.established = true
  phase : r.driver.session.phase = .polling
  down : r.down = true

structure Sound (settings : BrokerSettings) (options : Options) (steps : List Step)
    (r : Renewing) : Prop where
  waits : ∀ delay, r.driver.session.phase = .waiting delay → r.driver.session.established = true
  link : r.driver.session.link.options = latest settings options steps
  pending : r.Opens → ∃ front attempt back, steps = front ++ .rebuilt attempt :: back ∧
    (∀ step ∈ back, step = .asked) ∧ r.attempt = some attempt
  untried : ∀ front attempt back, steps = front ++ .rebuilt attempt :: back →
    back.any (·.polls) = false → r.Opens ∧ r.attempt = some attempt
  sent : ∀ opening ∈ r.openings, opening.established = true →
    ∃ front attempt back, steps = front ++ .rebuilt attempt :: back ∧
      back.any (·.polls) = true ∧ opening.attempt = some attempt ∧
      opening.options = latest settings options (front ++ [.rebuilt attempt])
  tried : ∀ front attempt back, steps = front ++ .rebuilt attempt :: back →
    back.any (·.polls) = true →
    ∃ opening ∈ r.openings, opening.established = true ∧ opening.attempt = some attempt

theorem poll_of_opens (h : r.Opens) :
    r.poll.openings = r.openings ++ [⟨r.driver.session.link.options, true, r.attempt⟩] := by
  rw [poll, if_pos ⟨h.down, h.phase⟩, h.established]

theorem mem_poll {opening : Opening} (h : opening ∈ r.poll.openings)
    (hestablished : opening.established = true) :
    opening ∈ r.openings ∨
      r.Opens ∧ opening = ⟨r.driver.session.link.options, true, r.attempt⟩ := by
  unfold poll at h
  split at h
  · next hdown =>
    rcases List.mem_append.mp h with h | h
    · exact .inl h
    · obtain rfl := List.mem_singleton.mp h
      exact .inr ⟨⟨hestablished, hdown.2, hdown.1⟩, by rw [← hestablished]⟩
  · exact .inl h

theorem mem_poll_of_mem {opening : Opening} (h : opening ∈ r.openings) :
    opening ∈ r.poll.openings := by
  unfold poll
  split
  · exact List.mem_append_left _ h
  · exact h

theorem Sound.poll (h : Sound settings options steps r) {step : Step} (hpolls : step.polls = true)
    {after : Renewing} (hopenings : after.openings = r.poll.openings)
    (hlink : after.driver.session.link = r.driver.session.link) (hopens : ¬after.Opens)
    (hwaits : ∀ delay, after.driver.session.phase = .waiting delay →
      after.driver.session.established = true) :
    Sound settings options (steps ++ [step]) after := by
  have hother : ∀ attempt, step ≠ .rebuilt attempt := by
    rintro attempt rfl
    cases hpolls
  refine ⟨hwaits, ?_, fun hafter => absurd hafter hopens, ?_, ?_, ?_⟩
  · rw [hlink, latest_append_other hother]
    exact h.link
  · intro front attempt back hsteps hquiet
    rcases split_append hsteps with ⟨-, -, rfl⟩ | ⟨more, rfl, -⟩
    · cases hpolls
    · simp [hpolls] at hquiet
  · intro opening hopening hestablished
    rw [hopenings] at hopening
    rcases mem_poll hopening hestablished with hold | ⟨hdown, rfl⟩
    · obtain ⟨front, attempt, back, rfl, htried, hsent⟩ := h.sent opening hold hestablished
      exact ⟨front, attempt, back ++ [step], by simp, by simp [htried], hsent⟩
    · obtain ⟨front, attempt, back, rfl, hasked, hattempt⟩ := h.pending hdown
      refine ⟨front, attempt, back ++ [step], by simp, by simp [hpolls], hattempt, ?_⟩
      dsimp only
      rw [h.link, List.append_cons, latest_append_asked hasked]
  · intro front attempt back hsteps htried
    rw [hopenings]
    rcases split_append hsteps with ⟨-, -, rfl⟩ | ⟨more, rfl, hmore⟩
    · cases hpolls
    · cases hbefore : more.any (·.polls) with
      | true =>
        obtain ⟨opening, hopening, hsent⟩ := h.tried front attempt more hmore hbefore
        exact ⟨opening, mem_poll_of_mem hopening, hsent⟩
      | false =>
        obtain ⟨hdown, hattempt⟩ := h.untried front attempt more hmore hbefore
        rw [poll_of_opens hdown]
        exact ⟨_, List.mem_append_right _ (List.mem_singleton_self _), rfl, hattempt⟩

theorem Sound.quiet (h : Sound settings options steps r) {step : Step}
    (hpolls : step.polls = false) {after : Renewing} (hopenings : after.openings = r.openings) :
    (∀ opening ∈ after.openings, opening.established = true →
      ∃ front attempt back, steps ++ [step] = front ++ .rebuilt attempt :: back ∧
        back.any (·.polls) = true ∧ opening.attempt = some attempt ∧
        opening.options = latest settings options (front ++ [.rebuilt attempt])) ∧
    ∀ front attempt back, steps ++ [step] = front ++ .rebuilt attempt :: back →
      back.any (·.polls) = true →
      ∃ opening ∈ after.openings, opening.established = true ∧ opening.attempt = some attempt := by
  rw [hopenings]
  constructor
  · intro opening hopening hestablished
    obtain ⟨front, attempt, back, rfl, htried, hsent⟩ := h.sent opening hopening hestablished
    exact ⟨front, attempt, back ++ [step], by simp, by simp [htried], hsent⟩
  · intro front attempt back hsteps htried
    rcases split_append hsteps with ⟨rfl, -, -⟩ | ⟨more, rfl, hmore⟩
    · cases htried
    · have hbefore : more.any (·.polls) = true := by simpa [hpolls] using htried
      exact h.tried front attempt more hmore hbefore

theorem Sound.asked (h : Sound settings options steps r) :
    Sound settings options (steps ++ [.asked]) (Step.asked.apply settings r) := by
  have hstill : Step.asked.polls = false := rfl
  obtain ⟨hsent, htried⟩ := h.quiet hstill rfl
  refine ⟨h.waits, ?_, ?_, ?_, hsent, htried⟩
  · rw [latest_append_other (by simp)]
    exact h.link
  · intro hopens
    obtain ⟨front, attempt, back, rfl, hasked, hattempt⟩ :=
      h.pending ⟨hopens.established, hopens.phase, hopens.down⟩
    refine ⟨front, attempt, back ++ [.asked], by simp, ?_, hattempt⟩
    simpa [or_imp, forall_and] using hasked
  · intro front attempt back hsteps hquiet
    rcases split_append hsteps with ⟨-, -, hstep⟩ | ⟨more, rfl, hmore⟩
    · cases hstep
    · have hbefore : more.any (·.polls) = false := by simpa [Step.polls] using hquiet
      obtain ⟨hopens, hattempt⟩ := h.untried front attempt more hmore hbefore
      exact ⟨⟨hopens.established, hopens.phase, hopens.down⟩, hattempt⟩

theorem resume_prepared {s : Session} {delay : Duration} (hphase : s.phase = .waiting delay)
    (result : Except Connection.Error Options) :
    (s.resume result).phase = .polling ∧ (s.resume result).established = s.established ∧
      (s.resume result).link.options = result.toOption.getD s.link.options := by
  unfold Session.resume
  rw [hphase]
  cases result <;> exact ⟨rfl, rfl, rfl⟩

theorem Sound.rebuilt (h : Sound settings options steps r) (attempt : Attempt) {delay : Duration}
    (hphase : r.driver.session.phase = .waiting delay) :
    Sound settings options (steps ++ [.rebuilt attempt])
      ((Step.rebuilt attempt).apply settings r) := by
  obtain ⟨hpolling, hestablished, hlink⟩ := resume_prepared hphase (attempt.prepare settings)
  have hopens : ((Step.rebuilt attempt).apply settings r).Opens :=
    ⟨hestablished.trans (h.waits delay hphase), hpolling, rfl⟩
  have hstill : (Step.rebuilt attempt).polls = false := rfl
  obtain ⟨hsent, htried⟩ := h.quiet hstill rfl
  refine ⟨fun _ _ => hopens.established, ?_, ?_, ?_, hsent, htried⟩
  · rw [latest_append, ← h.link]
    exact hlink
  · exact fun _ => ⟨steps, attempt, [], rfl, by simp, rfl⟩
  · intro front other back hsteps hquiet
    rcases split_append hsteps with ⟨-, -, hstep⟩ | ⟨more, rfl, hmore⟩
    · obtain rfl := Step.rebuilt.inj hstep
      exact ⟨hopens, rfl⟩
    · -- The attempt before would still be untried, and the driver polling.
      have hbefore : more.any (·.polls) = false := by simpa [Step.polls] using hquiet
      have hpolls := (h.untried front other more hmore hbefore).1.phase
      rw [hphase] at hpolls
      cases hpolls

theorem poll_driver (r : Renewing) : r.poll.driver = r.driver := by
  unfold Renewing.poll
  split <;> rfl

theorem poll_down (h : r.driver.session.phase = .polling) : r.poll.down = false := by
  unfold Renewing.poll
  split
  · rfl
  · next hup => simpa [h] using hup

theorem link_observe (s : Session) (traffic : Traffic) : (s.observe traffic).link = s.link := by
  unfold Session.observe
  split <;> rfl

theorem phase_observe (s : Session) (traffic : Traffic) :
    (s.observe traffic).phase = s.phase := by
  unfold Session.observe
  split <;> rfl

theorem Sound.polled (h : Sound settings options steps r) (traffic : Traffic)
    (hphase : r.driver.session.phase = .polling) :
    Sound settings options (steps ++ [.polled traffic])
      ((Step.polled traffic).apply settings r) := by
  have hdriver := poll_driver r
  have hafter : ((Step.polled traffic).apply settings r).driver.session =
      r.driver.session.observe traffic := by
    simp [Step.apply, Step.polls, Step.event, Event.apply, hdriver]
  refine h.poll rfl rfl ?_ ?_ ?_
  · rw [hafter, link_observe]
  · intro hopens
    have hup : r.poll.down = true := hopens.down
    rw [poll_down hphase] at hup
    cases hup
  · intro delay hwaiting
    rw [hafter, phase_observe, hphase] at hwaiting
    cases hwaiting

theorem link_fail (s : Session) (reason : String) (shutdown : Bool) :
    (s.fail reason shutdown).link = s.link := by
  unfold Session.fail
  split
  · dsimp only
    split
    · unfold Session.retry
      split <;> rfl
    · rfl
  · rfl
  · rfl

theorem phase_fail {s : Session} (hphase : s.phase = .polling) (reason : String)
    (shutdown : Bool) :
    (s.fail reason shutdown).phase = .ended ∨
      s.established = true ∧ ∃ delay, (s.fail reason shutdown).phase = .waiting delay := by
  cases hestablished : s.established with
  | false =>
    rw [fail_of_new hphase hestablished]
    exact .inl rfl
  | true =>
    rw [fail_of_established hphase hestablished]
    unfold Session.retry
    split
    · exact .inr ⟨rfl, _, rfl⟩
    · exact .inl rfl
    · exact .inl rfl
    · exact .inl rfl

theorem Sound.failed (h : Sound settings options steps r) (reason : String)
    (hphase : r.driver.session.phase = .polling) :
    Sound settings options (steps ++ [.failed reason])
      ((Step.failed reason).apply settings r) := by
  have hdriver := poll_driver r
  have hafter : ((Step.failed reason).apply settings r).driver.session =
      r.driver.session.fail reason r.driver.shutdown := by
    simp [Step.apply, Step.polls, Step.event, Event.apply, hdriver]
  have hends := phase_fail hphase reason r.driver.shutdown
  rw [← hafter] at hends
  refine h.poll rfl rfl ?_ ?_ ?_
  · rw [hafter, link_fail]
  · intro hopens
    rcases hends with hended | ⟨-, delay, hwaiting⟩
    · exact absurd (hopens.phase.symm.trans hended) (by simp)
    · exact absurd (hopens.phase.symm.trans hwaiting) (by simp)
  · intro delay hwaiting
    rcases hends with hended | ⟨hestablished, -⟩
    · exact absurd (hended.symm.trans hwaiting) (by simp)
    · rw [hafter, (fail_keeps _ _ _).2]
      exact hestablished

theorem Sound.heeded (h : Sound settings options steps r) :
    Sound settings options (steps ++ [.heeded]) (Step.heeded.apply settings r) := by
  have hdriver := poll_driver r
  have hafter : (Step.heeded.apply settings r).driver.session = r.driver.session.finish := by
    simp [Step.apply, Step.polls, Step.event, Event.apply, hdriver]
  refine h.poll rfl rfl ?_ ?_ ?_
  · rw [hafter]
    rfl
  · intro hopens
    have hphase := hopens.phase
    rw [hafter] at hphase
    cases hphase
  · intro delay hwaiting
    rw [hafter] at hwaiting
    cases hwaiting

theorem sound_start (settings : BrokerSettings) (options : Options) :
    Sound settings options []
      { driver := { session := .new (.ofSettings settings) options } } := by
  refine ⟨by simp [Session.new], rfl, ?_, by simp, by simp, by simp⟩
  rintro ⟨hestablished, -, -⟩
  cases hestablished

theorem Run.sound (h : Run settings options steps r) : Sound settings options steps r := by
  induction h with
  | start => exact sound_start settings options
  | step h step he ih =>
    cases step with
    | polled traffic => exact ih.polled traffic he
    | failed reason => exact ih.failed reason he
    | rebuilt attempt =>
      obtain ⟨delay, hphase⟩ := he
      exact ih.rebuilt attempt hphase
    | asked => exact ih.asked
    | heeded => exact ih.heeded

end Renewing

theorem credentials_ofSettings {files : FileReader} {settings : BrokerSettings} {clientId : String}
    {credentials : Option Credentials} {options : Options}
    (h : Options.ofSettings files settings clientId credentials = .ok options) :
    options.credentials = credentials := by
  unfold Options.ofSettings at h
  dsimp only at h
  split at h
  · cases htls : Connection.Tls.ofSettings files settings with
    | error error =>
      rw [htls] at h
      cases h
    | ok tls =>
      rw [htls] at h
      obtain rfl := Except.ok.inj h
      rfl
  · obtain rfl := Except.ok.inj h
    rfl

theorem Opening.fresh_iff {settings : BrokerSettings} {opening : Opening} :
    opening.Fresh settings ↔ ∃ attempt, opening.attempt = some attempt ∧
      attempt.prepare settings = .ok opening.options := by
  refine exists_congr fun attempt => and_congr_right fun _ => ?_
  unfold Attempt.prepare Options.prepare
  cases hresolve : Credentials.resolve settings (some attempt.token) with
  | error error =>
    refine ⟨fun h => ?_, fun h => ?_⟩
    · cases h.1
    · cases h
  | ok credentials =>
    constructor
    · rintro ⟨hcredentials, hoptions⟩
      rw [Except.ok.inj hcredentials]
      exact hoptions
    · intro hoptions
      have hcredentials := credentials_ofSettings hoptions
      exact ⟨congrArg Except.ok hcredentials.symm, hcredentials ▸ hoptions⟩

namespace Renewing

variable {settings : BrokerSettings} {options : Options} {steps : List Step} {r : Renewing}

/-- Once the broker has acknowledged the session, every connection belongs to an attempt that the
driver polled after, and is opened with what the link was last made with. So each of them is opened
with what was resolved for it just if all those attempts could be prepared. -/
theorem openings_fresh_iff (h : Run settings options steps r) :
    (∀ opening ∈ r.openings, opening.established = true →
      ∃ front attempt back, steps = front ++ .rebuilt attempt :: back ∧
        back.any (·.polls) = true ∧ opening.attempt = some attempt ∧
        opening.options = latest settings options (front ++ [.rebuilt attempt])) ∧
    ((∀ opening ∈ r.openings, opening.established = true → opening.Fresh settings) ↔
      ∀ front attempt back, steps = front ++ .rebuilt attempt :: back →
        back.any (·.polls) = true → ∃ fresh, attempt.prepare settings = .ok fresh) := by
  have hsound := h.sound
  refine ⟨hsound.sent, fun hfresh => ?_, fun hprepared => ?_⟩
  · intro front attempt back hsteps htried
    obtain ⟨opening, hopening, hestablished, hattempt⟩ :=
      hsound.tried front attempt back hsteps htried
    obtain ⟨same, hsame, hprepare⟩ := Opening.fresh_iff.mp (hfresh opening hopening hestablished)
    obtain rfl := Option.some.inj (hattempt.symm.trans hsame)
    exact ⟨_, hprepare⟩
  · intro opening hopening hestablished
    obtain ⟨front, attempt, back, hsteps, htried, hattempt, hoptions⟩ :=
      hsound.sent opening hopening hestablished
    obtain ⟨fresh, hprepare⟩ := hprepared front attempt back hsteps htried
    rw [latest_append, hprepare] at hoptions
    exact Opening.fresh_iff.mpr ⟨attempt, hattempt, hprepare.trans (congrArg _ hoptions.symm)⟩

/-- An attempt at which the provider answers so, and no file is there. -/
def answered (token : Except String AccessToken) : Attempt where
  files := fun _ => .error "No such file or directory (os error 2)"
  token := token

/-- The broker answers and is lost, and at the attempt to connect again it is not reached. -/
def lostOnce (token : Except String AccessToken) : List Step :=
  [.polled (.incoming .connectAnswer), .failed "gone", .rebuilt (answered token), .failed "refused"]

theorem exists_run_lostOnce (options : Options) (token : Except String AccessToken) :
    ∃ r, Run (.standard "c") options (lostOnce token) r ∧ r.openings =
      [⟨options, false, none⟩,
        ⟨latest (.standard "c") options [.rebuilt (answered token)], true,
          some (answered token)⟩] := by
  have hacknowledged : Run (.standard "c") options _ _ :=
    .step .start (.polled (.incoming .connectAnswer)) rfl
  have hlost : Run (.standard "c") options _ _ := hacknowledged.step (.failed "gone") rfl
  have hrebuilt : Run (.standard "c") options _ _ :=
    hlost.step (.rebuilt (answered token)) ⟨_, rfl⟩
  cases token with
  | error cause => exact ⟨_, hrebuilt.step (.failed "refused") rfl, rfl⟩
  | ok token => exact ⟨_, hrebuilt.step (.failed "refused") rfl, rfl⟩

/-- A provider that always answers. -/
theorem openings_fresh_iff_renewed :
    let token : AccessToken := ⟨"new", .epoch⟩
    ∃ r, Run (.standard "c") Flow.plain (lostOnce (.ok token)) r ∧ r.openings.length = 2 ∧
      ∀ opening ∈ r.openings, opening.established = true → opening.Fresh (.standard "c") := by
  intro token
  obtain ⟨r, hrun, hopenings⟩ := exists_run_lostOnce Flow.plain (.ok token)
  refine ⟨r, hrun, by rw [hopenings]; rfl, (openings_fresh_iff hrun).2.mpr ?_⟩
  intro front attempt back hsteps _
  have hmem : Step.rebuilt attempt ∈ lostOnce (.ok token) := by
    rw [hsteps]
    exact List.mem_append_right _ List.mem_cons_self
  have hattempt : attempt = answered (.ok token) := by simpa [lostOnce] using hmem
  rw [hattempt]
  exact ⟨_, rfl⟩

/-- The provider fails once, and the driver connects with the token that it had before. -/
theorem not_fresh_after_refusal :
    let token : AccessToken := ⟨"t1", .epoch⟩
    ∃ options r, (answered (.ok token)).prepare (.standard "c") = .ok options ∧
      Run (.standard "c") options (lostOnce (.error "no token")) r ∧
      ∃ opening ∈ r.openings, opening.established = true ∧
        opening.attempt = some (answered (.error "no token")) ∧
        opening.options.credentials.map (·.password) = some "t1" ∧
        ¬opening.Fresh (.standard "c") := by
  intro token
  have hprepare : ∃ options, (answered (.ok token)).prepare (.standard "c") = .ok options ∧
      options.credentials.map (·.password) = some "t1" := ⟨_, rfl, rfl⟩
  obtain ⟨options, hprepare, hold⟩ := hprepare
  obtain ⟨r, hrun, hopenings⟩ := exists_run_lostOnce options (.error "no token")
  refine ⟨options, r, hprepare, hrun, ⟨options, true, some (answered (.error "no token"))⟩, ?_,
    rfl, rfl, hold, ?_⟩
  · rw [hopenings]
    exact List.mem_cons_of_mem _ (List.mem_singleton_self _)
  · rw [Opening.fresh_iff]
    rintro ⟨attempt, hattempt, hfresh⟩
    obtain rfl := Option.some.inj hattempt
    cases hfresh

end Renewing
end Driver
end EventBus.Publisher
