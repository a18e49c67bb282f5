import EventBus.Publisher

namespace EventBus.Publisher

open scoped List

/-- Whether the message is to arrive whatever happens on the way. -/
def Request.reliable (request : Request) : Bool := request.qos ≠ .atMostOnce

/-- The requests that the driver has yet to write. -/
def Session.pending (s : Session) : List Request :=
  match s.phase with
  | .polling | .waiting _ => s.link.queue
  | .ended => []

/-- A call that holds the client of a link, by the number of that link. -/
structure Call where
  request : Request
  link : Nat
  deriving DecidableEq, Repr

/-- A session, the calls that publish over it, and what became of their requests. -/
structure Flow where
  timeout : UInt64
  session : Session
  /-- How many links were replaced. -/
  replaced : Nat := 0
  /-- Requests of calls that found a connection and have no client yet. -/
  checked : List Request := []
  calls : List Call := []
  /-- Requests of calls that reported success. -/
  accepted : List Request := []
  written : List Request := []

namespace Flow

/-- One step of a call, of the driver or of the network. -/
inductive Op where
  /-- A call asks whether there is a connection. -/
  | check (request : Request)
  /-- It takes the client as it is by now. -/
  | take (request : Request)
  /-- It queues its request, or fails. -/
  | put (call : Call)
  | write
  | observe (traffic : Traffic)
  | fail (reason : String)
  /-- The driver has waited, and makes a new link if it can. -/
  | resume (rebuilt : Except Connection.Error Connection.Options)

/-- The client of a link that is gone queues nothing. -/
def put (f : Flow) (call : Call) : Flow :=
  let rest := { f with calls := f.calls.erase call }
  if call.link = f.replaced ∧ f.session.phase ≠ .ended then
    match submit f.timeout call.request f.session.link with
    | .ok link =>
      { rest with
        session := { f.session with link }
        accepted := f.accepted ++ [call.request] }
    | .error _ => rest
  else rest

/-- A step that nobody can take changes nothing. -/
def Op.apply (f : Flow) : Op → Flow
  | .check request =>
    if f.session.connected then { f with checked := f.checked ++ [request] } else f
  | .take request =>
    if request ∈ f.checked then
      { f with
        checked := f.checked.erase request
        calls := f.calls ++ [{ request, link := f.replaced }] }
    else f
  | .put call => if call ∈ f.calls then f.put call else f
  | .write =>
    match f.session.write? with
    | some (request, session) => { f with session, written := f.written ++ [request] }
    | none => f
  | .observe traffic => { f with session := f.session.observe traffic }
  | .fail reason => { f with session := f.session.fail reason false }
  | .resume rebuilt =>
    match f.session.phase, rebuilt with
    | .waiting _, .ok _ =>
      { f with session := f.session.resume rebuilt, replaced := f.replaced + 1 }
    | _, _ => { f with session := f.session.resume rebuilt }

def run (f : Flow) (ops : List Op) : Flow := ops.foldl Op.apply f

def opening (timeout : UInt64) (policy : Connection.RetryPolicy) (options : Connection.Options) :
    Flow :=
  { timeout, session := .new policy options }

/-- What a step discards: the queue of a link that is replaced or given up. -/
def discarded (f : Flow) : Op → List Request
  | .fail reason => if (f.session.fail reason false).phase = .ended then f.session.pending else []
  | .resume (.ok _) =>
    match f.session.phase with
    | .waiting _ => f.session.pending
    | .polling | .ended => []
  | .resume (.error _) | .check _ | .take _ | .put _ | .write | .observe _ => []

/-- Every reliable request that was accepted was written or is yet to be. -/
def Kept (f : Flow) : Prop :=
  (f.accepted.filter (·.reliable)).Perm ((f.written ++ f.session.pending).filter (·.reliable))

instance (f : Flow) : Decidable f.Kept := by
  unfold Kept
  infer_instance

theorem run_append (f : Flow) (front back : List Op) :
    f.run (front ++ back) = (f.run front).run back :=
  List.foldl_append

theorem pending_observe (s : Session) (traffic : Traffic) :
    (s.observe traffic).pending = s.pending := by
  unfold Session.observe
  split <;> rfl

theorem pending_retry (s : Session) (h : s.phase = .polling) :
    (s.retry false).pending = if (s.retry false).phase = .ended then [] else s.pending := by
  unfold Session.retry
  split <;> simp [Session.enter, Session.finish, Session.pending, h]

theorem pending_fail (s : Session) (reason : String) :
    (s.fail reason false).pending =
      if (s.fail reason false).phase = .ended then [] else s.pending := by
  unfold Session.fail
  split
  · next hphase =>
    dsimp only
    split
    · exact pending_retry (s.enter (.networkError reason)) hphase
    · simp [Session.finish, Session.pending]
  · next delay hphase => simp [hphase]
  · next hphase => simp [hphase, Session.pending]

theorem submit_eq_ok {timeout : UInt64} {request : Request} {link next : Link}
    (h : submit timeout request link = .ok next) : next = link.enqueue request := by
  unfold submit at h
  split at h
  · cases h
  · split at h
    · cases h
    · exact (Except.ok.inj h).symm

theorem write?_eq_some {s after : Session} {request : Request}
    (h : s.write? = some (request, after)) : s.pending = request :: after.pending := by
  unfold Session.write? at h
  split at h
  · next hphase =>
    unfold Link.write? at h
    split at h
    · simp at h
    · next first rest hqueue =>
      simp only [Option.map_some, Option.some.injEq, Prod.mk.injEq] at h
      obtain ⟨rfl, rfl⟩ := h
      simp [Session.pending, hphase, hqueue]
  · cases h
  · cases h

/-- A step accepts some requests and writes some. What waited before it and what it accepts is
written by it, discarded by it or waits after it, in this order. -/
structure Balance (f : Flow) (gone : List Request) (after : Flow) : Prop where
  split : ∃ more out, after.accepted = f.accepted ++ more ∧ after.written = f.written ++ out ∧
    f.session.pending ++ more = out ++ gone ++ after.session.pending

theorem Balance.of_pending {f after : Flow} {gone : List Request}
    (haccepted : after.accepted = f.accepted) (hwritten : after.written = f.written)
    (hpending : f.session.pending = gone ++ after.session.pending) : Balance f gone after :=
  ⟨[], [], by simp [haccepted], by simp [hwritten], by simpa using hpending⟩

theorem balance_put (f : Flow) (call : Call) : Balance f [] (f.put call) := by
  unfold put
  split
  · next hlive =>
    split
    · next link hsubmit =>
      refine ⟨[call.request], [], rfl, (List.append_nil _).symm, ?_⟩
      cases hphase : f.session.phase with
      | ended => exact absurd hphase hlive.2
      | polling | waiting delay =>
        simp [Session.pending, hphase, submit_eq_ok hsubmit, Link.enqueue]
    · exact .of_pending rfl rfl rfl
  · exact .of_pending rfl rfl rfl

theorem balance_resume (f : Flow) (rebuilt : Except Connection.Error Connection.Options) :
    Balance f (f.discarded (.resume rebuilt)) (Op.apply f (.resume rebuilt)) := by
  cases rebuilt with
  | error error | ok options =>
    refine .of_pending ?_ ?_ ?_ <;>
      cases hphase : f.session.phase <;>
      simp [Op.apply, discarded, Session.resume, Session.pending, hphase]

theorem balance_apply (f : Flow) (op : Op) : Balance f (f.discarded op) (op.apply f) := by
  cases op with
  | check request =>
    simp only [Op.apply, discarded]
    split <;> exact .of_pending rfl rfl rfl
  | take request =>
    simp only [Op.apply, discarded]
    split <;> exact .of_pending rfl rfl rfl
  | put call =>
    simp only [Op.apply, discarded]
    split
    · exact balance_put f call
    · exact .of_pending rfl rfl rfl
  | write =>
    simp only [Op.apply, discarded]
    split
    · next request session hwrite =>
      exact ⟨[], [request], (List.append_nil _).symm, rfl, by simp [write?_eq_some hwrite]⟩
    · exact .of_pending rfl rfl rfl
  | observe traffic => exact .of_pending rfl rfl (pending_observe f.session traffic).symm
  | fail reason =>
    refine .of_pending rfl rfl ?_
    simp only [Op.apply, discarded, pending_fail]
    split <;> simp
  | resume rebuilt => exact balance_resume f rebuilt

def allDiscarded (f : Flow) : List Op → List Request
  | [] => []
  | op :: ops => f.discarded op ++ (op.apply f).allDiscarded ops

/-- Every request that was accepted was written, is gone or waits. -/
def Accounted (f : Flow) (gone : List Request) : Prop :=
  f.accepted.Perm (f.written ++ (gone ++ f.session.pending))

theorem Accounted.step {f after : Flow} {before gone : List Request} (h : Accounted f before)
    (hb : Balance f gone after) : Accounted after (before ++ gone) := by
  obtain ⟨more, out, haccepted, hwritten, hsplit⟩ := hb.split
  rw [Accounted, haccepted, hwritten]
  -- The order is lost here: what is written overtakes what was discarded before it.
  calc f.accepted ++ more
    _ ~ f.written ++ (before ++ f.session.pending) ++ more := h.append_right more
    _ = f.written ++ (before ++ (f.session.pending ++ more)) := by simp
    _ = f.written ++ (before ++ (out ++ (gone ++ after.session.pending))) := by
      rw [hsplit, List.append_assoc]
    _ ~ f.written ++ (out ++ (before ++ (gone ++ after.session.pending))) :=
      (List.perm_append_comm_assoc before out _).append_left f.written
    _ = f.written ++ out ++ (before ++ gone ++ after.session.pending) := by simp

theorem Accounted.run {f : Flow} {before : List Request} (h : Accounted f before) (ops : List Op) :
    Accounted (f.run ops) (before ++ f.allDiscarded ops) := by
  induction ops generalizing f before with
  | nil => simpa [Flow.run, allDiscarded] using h
  | cons op ops ih =>
    have hrest := ih (h.step (balance_apply f op))
    rwa [List.append_assoc] at hrest

theorem Accounted.kept_iff {f : Flow} {gone : List Request} (h : Accounted f gone) :
    f.Kept ↔ gone.filter (·.reliable) = [] := by
  have hfilter := h.filter (·.reliable)
  simp only [List.filter_append] at hfilter
  simp only [Kept, List.filter_append]
  constructor
  · intro hkept
    have hlength := (hkept.symm.trans hfilter).length_eq
    simp only [List.length_append] at hlength
    exact List.eq_nil_of_length_eq_zero (by omega)
  · intro hgone
    rwa [hgone, List.nil_append] at hfilter

theorem allDiscarded_filter_eq_nil_iff (f : Flow) (ops : List Op) :
    (f.allDiscarded ops).filter (·.reliable) = [] ↔
      ∀ front op back, ops = front ++ op :: back →
        ((f.run front).discarded op).filter (·.reliable) = [] := by
  induction ops generalizing f with
  | nil => simp [allDiscarded]
  | cons first rest ih =>
    rw [allDiscarded, List.filter_append, List.append_eq_nil_iff, ih]
    constructor
    · rintro ⟨hfirst, hrest⟩ front op back hops
      cases front with
      | nil =>
        obtain ⟨rfl, -⟩ := List.cons.inj hops
        exact hfirst
      | cons other front =>
        obtain ⟨rfl, htail⟩ := List.cons.inj hops
        exact hrest front op back htail
    · intro h
      refine ⟨h [] first rest rfl, fun front op back hops => ?_⟩
      exact h (first :: front) op back (by simp [hops])

/-- However calls, driver and network come in between each other: what was reported as published is
kept exactly if no link was replaced or given up with reliable requests in its queue. -/
theorem kept_run_iff (timeout : UInt64) (policy : Connection.RetryPolicy)
    (options : Connection.Options) (ops : List Op) :
    ((opening timeout policy options).run ops).Kept ↔
      ∀ front op back, ops = front ++ op :: back →
        (((opening timeout policy options).run front).discarded op).filter (·.reliable) = [] := by
  have hstart : Accounted (opening timeout policy options) [] := .refl []
  have haccounted := hstart.run ops
  rw [List.nil_append] at haccounted
  rw [haccounted.kept_iff, allDiscarded_filter_eq_nil_iff]

/-- What a session without encryption is opened with. -/
def plain : Connection.Options where
  host := "localhost"
  port := 1883
  clientId := "c"
  cleanStart := true
  credentials := none
  keepAlive := .ofSeconds 60
  maxPacketSize := 10240
  tls := none

/-- A message that is to arrive at least once. -/
def parcel : Request := ⟨"a", .atLeastOnce, false, [123, 125], ⟨"application/json", none, []⟩⟩

/-- A session that is open, with what it has to write. -/
def openWith (queue : List Request) : Session :=
  { Session.new ⟨0, .ofSeconds 5⟩ plain with
    link := { options := plain, queue }, state := .connected, connected := true
    established := true }

/-- A connection fails between the report of a success and the writing, and the link is replaced. -/
def interruption : List Op := [.put ⟨parcel, 0⟩, .fail "gone", .resume (.ok plain)]

theorem run_interruption :
    run { timeout := 5, session := openWith [], calls := [⟨parcel, 0⟩] } interruption =
      run { timeout := 5, session := openWith [parcel], accepted := [parcel] }
        [.fail "gone", .resume (.ok plain)] := by
  have htopic : parcel.topic.any isWildcard = false := by
    rw [String.any, String.contains_bool_eq]
    decide
  have hsubmit : submit 5 parcel (openWith []).link = .ok (openWith [parcel]).link := by
    simp [submit, htopic, openWith, Link.isFull, Link.capacity, Link.enqueue]
  have hpolling : (openWith []).phase ≠ .ended := by decide
  have hput :
      Op.apply { timeout := 5, session := openWith [], calls := [⟨parcel, 0⟩] } (.put ⟨parcel, 0⟩) =
        { timeout := 5, session := openWith [parcel], accepted := [parcel] } := by
    simp [Op.apply, put, hsubmit, hpolling]
    rfl
  rw [interruption, run, List.foldl_cons, hput]
  rfl

/-- A message was reported as published, and is neither written nor waiting. -/
theorem not_kept_after_interruption :
    ¬((opening 5 ⟨0, .ofSeconds 5⟩ plain).run
      ([.observe (.incoming .connectAnswer), .check parcel, .take parcel] ++
        interruption)).Kept := by
  have hcalling : (opening 5 ⟨0, .ofSeconds 5⟩ plain).run
      [.observe (.incoming .connectAnswer), .check parcel, .take parcel] =
        { timeout := 5, session := openWith [], calls := [⟨parcel, 0⟩] } := by rfl
  rw [run_append, hcalling, run_interruption]
  decide

/-- A call that nothing comes in between leaves the session as these steps do, and reports success
just if they accept its request. -/
theorem publish_eq_run {p : Publisher} {session : Session} (hsession : p.session = some session)
    (hconnected : session.connected = true) (hlive : session.phase ≠ .ended) (now : Timestamp)
    (id : String) (message : Message) :
    let request := p.request message now
    let f : Flow := { timeout := p.settings.publishTimeout, session }
    let after := f.run [.check request, .take request, .put ⟨request, 0⟩]
    (p.publish now id message).1.session = some after.session ∧
      (p.publish now id message).2.success = decide (after.accepted = [request]) := by
  intro request f after
  have hput : after = f.put ⟨request, 0⟩ := by
    simp [after, f, run, Op.apply, hconnected, put]
  cases hsubmit : submit p.settings.publishTimeout request session.link with
  | error refusal =>
    have hafter : after = f := by simp [hput, put, f, hlive, hsubmit]
    cases refusal <;>
      simp [Publisher.publish, Publisher.put, hsession, hconnected, hlive, request, hsubmit,
        hafter, f, refuse, PublishResult.failed]
  | ok link =>
    simp [Publisher.publish, Publisher.put, hsession, hconnected, request, hsubmit, hput, put, f,
      hlive, PublishResult.ok]

end Flow
end EventBus.Publisher
