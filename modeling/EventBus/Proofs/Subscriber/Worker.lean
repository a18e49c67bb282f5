import EventBus.Subscriber.Delivery

namespace EventBus.Subscriber

/-- What the sink is handed for a message, if the message can be read. -/
def Received.reading (base : String) (message : Received) : Option Delivery :=
  match Payload.decode message.payload with
  | .error _ => none
  | .ok payload => some ⟨Topic.stripPrefix base message.topic, payload, message.payload⟩

namespace Worker

variable {base : String} {sink : Sink}

/-- What the sink is handed for these messages. -/
def readings (base : String) (messages : List Received) : List Delivery :=
  messages.filterMap (·.reading base)

/-- Whether the sink panics at this message, after what it was handed before. -/
def panicsAt (base : String) (sink : Sink) (past : List Delivery) (message : Received) : Bool :=
  (message.reading base).any fun delivery => sink past delivery = .panicked

/-- Whether the message is counted as an error: it cannot be read, or the sink refuses it. -/
def refused (base : String) (sink : Sink) (past : List Delivery) (message : Received) : Bool :=
  (message.reading base).elim true fun delivery => sink past delivery = .failed

/-- The sink panics at none of these messages. -/
def calm (base : String) (sink : Sink) (past : List Delivery) : List Received → Bool
  | [] => true
  | message :: rest =>
    !panicsAt base sink past message && calm base sink (past ++ readings base [message]) rest

/-- The messages that are taken up: those up to the first that the sink panics at. -/
def takenUp (base : String) (sink : Sink) (past : List Delivery) : List Received → List Received
  | [] => []
  | message :: rest =>
    message ::
      if panicsAt base sink past message then []
      else takenUp base sink (past ++ readings base [message]) rest

theorem readings_append (front back : List Received) :
    readings base (front ++ back) = readings base front ++ readings base back :=
  List.filterMap_append

theorem readings_cons (message : Received) (rest : List Received) :
    readings base (message :: rest) = readings base [message] ++ readings base rest :=
  readings_append [message] rest

theorem calm_append (past : List Delivery) (front back : List Received) :
    calm base sink past (front ++ back) =
      (calm base sink past front && calm base sink (past ++ readings base front) back) := by
  induction front generalizing past with
  | nil => simp [calm, readings]
  | cons message rest ih =>
    rw [List.cons_append, calm, calm, ih, readings_cons message rest, List.append_assoc,
      Bool.and_assoc]

theorem takenUp_append (past : List Delivery) (front back : List Received) :
    takenUp base sink past (front ++ back) =
      takenUp base sink past front ++
        if calm base sink past front then takenUp base sink (past ++ readings base front) back
        else [] := by
  induction front generalizing past with
  | nil => simp [takenUp, calm, readings]
  | cons message rest ih =>
    rw [List.cons_append, takenUp, takenUp, calm, ih, readings_cons message rest]
    cases panicsAt base sink past message <;> simp

theorem takenUp_of_calm {past : List Delivery} {messages : List Received}
    (h : calm base sink past messages = true) : takenUp base sink past messages = messages := by
  induction messages generalizing past with
  | nil => rfl
  | cons message rest ih =>
    rw [calm, Bool.and_eq_true, Bool.not_eq_true'] at h
    rw [takenUp, h.1, if_neg Bool.false_ne_true, ih h.2]

theorem takenUp_singleton (past : List Delivery) (message : Received) :
    takenUp base sink past [message] = [message] := by
  simp [takenUp]

/-- The messages that the worker drops when it ends. -/
def dropped (base : String) (sink : Sink) (past : List Delivery) (messages : List Received) :
    List Received :=
  messages.drop (takenUp base sink past messages).length

theorem takenUp_append_dropped (past : List Delivery) (messages : List Received) :
    takenUp base sink past messages ++ dropped base sink past messages = messages := by
  induction messages generalizing past with
  | nil => rfl
  | cons message rest ih =>
    rw [dropped, takenUp]
    split
    · simp
    · simpa [dropped] using ih (past ++ readings base [message])

section Handle

variable (now : Timestamp) (w : Worker) (message : Received)

/-- What becomes of a worker that takes up a message, whatever the message and the sink are. -/
theorem handle_eq :
    w.handle base sink now message =
      { queue := if panicsAt base sink w.delivered message then [] else w.queue
        delivered := w.delivered ++ readings base [message]
        tally := if refused base sink w.delivered message then (w.tally.countMessage now).countError
          else w.tally.countMessage now
        alive := w.alive && !panicsAt base sink w.delivered message } := by
  unfold handle panicsAt refused readings
  cases hdecode : Payload.decode message.payload with
  | error fault =>
    have hreading : message.reading base = none := by simp [Received.reading, hdecode]
    simp [hreading]
  | ok payload =>
    have hreading : message.reading base =
        some ⟨Topic.stripPrefix base message.topic, payload, message.payload⟩ := by
      simp [Received.reading, hdecode]
    cases hsink : sink w.delivered
      ⟨Topic.stripPrefix base message.topic, payload, message.payload⟩ <;> simp [hreading, hsink]

theorem handle_delivered :
    (w.handle base sink now message).delivered = w.delivered ++ readings base [message] := by
  rw [handle_eq]

theorem handle_messages :
    (w.handle base sink now message).tally.messages = w.tally.messages + 1 := by
  rw [handle_eq]
  dsimp only
  split <;> rfl

theorem handle_alive :
    (w.handle base sink now message).alive =
      (w.alive && !panicsAt base sink w.delivered message) := by
  rw [handle_eq]

theorem handle_queue :
    (w.handle base sink now message).queue =
      if panicsAt base sink w.delivered message then [] else w.queue := by
  rw [handle_eq]

end Handle

/-- A worker that was given these messages, after the sink had been handed what is past and so many
messages had been counted. It has done with the first of them, and the rest wait. -/
structure Fed (base : String) (sink : Sink) (past : List Delivery) (count : Nat)
    (messages : List Received) (w : Worker) : Prop where
  split : ∃ done, messages = done ++ w.queue ∧ w.alive = calm base sink past done ∧
    w.delivered = past ++ readings base (takenUp base sink past done) ∧
    w.tally.messages = count + (takenUp base sink past done).length
  idle : w.alive = false → w.queue = []

theorem fed_renew (w : Worker) : Fed base sink w.delivered w.tally.messages [] w.renew :=
  ⟨⟨[], rfl, rfl, by simp [renew, takenUp, readings], rfl⟩, fun _ => rfl⟩

namespace Fed

variable {past : List Delivery} {count : Nat} {messages : List Received} {w : Worker}

theorem ignore (h : Fed base sink past count messages w) (hended : w.alive = false)
    (more : List Received) : Fed base sink past count (messages ++ more) w := by
  obtain ⟨done, hmessages, halive, hdelivered, hcount⟩ := h.split
  have hqueue := h.idle hended
  rw [hqueue, List.append_nil] at hmessages
  have hpanicked : calm base sink past done = false := halive.symm.trans hended
  have htaken : takenUp base sink past (done ++ more) = takenUp base sink past done := by
    simp [takenUp_append, hpanicked]
  refine ⟨⟨done ++ more, ?_, ?_, ?_, ?_⟩, h.idle⟩
  · rw [hmessages, hqueue, List.append_nil]
  · rw [calm_append, hpanicked, hended, Bool.false_and]
  · rw [htaken, hdelivered]
  · rw [htaken, hcount]

theorem accept (h : Fed base sink past count messages w) (message : Received) :
    Fed base sink past count (messages ++ [message]) (w.accept message) := by
  unfold Worker.accept
  split
  · next hlive =>
    obtain ⟨done, hmessages, hrest⟩ := h.split
    refine ⟨⟨done, ?_, hrest⟩, fun hended => absurd hlive (by simp_all)⟩
    rw [hmessages, List.append_assoc]
  · next hended => exact h.ignore (Bool.eq_false_iff.mpr hended) [message]

theorem handle {done : List Received} (halive : w.alive = true)
    (hcalm : calm base sink past done = true)
    (hdelivered : w.delivered = past ++ readings base done)
    (hcount : w.tally.messages = count + done.length) (now : Timestamp) (message : Received) :
    Fed base sink past count (done ++ message :: w.queue) (w.handle base sink now message) := by
  have htaken : takenUp base sink past (done ++ [message]) = done ++ [message] := by
    simp [takenUp_append, takenUp_of_calm hcalm, hcalm, takenUp_singleton]
  have hstill : calm base sink past (done ++ [message]) =
      !panicsAt base sink w.delivered message := by
    simp [calm_append, hcalm, calm, hdelivered]
  have hfed : Fed base sink past count
      (done ++ [message] ++ (w.handle base sink now message).queue)
      (w.handle base sink now message) := by
    refine ⟨⟨done ++ [message], rfl, ?_, ?_, ?_⟩, ?_⟩
    · rw [handle_alive, halive, hstill, Bool.true_and]
    · rw [handle_delivered, htaken, hdelivered, readings_append, List.append_assoc]
    · rw [handle_messages, htaken, hcount, List.length_append]
      rfl
    · intro hended
      rw [handle_alive, halive, Bool.true_and, Bool.not_eq_false'] at hended
      rw [handle_queue, if_pos hended]
  -- A panic empties the queue, and what was in it counts as given to a worker that has ended.
  cases hpanics : panicsAt base sink w.delivered message with
  | false => simpa [handle_queue, hpanics] using hfed
  | true =>
    have hended : (w.handle base sink now message).alive = false := by
      simp [handle_alive, hpanics]
    simpa [handle_queue, hpanics] using hfed.ignore hended w.queue

theorem work (h : Fed base sink past count messages w) (now : Timestamp) :
    Fed base sink past count messages (w.work base sink now) := by
  unfold Worker.work
  split
  · exact h
  · next message rest hqueue =>
    obtain ⟨done, hmessages, halive, hdelivered, hcount⟩ := h.split
    have hlive : w.alive = true := by
      refine Bool.not_eq_false _ ▸ fun hended => ?_
      simp [h.idle hended] at hqueue
    have hcalm := halive.symm.trans hlive
    rw [takenUp_of_calm hcalm] at hdelivered hcount
    rw [hmessages, hqueue]
    exact handle (w := { w with queue := rest }) hlive hcalm hdelivered hcount now message

theorem handleAll (h : Fed base sink past count messages w) (hqueue : w.queue = [])
    (now : Timestamp) (more : List Received) :
    Fed base sink past count (messages ++ more) (w.handleAll base sink now more) ∧
      (w.handleAll base sink now more).queue = [] := by
  induction more generalizing messages w with
  | nil => exact ⟨by simpa [Worker.handleAll] using h, hqueue⟩
  | cons message rest ih =>
    rw [Worker.handleAll]
    split
    · next hlive =>
      obtain ⟨done, hmessages, halive, hdelivered, hcount⟩ := h.split
      have hcalm := halive.symm.trans hlive
      rw [takenUp_of_calm hcalm] at hdelivered hcount
      rw [hqueue, List.append_nil] at hmessages
      have hnext := handle hlive hcalm hdelivered hcount now message
      rw [hqueue, ← hmessages] at hnext
      have hempty : (w.handle base sink now message).queue = [] := by
        rw [handle_queue, hqueue, ite_self]
      have hrest := ih hnext hempty
      rwa [List.append_assoc, List.singleton_append] at hrest
    · next hended => exact ⟨h.ignore (Bool.eq_false_iff.mpr hended) _, hqueue⟩

/-- A worker that has nothing more to do has handed over what it took up, in order. -/
theorem of_queue_eq_nil (h : Fed base sink past count messages w) (hqueue : w.queue = []) :
    w.delivered = past ++ readings base (takenUp base sink past messages) ∧
      w.tally.messages = count + (takenUp base sink past messages).length ∧
      w.alive = calm base sink past messages := by
  obtain ⟨done, hmessages, halive, hdelivered, hcount⟩ := h.split
  rw [hqueue, List.append_nil] at hmessages
  rw [hmessages]
  exact ⟨hdelivered, hcount, halive⟩

/-- However far the worker has got, once its queue is worked off it is as if it had been given all
messages at once. -/
theorem drain (h : Fed base sink past count messages w) (now : Timestamp) :
    (w.drain base sink now).delivered =
        past ++ readings base (takenUp base sink past messages) ∧
      (w.drain base sink now).tally.messages =
        count + (takenUp base sink past messages).length ∧
      (w.drain base sink now).alive = calm base sink past messages := by
  obtain ⟨done, hmessages, hdone⟩ := h.split
  have hcleared : Fed base sink past count done { w with queue := [] } :=
    ⟨⟨done, (List.append_nil done).symm, hdone⟩, fun _ => rfl⟩
  obtain ⟨hfed, hqueue⟩ := hcleared.handleAll rfl now w.queue
  rw [← hmessages] at hfed
  exact hfed.of_queue_eq_nil hqueue

end Fed
end Worker
end EventBus.Subscriber
