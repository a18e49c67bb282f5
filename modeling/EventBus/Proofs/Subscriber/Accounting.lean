import EventBus.Proofs.Subscriber.Worker

namespace EventBus.Subscriber

/-- Whether nothing can be made of the message. -/
def Received.unreadable (message : Received) : Bool := !(Payload.decode message.payload).isOk

namespace Worker

variable {base : String} {sink : Sink}

/-- How many of its answers are of this kind, when the sink is handed these after what is past. -/
def answers (sink : Sink) (kind : Outcome → Bool) (past : List Delivery) : List Delivery → Nat
  | [] => 0
  | delivery :: rest =>
    (if kind (sink past delivery) then 1 else 0) + answers sink kind (past ++ [delivery]) rest

def refusals (sink : Sink) (past deliveries : List Delivery) : Nat :=
  answers sink (· = .failed) past deliveries

theorem answers_append (kind : Outcome → Bool) (past front back : List Delivery) :
    answers sink kind past (front ++ back) =
      answers sink kind past front + answers sink kind (past ++ front) back := by
  induction front generalizing past with
  | nil => simp [answers]
  | cons delivery rest ih =>
    rw [List.cons_append, answers, answers, ih, List.append_assoc, Nat.add_assoc]
    rfl

theorem answers_singleton (kind : Outcome → Bool) (past : List Delivery) (delivery : Delivery) :
    answers sink kind past [delivery] = if kind (sink past delivery) then 1 else 0 :=
  Nat.add_zero _

theorem refusals_append (past front back : List Delivery) :
    refusals sink past (front ++ back) =
      refusals sink past front + refusals sink (past ++ front) back :=
  answers_append _ past front back

theorem length_readings (base : String) (messages : List Received) :
    (readings base messages).length + messages.countP (·.unreadable) = messages.length := by
  induction messages with
  | nil => rfl
  | cons message rest ih =>
    rw [readings_cons, List.length_append, List.countP_cons, List.length_cons]
    have hone : (readings base [message]).length + (if message.unreadable then 1 else 0) = 1 := by
      cases hdecode : Payload.decode message.payload <;>
        simp [readings, Received.reading, Received.unreadable, hdecode, Except.isOk,
          Except.toBool]
    omega

/-- By how much the errors and the deliveries are ahead of the messages and the refusals. -/
def surplus (sink : Sink) (w : Worker) : Int :=
  (w.tally.errors + w.delivered.length : Nat) -
    (w.tally.messages + refusals sink [] w.delivered : Nat)

theorem surplus_handle (now : Timestamp) (w : Worker) (message : Received) :
    (w.handle base sink now message).surplus sink = w.surplus sink := by
  rw [handle_eq]
  cases hreading : message.reading base with
  | none =>
    simp only [surplus, refused, readings, hreading, Option.elim_none, if_true,
      List.filterMap_cons_none, List.filterMap_nil, List.append_nil, Tally.countError,
      Tally.countMessage]
    omega
  | some delivery =>
    have hreadings : readings base [message] = [delivery] := by simp [readings, hreading]
    have hrefused : refused base sink w.delivered message =
        decide (sink w.delivered delivery = .failed) := by
      simp [refused, hreading]
    have hrefusals : refusals sink w.delivered [delivery] =
        if decide (sink w.delivered delivery = .failed) then 1 else 0 :=
      answers_singleton _ w.delivered delivery
    simp only [surplus, hreadings, hrefused, refusals_append, List.nil_append, hrefusals,
      List.length_append, List.length_singleton]
    split <;> simp only [Tally.countError, Tally.countMessage] <;> omega

theorem surplus_accept (w : Worker) (message : Received) :
    (w.accept message).surplus sink = w.surplus sink := by
  unfold accept
  split <;> rfl

theorem surplus_work (now : Timestamp) (w : Worker) :
    (w.work base sink now).surplus sink = w.surplus sink := by
  unfold work
  split
  · rfl
  · next message rest hqueue => exact surplus_handle now { w with queue := rest } message

theorem surplus_handleAll (now : Timestamp) (w : Worker) (messages : List Received) :
    (w.handleAll base sink now messages).surplus sink = w.surplus sink := by
  induction messages generalizing w with
  | nil => rfl
  | cons message rest ih =>
    rw [handleAll]
    split
    · rw [ih, surplus_handle]
    · rfl

theorem surplus_drain (now : Timestamp) (w : Worker) :
    (w.drain base sink now).surplus sink = w.surplus sink :=
  surplus_handleAll now { w with queue := [] } w.queue

/-- What was taken up since, and what was handed over of it, says how many errors there were. -/
theorem errors_of_surplus {w after : Worker} {taken : List Received}
    (hsurplus : after.surplus sink = w.surplus sink)
    (hdelivered : after.delivered = w.delivered ++ readings base taken)
    (hmessages : after.tally.messages = w.tally.messages + taken.length) :
    after.tally.errors = w.tally.errors + taken.countP (·.unreadable) +
      refusals sink w.delivered (readings base taken) := by
  have hlength := length_readings base taken
  have hdeliveries := congrArg List.length hdelivered
  have hrefusals := congrArg (refusals sink []) hdelivered
  rw [List.length_append] at hdeliveries
  rw [refusals_append, List.nil_append] at hrefusals
  simp only [surplus] at hsurplus
  omega

/-- What happens to a worker: it is given a message, or takes up the one that waits longest. -/
inductive Step where
  | given (message : Received)
  | worked (now : Timestamp)

def Step.apply (base : String) (sink : Sink) (w : Worker) : Step → Worker
  | .given message => w.accept message
  | .worked now => w.work base sink now

def Step.message? : Step → Option Received
  | .given message => some message
  | .worked _ => none

def run (base : String) (sink : Sink) (w : Worker) (steps : List Step) : Worker :=
  steps.foldl (fun w step => step.apply base sink w) w

def given (steps : List Step) : List Received := steps.filterMap Step.message?

theorem Fed.run {past : List Delivery} {count : Nat} {messages : List Received} {w : Worker}
    (h : Fed base sink past count messages w) (steps : List Step) :
    Fed base sink past count (messages ++ given steps) (w.run base sink steps) := by
  induction steps generalizing messages w with
  | nil => simpa [given, Worker.run] using h
  | cons step rest ih =>
    cases step with
    | given message =>
      have hrest := ih (h.accept message)
      rwa [List.append_assoc] at hrest
    | worked now => exact ih (h.work now)

end Worker
end EventBus.Subscriber
