import EventBus.Proofs.Publisher.Queue

namespace EventBus.Publisher

/-- What the driver and the network do to a session. -/
inductive Move where
  | polled (traffic : Traffic)
  | failed (reason : String)
  /-- The driver has waited, and makes a new link if it can. -/
  | rebuilt (result : Except Connection.Error Connection.Options)
  | written

def Move.apply (s : Session) : Move → Session
  | .polled traffic => s.observe traffic
  | .failed reason => s.fail reason false
  | .rebuilt result => s.resume result
  | .written => s.write?.elim s (·.2)

def Move.replaces (s : Session) : Move → Bool
  | .rebuilt (.ok _) =>
    match s.phase with
    | .waiting _ => true
    | .polling | .ended => false
  | .rebuilt (.error _) | .polled _ | .failed _ | .written => false

def Session.moved (s : Session) (moves : List Move) : Session := moves.foldl Move.apply s

/-- The link of a session outlasts these moves. -/
def Session.keepsLink (s : Session) : List Move → Bool
  | [] => s.phase ≠ .ended
  | move :: moves => !move.replaces s && (move.apply s).keepsLink moves

def moved (p : Publisher) (moves : List Move) : Publisher :=
  { p with session := p.session.map (·.moved moves) }

def queue (p : Publisher) : List Request := p.session.elim [] (·.link.queue)

/-- Publish with moves after the check of the connection, and more while the call waits for room. -/
def publishAmid (now : Timestamp) (id : String) (p : Publisher) (checked waiting : List Move)
    (message : Message) : Publisher × PublishResult :=
  let later := p.moved (checked ++ waiting)
  match p.session with
  | none => later.refuse .notConnected
  | some session =>
    if !session.connected then later.refuse .notConnected
    else
      let taken := session.moved checked
      later.put id (taken.moved waiting) (taken.keepsLink waiting) (p.request message now)

/-- Publish what there is to publish, if there is anything. -/
def post (now : Timestamp) (id : String) (p : Publisher) (checked waiting : List Move) :
    Except Refusal Message → Publisher × PublishResult
  | .ok message => p.publishAmid now id checked waiting message
  | .error refusal => (p.moved (checked ++ waiting)).refuse refusal

structure Entry where
  now : Timestamp
  content : Except Refusal Message
  result : PublishResult
  /-- What the driver and the network leave in the queue. -/
  found : List Request
  /-- What is in it when the call returns. -/
  left : List Request

def Entry.unconnected (e : Entry) : Bool := e.result.error = some Refusal.notConnected.message

/-- The call failed, and not for want of a connection. -/
def Entry.failed (e : Entry) : Bool := !e.result.success && !e.unconnected

def Entry.Unserialized (e : Entry) : Prop :=
  ∃ text, e.result.error = some ("Failed to serialize payload: " ++ text)

/-- A publisher and all that its callers were told. -/
structure Ledger where
  publisher : Publisher
  entries : List Entry := []

namespace Ledger

/-- One call, or something that happens between two of them. Driver and network go on inside a call,
too: after it has checked the connection, and while it waits for room in the queue. -/
inductive Op where
  | connect (network : Connection.Network) (files : Connection.FileReader)
    (provider : Option Connection.TokenProvider)
  | disconnect
  | publish (now : Timestamp) (id : String) (checked waiting : List Move) (message : Message)
  | publishSerialized (now : Timestamp) (id : String) (checked waiting : List Move)
    (topic : String) (value : Except String Json) (qos : Qos) (retain : Bool)
  | between (move : Move)

def post (l : Ledger) (now : Timestamp) (id : String) (checked waiting : List Move)
    (content : Except Refusal Message) : Ledger :=
  let (publisher, result) := l.publisher.post now id checked waiting content
  let found := (l.publisher.moved (checked ++ waiting)).queue
  { publisher, entries := l.entries ++ [{ now, content, result, found, left := publisher.queue }] }

def Op.apply (l : Ledger) : Op → Ledger
  | .connect network files provider =>
    { l with publisher := (l.publisher.connect network files provider).2.1 }
  | .disconnect => { l with publisher := l.publisher.disconnect }
  | .publish now id checked waiting message => l.post now id checked waiting (.ok message)
  | .publishSerialized now id checked waiting topic value qos retain =>
    l.post now id checked waiting
      ((payloadOf value).map fun payload => { topic, payload, qos, retain })
  | .between move => { l with publisher := l.publisher.moved [move] }

def run (l : Ledger) (ops : List Op) : Ledger := ops.foldl Op.apply l

end Ledger

variable {p : Publisher} {settings : BrokerSettings} {now : Timestamp} {id : String}
  {content : Except Refusal Message}

/-- What may come of a call: how the publisher stands then, and what the caller is told. -/
inductive Answer (p : Publisher) (now : Timestamp) (content : Except Refusal Message) :
    Publisher × PublishResult → Prop where
  | unconnected : Answer p now content (p, .failed Refusal.notConnected.message)
  | refused (refusal : Refusal) (h : refusal ≠ .notConnected) :
    Answer p now content ({ p with errors := p.errors + 1 }, .failed refusal.message)
  | accepted (message : Message) (session : Session) (id : String)
    (hcontent : content = .ok message) (hsession : p.session = some session) : Answer p now content
      ({ p with
        session := some { session with link := session.link.enqueue (p.request message now) }
        published := p.published + 1 }, .ok id)

theorem answer_refuse (refusal : Refusal) : Answer p now content (p.refuse refusal) := by
  cases refusal with
  | notConnected => exact .unconnected
  | wildcardTopic | linkGone | noRoom | serializerFailed | notSerializable =>
    exact .refused _ nofun

theorem answer_put {session : Session} (hsession : p.session = some session) (live : Bool)
    (message : Message) :
    Answer p now (.ok message) (p.put id session live (p.request message now)) := by
  unfold put
  split
  · split
    · exact answer_refuse _
    · next link hsubmit =>
      rw [Flow.submit_eq_ok hsubmit]
      exact .accepted message session id rfl hsession
  · exact answer_refuse _

theorem answer_post (p : Publisher) (now : Timestamp) (id : String) (checked waiting : List Move)
    (content : Except Refusal Message) :
    Answer (p.moved (checked ++ waiting)) now content (p.post now id checked waiting content) := by
  cases content with
  | error refusal => exact answer_refuse refusal
  | ok message =>
    simp only [post, publishAmid]
    split
    · exact answer_refuse _
    · next session hsession =>
      split
      · exact answer_refuse _
      · have hlater : (p.moved (checked ++ waiting)).session =
            some ((session.moved checked).moved waiting) := by
          simp [moved, hsession, Session.moved]
        exact answer_put hlater _ message

theorem head?_append {front back : String} {first : Char} (h : front.toList.head? = some first) :
    (front ++ back).toList.head? = some first := by
  rw [String.toList_append, List.head?_append, h, Option.some_or]

theorem Refusal.message_ne {refusal : Refusal} (h : refusal ≠ .notConnected) :
    refusal.message ≠ Refusal.notConnected.message := by
  intro heq
  have hfirst : refusal.message.toList.head? = some 'N' := by
    rw [heq]
    decide
  have hother : ∃ first, refusal.message.toList.head? = some first ∧ first ≠ 'N' := by
    cases refusal with
    | notConnected => exact absurd rfl h
    | wildcardTopic | linkGone => exact ⟨'P', by decide, by decide⟩
    | noRoom => exact ⟨'P', head?_append (head?_append (by decide)), by decide⟩
    | serializerFailed | notSerializable =>
      exact ⟨'F', head?_append (by decide), by decide⟩
  obtain ⟨first, hsome, hne⟩ := hother
  exact hne (Option.some.inj (hsome.symm.trans hfirst))

/-- An entry of a publisher with these settings. -/
structure Entry.Sound (settings : BrokerSettings) (e : Entry) : Prop where
  accepted : e.result.success = true → ∃ message, e.content = .ok message ∧
    e.left = e.found ++ [({ settings } : Publisher).request message e.now]
  refused : e.result.success = false → e.left = e.found
  told : e.result.success = true → e.result.error = none

theorem Entry.sound_of_failed {e : Entry} {text : String} (h : e.result = .failed text)
    (hleft : e.left = e.found) : e.Sound settings := by
  have hfailed : ¬e.result.success = true := by simp [h, PublishResult.failed]
  exact ⟨fun hsuccess => absurd hsuccess hfailed, fun _ => hleft,
    fun hsuccess => absurd hsuccess hfailed⟩

namespace Ledger

structure Balanced (settings : BrokerSettings) (l : Ledger) : Prop where
  same : l.publisher.settings = settings
  published : l.publisher.published = l.entries.countP (·.result.success)
  errors : l.publisher.errors = l.entries.countP (·.failed)
  sound : ∀ e ∈ l.entries, e.Sound settings

variable {l : Ledger}

theorem Balanced.of_same (h : Balanced settings l) {p : Publisher}
    (hsettings : p.settings = l.publisher.settings)
    (hpublished : p.published = l.publisher.published) (herrors : p.errors = l.publisher.errors) :
    Balanced settings { l with publisher := p } :=
  ⟨hsettings.trans h.same, hpublished.trans h.published, herrors.trans h.errors, h.sound⟩

theorem Balanced.record (h : Balanced settings l) {p : Publisher} {e : Entry}
    (hsettings : p.settings = l.publisher.settings)
    (hpublished : p.published = l.publisher.published + if e.result.success then 1 else 0)
    (herrors : p.errors = l.publisher.errors + if e.failed then 1 else 0)
    (he : e.Sound settings) : Balanced settings ⟨p, l.entries ++ [e]⟩ := by
  refine ⟨hsettings.trans h.same, ?_, ?_, fun other hmem => ?_⟩
  · rw [hpublished, h.published, List.countP_append, List.countP_singleton]
  · rw [herrors, h.errors, List.countP_append, List.countP_singleton]
  · rcases List.mem_append.mp hmem with hmem | hmem
    · exact h.sound other hmem
    · rwa [List.mem_singleton.mp hmem]

theorem Balanced.connect (h : Balanced settings l) (network : Connection.Network)
    (files : Connection.FileReader) (provider : Option Connection.TokenProvider) :
    Balanced settings { l with publisher := (l.publisher.connect network files provider).2.1 } := by
  unfold Publisher.connect
  dsimp only
  split
  · exact h
  · split
    · exact h.of_same rfl rfl rfl
    · split <;> exact h.of_same rfl rfl rfl

theorem Balanced.post (h : Balanced settings l) (now : Timestamp) (id : String)
    (checked waiting : List Move) (content : Except Refusal Message) :
    Balanced settings (l.post now id checked waiting content) := by
  have hanswer := answer_post l.publisher now id checked waiting content
  simp only [Ledger.post]
  generalize l.publisher.post now id checked waiting content = answer at hanswer ⊢
  cases hanswer with
  | unconnected =>
    have hcounts : ∀ found left, (Entry.mk now content (.failed Refusal.notConnected.message) found
        left).failed = false := by
      simp [Entry.failed, Entry.unconnected, PublishResult.failed]
    refine h.record rfl rfl ?_ (Entry.sound_of_failed rfl rfl)
    rw [hcounts]
    rfl
  | refused refusal hother =>
    have hcounts : ∀ found left, (Entry.mk now content (.failed refusal.message) found
        left).failed = true := by
      simp [Entry.failed, Entry.unconnected, PublishResult.failed, Refusal.message_ne hother]
    refine h.record rfl rfl ?_ (Entry.sound_of_failed rfl rfl)
    rw [hcounts]
    rfl
  | accepted message session id hcontent hsession =>
    have hsuccess : ¬(PublishResult.ok id).success = false := by simp [PublishResult.ok]
    refine h.record rfl rfl rfl ⟨fun _ => ⟨message, hcontent, ?_⟩,
      fun hfailed => absurd hfailed hsuccess, fun _ => rfl⟩
    have hrequest : (l.publisher.moved (checked ++ waiting)).request message now =
        ({ settings } : Publisher).request message now := by
      rw [← h.same]
      rfl
    simp [queue, hsession, Link.enqueue, hrequest]

theorem Balanced.apply (h : Balanced settings l) (op : Op) : Balanced settings (op.apply l) := by
  cases op with
  | connect network files provider => exact h.connect network files provider
  | disconnect => exact h.of_same rfl rfl rfl
  | publish now id checked waiting message => exact h.post now id checked waiting (.ok message)
  | publishSerialized now id checked waiting topic value qos retain =>
    exact h.post now id checked waiting _
  | between move => exact h.of_same rfl rfl rfl

theorem Balanced.run (h : Balanced settings l) (ops : List Op) : Balanced settings (l.run ops) := by
  induction ops generalizing l with
  | nil => exact h
  | cons op ops ih => exact ih (h.apply op)

/-- Whatever callers, driver and network do: a publisher counts the calls that it reports as
published, and the failures that are not for want of a connection. Each call that it reports as
published has put one request at the end of the queue. One that finds no connection, or has no
message to publish, has put none. To connect again changes nothing, nor does it to disconnect
without a session. -/
theorem balanced_run (settings : BrokerSettings) (ops : List Op) :
    let l := run ⟨{ settings }, []⟩ ops
    l.publisher.published = l.entries.countP (·.result.success) ∧
    l.publisher.errors = l.entries.countP (fun e =>
      !e.result.success && e.result.error ≠ some Refusal.notConnected.message) ∧
    (∀ e ∈ l.entries, e.result.success = true → ∃ message request, e.content = .ok message ∧
      e.left = e.found ++ [request] ∧
      request.topic = Topic.addPrefix settings.topicPrefix message.topic ∧
      request.payload = Payload.encode message e.now ∧
      request.qos = message.qos ∧ request.retain = message.retain) ∧
    (∀ e ∈ l.entries, e.result.error = some Refusal.notConnected.message ∨ e.Unserialized →
      e.left = e.found) ∧
    (l.publisher.isConnected = true → ∀ network files provider,
      l.publisher.connect network files provider = (provider, l.publisher, .ok ())) ∧
    (l.publisher.session = none → l.publisher.disconnect = l.publisher) := by
  intro l
  have hempty : Balanced settings ⟨{ settings }, []⟩ := ⟨rfl, rfl, rfl, by simp⟩
  have h : Balanced settings l := hempty.run ops
  refine ⟨h.published, ?_, fun e he hsuccess => ?_, fun e he htold => ?_,
    fun hconnected network files provider => if_pos hconnected, fun hnone => ?_⟩
  · simpa [Entry.failed, Entry.unconnected] using h.errors
  · obtain ⟨message, hcontent, hleft⟩ := (h.sound e he).accepted hsuccess
    exact ⟨message, _, hcontent, hleft, rfl, rfl, rfl, rfl⟩
  · refine (h.sound e he).refused (Bool.eq_false_iff.mpr fun hsuccess => ?_)
    have hnone := (h.sound e he).told hsuccess
    rcases htold with htold | ⟨text, htold⟩ <;> rw [hnone] at htold <;> cases htold
  · rw [disconnect, ← hnone]

end Ledger

theorem moved_nil (p : Publisher) : p.moved [] = p := by
  obtain ⟨settings, session, published, errors⟩ := p
  cases session <;> rfl

theorem publish_eq_publishAmid (now : Timestamp) (id : String) (p : Publisher) (message : Message) :
    p.publish now id message = p.publishAmid now id [] [] message := by
  simp only [publish, publishAmid, List.append_nil, moved_nil]
  rfl

theorem publishSerialized_eq_post (now : Timestamp) (id : String) (p : Publisher) (topic : String)
    (value : Except String Json) (qos : Qos) (retain : Bool) :
    p.publishSerialized now id topic value qos retain =
      p.post now id [] []
        ((payloadOf value).map fun payload => { topic, payload, qos, retain }) := by
  unfold publishSerialized
  cases payloadOf value with
  | error refusal =>
    simp only [Except.map, post, List.append_nil, moved_nil]
  | ok payload => exact publish_eq_publishAmid ..

end EventBus.Publisher
