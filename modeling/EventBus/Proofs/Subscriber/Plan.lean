import EventBus.Proofs.Subscriber.Reconnect
import EventBus.Proofs.Topic.Plan
import EventBus.Proofs.Utf8

namespace EventBus.Subscriber

/-- A call that changes the topics, or a move of the listener between two calls. -/
inductive Turn where
  | call (change : Change)
  | listen (move : Move)

def Turn.apply (s : Subscriber) : Turn → Subscriber
  | .call (.add more) => s.addTopics more
  | .call (.remove gone) => s.removeTopics gone
  | .listen move => move.apply s

def takeTurns (s : Subscriber) (turns : List Turn) : Subscriber := turns.foldl Turn.apply s

theorem changeTopics_settings (s : Subscriber) (topics : List String) :
    (s.changeTopics topics).settings = s.settings := by
  unfold changeTopics noteChange
  split <;> rfl

theorem settings_apply (s : Subscriber) (turn : Turn) : (turn.apply s).settings = s.settings := by
  cases turn with
  | call change =>
    cases change with
    | add more => exact changeTopics_settings s _
    | remove gone => exact changeTopics_settings s _
  | listen move => exact (moved_apply s move).settings

theorem settings_takeTurns (s : Subscriber) (turns : List Turn) :
    (s.takeTurns turns).settings = s.settings := by
  induction turns generalizing s with
  | nil => rfl
  | cons turn rest ih => exact (ih (turn.apply s)).trans (settings_apply s turn)

theorem plan_takeTurns {s other : Subscriber} {turns others : List Turn}
    (hbase : s.settings.topicPrefix = other.settings.topicPrefix)
    (h : ∀ topic, topic ∈ (s.takeTurns turns).topics ↔ topic ∈ (other.takeTurns others).topics) :
    (s.takeTurns turns).plan = (other.takeTurns others).plan := by
  rw [plan, plan, settings_takeTurns, settings_takeTurns, hbase]
  exact Topic.plan_eq_of_mem_iff _ h

theorem bytes_ascending_plan (base : String) (topics : List String) :
    (Topic.plan base topics).Pairwise fun a b => Utf8.encode a.toList < Utf8.encode b.toList := by
  refine (Topic.ascending_plan base topics).imp ?_
  intro a b hlt
  have hchars : a.toList < b.toList := hlt
  exact Utf8.encode_lt_encode hchars

/-- A plan has the topics under the base, each filter once and in the order of the bytes. So it is
the same for the same topics, under a base also for topics that differ in leading slashes only, and
at the end of all turns that leave the same topics. -/
theorem plan_canonical (base : String) (topics : List String) :
    ((Topic.plan base topics).Pairwise fun a b => Utf8.encode a.toList < Utf8.encode b.toList) ∧
      (∀ filter, filter ∈ Topic.plan base topics ↔
        ∃ topic ∈ topics, Topic.addPrefix base topic = filter) ∧
      (∀ others, (∀ topic, topic ∈ topics ↔ topic ∈ others) →
        Topic.plan base topics = Topic.plan base others) ∧
      (base ≠ "" → ∀ others, Topic.plan base topics = Topic.plan base others ↔
        ∀ name, name ∈ topics.map Topic.bare ↔ name ∈ others.map Topic.bare) ∧
      ∀ (s other : Subscriber) (turns others : List Turn),
        s.settings.topicPrefix = base → other.settings.topicPrefix = base →
        (∀ topic, topic ∈ (s.takeTurns turns).topics ↔ topic ∈ (other.takeTurns others).topics) →
        (s.takeTurns turns).plan = (other.takeTurns others).plan := by
  refine ⟨bytes_ascending_plan base topics, fun filter => Topic.mem_plan,
    fun others hsame => Topic.plan_eq_of_mem_iff base hsame,
    fun hb others => Topic.plan_eq_iff_bare hb, ?_⟩
  intro s other turns others hs hother hsame
  exact plan_takeTurns (hs.trans hother.symm) hsame

/-- A topic is taken off and put back behind the others. -/
theorem plan_canonical_again :
    let s : Subscriber :=
      { settings := { BrokerSettings.standard "a" with topicPrefix := "site/" } }
    let turns : List Turn := [.call (.add ["/a", "b"]), .listen .resume,
      .call (.remove ["/a", "c"]), .call (.add ["b", "/a"])]
    let others : List Turn := [.call (.add ["/a", "b"])]
    ((∀ topic, topic ∈ ["b", "/a", "/a"] ↔ topic ∈ ["/a", "b"]) ∧
        Topic.plan "site/" ["b", "/a", "/a"] = Topic.plan "site/" ["/a", "b"]) ∧
      ("site/" ≠ "" ∧ (Topic.plan "site/" ["b", "/a", "/a"] = Topic.plan "site/" ["a", "//b"] ↔
        ∀ name, name ∈ ["b", "/a", "/a"].map Topic.bare ↔ name ∈ ["a", "//b"].map Topic.bare)) ∧
      s.settings.topicPrefix = "site/" ∧
        (∀ topic, topic ∈ (s.takeTurns turns).topics ↔ topic ∈ (s.takeTurns others).topics) ∧
        (s.takeTurns turns).plan = (s.takeTurns others).plan := by
  intro s turns others
  obtain ⟨-, -, hlists, hslashes, hturns⟩ := plan_canonical "site/" ["b", "/a", "/a"]
  have hsame : ∀ topic, topic ∈ ["b", "/a", "/a"] ↔ topic ∈ ["/a", "b"] := by
    intro topic
    simp [or_comm]
  have hb : "site/" ≠ "" := by decide
  have hbase : s.settings.topicPrefix = "site/" := rfl
  have hleft : (s.takeTurns turns).topics = ["b", "/a"] := by rfl
  have hright : (s.takeTurns others).topics = ["/a", "b"] := by rfl
  have hwatched : ∀ topic,
      topic ∈ (s.takeTurns turns).topics ↔ topic ∈ (s.takeTurns others).topics := by
    intro topic
    rw [hleft, hright]
    simp [or_comm]
  exact ⟨⟨hsame, hlists _ hsame⟩, ⟨hb, hslashes hb _⟩, hbase, hwatched,
    hturns s s turns others hbase hbase hwatched⟩

end EventBus.Subscriber
