import EventBus.Proofs.Subscription.History
import EventBus.Proofs.Topic.Base

namespace EventBus

/-- Whether a subscription asked the broker for what is sent on a topic. -/
def Subscription.Asks (base : String) (s : Subscription η) (wire : String) : Prop :=
  ∃ filter ∈ s.topics, Topic.matchesFilter wire (Topic.addPrefix base filter) = true

namespace Registry

variable {η : Type u} {r : Registry η}

/-- The filters of those who can be selected do not begin with a slash. -/
def Unslashed (r : Registry η) : Prop :=
  ∀ s ∈ r.enabled, ∀ filter ∈ s.topics, filter.toList.head? ≠ some '/'

theorem exists_asks_of_plan {base wire : String}
    (h : ∃ filter ∈ Topic.plan base r.topics, Topic.matchesFilter wire filter = true) :
    ∃ s ∈ r.enabled, s.Asks base wire := by
  obtain ⟨filter, hplan, hm⟩ := h
  obtain ⟨topic, htopic, rfl⟩ := Topic.mem_plan.mp hplan
  obtain ⟨s, hs, hf⟩ := mem_topics.mp htopic
  exact ⟨s, hs, topic, hf, hm⟩

theorem mem_matching_below {base wire : String} {below : List Char} (hb : base ≠ "")
    (hhash : '#' ∉ base.toList) (hslash : r.Unslashed)
    (hw : wire.toList = Topic.trimEndSlashes base.toList ++ '/' :: below) (s : Subscription η) :
    s ∈ r.matching (Topic.stripPrefix base wire) ↔ s ∈ r.enabled ∧ s.Asks base wire := by
  rw [mem_matching, Topic.stripPrefix_below hb hw]
  refine and_congr_right fun hs => exists_congr fun filter => and_congr_right fun hf => ?_
  rw [Topic.matchesFilter_below hb hhash (hslash s hs filter hf) hw]

theorem mem_matching_of_asks_root {base : String} (hb : base ≠ "") (hhash : '#' ∉ base.toList)
    (hslash : r.Unslashed) {s : Subscription η} (hs : s ∈ r.enabled)
    (hasks : s.Asks base (Topic.root base)) (topic : String) : s ∈ r.matching topic := by
  obtain ⟨filter, hf, hm⟩ := hasks
  refine mem_matching.mpr ⟨hs, filter, hf, ?_⟩
  exact Topic.matchesFilter_of_root hb hhash (hslash s hs filter hf) hm topic

/-- A message that the broker had reason to send reaches everyone who asked for it. It reaches
nobody else, unless it was sent on the base itself: then it reaches whoever has a filter for the
base as a topic of its own. -/
theorem reached_iff_asks {base wire : String} (hb : base ≠ "") (hplus : '+' ∉ base.toList)
    (hhash : '#' ∉ base.toList) (hslash : r.Unslashed)
    (hwire : ∃ filter ∈ Topic.plan base r.topics, Topic.matchesFilter wire filter = true)
    (s : Subscription η) :
    (s ∈ r.enabled → s.Asks base wire → s ∈ r.matching (Topic.stripPrefix base wire)) ∧
      (wire ≠ Topic.root base →
        (s ∈ r.matching (Topic.stripPrefix base wire) ↔ s ∈ r.enabled ∧ s.Asks base wire)) ∧
      (wire = Topic.root base →
        (s ∈ r.matching (Topic.stripPrefix base wire) ↔
          s ∈ r.enabled ∧
            ∃ filter ∈ s.topics, Topic.matchesFilter (Topic.root base) filter = true)) := by
  obtain ⟨sender, -, filter, -, hm⟩ := exists_asks_of_plan hwire
  rcases Topic.eq_root_or_below hb hplus hhash hm with rfl | ⟨below, hw⟩
  · rw [Topic.stripPrefix_root hb]
    refine ⟨fun hs hasks => ?_, fun hne => absurd rfl hne, fun _ => mem_matching⟩
    exact mem_matching_of_asks_root hb hhash hslash hs hasks (Topic.root base)
  · have hbelow := mem_matching_below hb hhash hslash hw s
    refine ⟨fun hs hasks => hbelow.mpr ⟨hs, hasks⟩, fun _ => hbelow, fun hroot => ?_⟩
    -- What lies below the base is longer than the base.
    have hlength := congrArg (fun text => text.toList.length) hroot
    simp [hw, Topic.root] at hlength

/-- A subscription to everything, and one to a topic. -/
def everythingAnd (topic : String) : Registry Unit :=
  run [.register { id := "a", topics := ["#"], handler := () },
    .register { id := "b", topics := [topic], handler := () }]

def second : Subscription Unit := { id := "b", topics := ["p"], handler := () }

theorem enabled_everythingAnd :
    (everythingAnd "p").enabled = [{ id := "a", topics := ["#"], handler := () }, second] := by
  rfl

theorem unslashed_everythingAnd : (everythingAnd "p").Unslashed := by
  unfold Unslashed
  rw [enabled_everythingAnd]
  simp [second]

theorem reached_iff_asks_at_site :
    let r := everythingAnd "p"
    "site//" ≠ "" ∧ '+' ∉ "site//".toList ∧ '#' ∉ "site//".toList ∧ r.Unslashed ∧
      (∃ filter ∈ Topic.plan "site//" r.topics, Topic.matchesFilter "site/p" filter = true) ∧
      (second ∈ r.enabled → second.Asks "site//" "site/p" →
        second ∈ r.matching (Topic.stripPrefix "site//" "site/p")) ∧
      ("site/p" ≠ Topic.root "site//" →
        (second ∈ r.matching (Topic.stripPrefix "site//" "site/p") ↔
          second ∈ r.enabled ∧ second.Asks "site//" "site/p")) ∧
      ("site/p" = Topic.root "site//" →
        (second ∈ r.matching (Topic.stripPrefix "site//" "site/p") ↔
          second ∈ r.enabled ∧
            ∃ filter ∈ second.topics, Topic.matchesFilter (Topic.root "site//") filter = true)) := by
  intro r
  have hb : "site//" ≠ "" := by decide
  have hplus : '+' ∉ "site//".toList := by decide
  have hhash : '#' ∉ "site//".toList := by decide
  have hwire : ∃ filter ∈ Topic.plan "site//" r.topics,
      Topic.matchesFilter "site/p" filter = true := by decide
  exact ⟨hb, hplus, hhash, unslashed_everythingAnd, hwire,
    reached_iff_asks hb hplus hhash unslashed_everythingAnd hwire second⟩

/-- What is sent on the base `p` itself reaches a subscription that only asked for `p/p`. -/
theorem root_reaches_unasked :
    let r := everythingAnd "p"
    '+' ∉ "p".toList ∧ '#' ∉ "p".toList ∧ r.Unslashed ∧
      (∃ filter ∈ Topic.plan "p" r.topics, Topic.matchesFilter "p" filter = true) ∧
      second ∈ r.enabled ∧
      ¬(second ∈ r.matching (Topic.stripPrefix "p" "p") ↔
        ∃ filter ∈ second.topics,
          Topic.matchesFilter "p" (Topic.addPrefix "p" filter) = true) := by
  intro r
  have henabled : second ∈ r.enabled := by
    rw [enabled_everythingAnd]
    simp
  have hreached : second ∈ r.matching (Topic.stripPrefix "p" "p") :=
    mem_matching.mpr ⟨henabled, "p", by decide, by decide⟩
  have hunasked : ¬∃ filter ∈ second.topics,
      Topic.matchesFilter "p" (Topic.addPrefix "p" filter) = true := by decide
  exact ⟨by decide, by decide, unslashed_everythingAnd, by decide, henabled,
    fun h => hunasked (h.mp hreached)⟩

end Registry
end EventBus
