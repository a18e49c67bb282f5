import EventBus.Proofs.Topic.Base
import EventBus.Proofs.Topic.Grammar
import EventBus.Proofs.Topic.Slashes
import Mathlib.Data.List.Sort

namespace EventBus.Topic

theorem ascending_plan (base : String) (topics : List String) :
    (plan base topics).Pairwise (· < ·) :=
  Entries.ascending_keys_ofList _

theorem plan_eq_iff_subset {base : String} {topics others : List String} :
    plan base topics = plan base others ↔
      plan base topics ⊆ plan base others ∧ plan base others ⊆ plan base topics := by
  constructor
  · intro h
    rw [h]
    exact ⟨List.Subset.refl _, List.Subset.refl _⟩
  · rintro ⟨hthere, hback⟩
    exact List.Subset.antisymm_of_pairwise (ascending_plan base topics) (ascending_plan base others)
      hthere hback

theorem plan_subset_of_subset (base : String) {topics others : List String}
    (h : topics ⊆ others) : plan base topics ⊆ plan base others := by
  intro filter hfilter
  obtain ⟨topic, htopic, rfl⟩ := mem_plan.mp hfilter
  exact mem_plan.mpr ⟨topic, h htopic, rfl⟩

theorem plan_eq_of_mem_iff (base : String) {topics others : List String}
    (h : ∀ topic, topic ∈ topics ↔ topic ∈ others) : plan base topics = plan base others :=
  plan_eq_iff_subset.mpr ⟨plan_subset_of_subset base fun topic => (h topic).mp,
    plan_subset_of_subset base fun topic => (h topic).mpr⟩

theorem addPrefix_mem_plan {base topic : String} (hb : base ≠ "") {topics : List String} :
    addPrefix base topic ∈ plan base topics ↔ bare topic ∈ topics.map bare := by
  rw [mem_plan, List.mem_map]
  exact exists_congr fun other => and_congr_right' (addPrefix_eq_iff hb)

theorem plan_subset_iff {base : String} (hb : base ≠ "") {topics others : List String} :
    plan base topics ⊆ plan base others ↔ topics.map bare ⊆ others.map bare := by
  constructor
  · intro h name hname
    obtain ⟨topic, htopic, rfl⟩ := List.mem_map.mp hname
    have hplan : addPrefix base topic ∈ plan base topics := mem_plan.mpr ⟨topic, htopic, rfl⟩
    exact (addPrefix_mem_plan hb).mp (h hplan)
  · intro h filter hfilter
    obtain ⟨topic, htopic, rfl⟩ := mem_plan.mp hfilter
    exact (addPrefix_mem_plan hb).mpr (h (List.mem_map.mpr ⟨topic, htopic, rfl⟩))

/-- Under a base the leading slashes of the topics do not count either, and all else does. -/
theorem plan_eq_iff_bare {base : String} (hb : base ≠ "") {topics others : List String} :
    plan base topics = plan base others ↔
      ∀ name, name ∈ topics.map bare ↔ name ∈ others.map bare := by
  rw [plan_eq_iff_subset, plan_subset_iff hb, plan_subset_iff hb]
  constructor
  · rintro ⟨hthere, hback⟩ name
    exact ⟨fun hm => hthere hm, fun hm => hback hm⟩
  · intro h
    exact ⟨fun name => (h name).mp, fun name => (h name).mpr⟩

theorem segmentFault_eq_none {segment : List Char} {isLast : Bool} :
    segmentFault segment isLast = none ↔ ¬Offends segment isLast := by
  rcases segmentFault_eq segment isLast with ⟨hfine, hnone⟩ | ⟨hoffends, hsome⟩
  · exact iff_of_true hnone hfine
  · exact iff_of_false (by simp [hsome]) (not_not_intro hoffends)

theorem segmentsFault_append {front back : List (List Char)} (h : back ≠ []) :
    segmentsFault (front ++ back) = none ↔
      (∀ segment ∈ front, ¬Offends segment false) ∧ segmentsFault back = none := by
  induction front with
  | nil => simp
  | cons segment rest ih =>
    have hmore : (rest ++ back).isEmpty = false := by simp [h]
    rw [List.cons_append, segmentsFault_cons, hmore, Option.or_eq_none_iff, ih,
      segmentFault_eq_none, List.forall_mem_cons, and_assoc]

/-- What may stand in front of any filter. -/
structure Leads (base : String) : Prop where
  multi : '#' ∉ base.toList
  single : ∀ segment ∈ base.toList.splitOn '/', '+' ∈ segment → segment = singleLevel

theorem leads_iff {base : String} :
    Leads base ↔ ∀ segment ∈ segmentsOf (trimEndSlashes base.toList), ¬Offends segment false := by
  constructor
  · rintro h segment hs (⟨hhash, -⟩ | ⟨hplus, hshared⟩)
    · exact h.multi (mem_of_mem_trimEndSlashes (mem_of_mem_segmentsOf hs hhash))
    · rw [mem_segmentsOf_trimEndSlashes (List.ne_nil_of_mem hplus), segmentsOf_eq_splitOn] at hs
      exact hshared (h.single segment hs hplus)
  · intro h
    have hbase : ∀ segment ∈ segmentsOf base.toList, segment ≠ [] → ¬Offends segment false := by
      intro segment hs hne
      exact h segment ((mem_segmentsOf_trimEndSlashes hne).mpr hs)
    constructor
    case multi =>
      intro hhash
      obtain ⟨front, back, hsplit⟩ := List.append_of_mem hhash
      obtain ⟨before, head, tail, after, -, -, hsegments⟩ :=
        exists_segment front back (c := '#') (by decide)
      have hmem : head ++ '#' :: tail ∈ segmentsOf base.toList := by simp [hsplit, hsegments]
      exact hbase _ hmem (by simp) (.inl ⟨by simp, .inr rfl⟩)
    case single =>
      intro segment hs hplus
      rw [← segmentsOf_eq_splitOn] at hs
      by_contra hshared
      exact hbase segment hs (List.ne_nil_of_mem hplus) (.inr ⟨hplus, hshared⟩)

theorem segmentsFault_bare {topic : String} (h : segmentsFault (segments topic) = none) :
    segmentsFault (segments (bare topic)) = none := by
  obtain ⟨n, hn⟩ := segments_eq_append_bare topic
  have hne : segments (bare topic) ≠ [] := segmentsOf_ne_nil _
  rw [hn, segmentsFault_append hne] at h
  exact h.2

theorem leads_empty : Leads "" := by
  refine leads_iff.mpr ?_
  intro segment hs
  obtain rfl : segment = [] := by simpa [trimEndSlashes, segmentsOf] using hs
  simp [Offends]

theorem validateFilter_addPrefix {base filter : String} (h : validateFilter filter = .ok ()) :
    validateFilter (addPrefix base filter) = .ok () ↔ Leads base := by
  by_cases hb : base = ""
  · subst hb
    exact iff_of_true h leads_empty
  · have hne : addPrefix base filter ≠ "" := by
      intro hempty
      simp [addPrefix_eq hb] at hempty
    have hfilter : segmentsFault (segments (bare filter)) = none := by
      rw [validateFilter_eq_ok, filterFault] at h
      split at h
      · cases h
      · exact segmentsFault_bare h
    have hback : segments (bare filter) ≠ [] := segmentsOf_ne_nil _
    rw [validateFilter_eq_ok, filterFault, if_neg hne, segments_addPrefix hb,
      segmentsFault_append hback, leads_iff]
    exact and_iff_left hfilter

end EventBus.Topic
