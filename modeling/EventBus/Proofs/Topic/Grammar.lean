import EventBus.Proofs.Topic.Segments

namespace EventBus.Topic

theorem validateFilter_eq_ok {filter : String} :
    validateFilter filter = .ok () ↔ filterFault filter = none := by
  unfold validateFilter
  split <;> simp_all

theorem validateFilter_eq_error {filter : String} {fault : FilterError} :
    validateFilter filter = .error fault ↔ filterFault filter = some fault := by
  unfold validateFilter
  split <;> simp_all

/-- A wildcard shares its segment, or `#` is not at the end. -/
def Offends (segment : List Char) (isLast : Bool) : Prop :=
  ('#' ∈ segment ∧ (segment ≠ multiLevel ∨ isLast = false)) ∨
    ('+' ∈ segment ∧ segment ≠ singleLevel)

/-- What is said of a segment that offends. Of its two wildcards `#` is named. -/
def faultOf (segment : List Char) : FilterError :=
  if '#' ∈ segment ∧ segment ≠ multiLevel then .partialWildcard '#'
  else if segment = multiLevel then .multiLevelNotLast
  else .partialWildcard '+'

theorem segmentFault_eq (segment : List Char) (isLast : Bool) :
    (¬Offends segment isLast ∧ segmentFault segment isLast = none) ∨
      (Offends segment isLast ∧ segmentFault segment isLast = some (faultOf segment)) := by
  unfold segmentFault Offends faultOf
  by_cases hmulti : segment = multiLevel
  · subst hmulti
    cases isLast <;> simp [multiLevel, singleLevel]
  · by_cases hhash : '#' ∈ segment
    · simp [hmulti, hhash]
    · by_cases hplus : '+' ∈ segment ∧ segment ≠ singleLevel
      · simp [hmulti, hhash, hplus]
      · rw [if_neg hhash, if_neg hplus]
        exact .inl ⟨by simp only [hhash, hplus, false_and, or_self, not_false_eq_true], rfl⟩

theorem segmentsFault_cons (segment : List Char) (rest : List (List Char)) :
    segmentsFault (segment :: rest) =
      (segmentFault segment rest.isEmpty).or (segmentsFault rest) := by
  rw [segmentsFault]
  cases segmentFault segment rest.isEmpty <;> rfl

theorem segmentsFault_eq_some {segments : List (List Char)} {fault : FilterError} :
    segmentsFault segments = some fault ↔
      ∃ front segment back, segments = front ++ segment :: back ∧
        (∀ earlier ∈ front, ¬Offends earlier false) ∧ Offends segment back.isEmpty ∧
        fault = faultOf segment := by
  induction segments with
  | nil => simp [segmentsFault]
  | cons first rest ih =>
    rw [segmentsFault_cons]
    rcases segmentFault_eq first rest.isEmpty with ⟨hfine, hnone⟩ | ⟨hoffends, hsome⟩
    · rw [hnone, Option.none_or, ih]
      constructor
      · rintro ⟨front, segment, back, rfl, hfront, hsegment, hfault⟩
        have hmore : (front ++ segment :: back).isEmpty = false := by cases front <;> rfl
        rw [hmore] at hfine
        exact ⟨first :: front, segment, back, rfl, List.forall_mem_cons.mpr ⟨hfine, hfront⟩,
          hsegment, hfault⟩
      · rintro ⟨front, segment, back, hsplit, hfront, hsegment, hfault⟩
        cases front with
        | nil =>
          obtain ⟨rfl, rfl⟩ := List.cons.inj hsplit
          exact absurd hsegment hfine
        | cons other front =>
          obtain ⟨rfl, rfl⟩ := List.cons.inj hsplit
          exact ⟨front, segment, back, rfl, (List.forall_mem_cons.mp hfront).2, hsegment, hfault⟩
    · rw [hsome, Option.some_or]
      constructor
      · intro h
        exact ⟨[], first, rest, rfl, by simp, hoffends, (Option.some.inj h).symm⟩
      · rintro ⟨front, segment, back, hsplit, hfront, -, rfl⟩
        cases front with
        | nil => rw [(List.cons.inj hsplit).1]
        | cons other front =>
          obtain ⟨rfl, hrest⟩ := List.cons.inj hsplit
          have hmore : rest.isEmpty = false := by
            rw [hrest]
            cases front <;> rfl
          rw [hmore] at hoffends
          exact absurd hoffends (hfront first List.mem_cons_self)

theorem segmentsFault_eq_none {segments : List (List Char)} :
    segmentsFault segments = none ↔
      ∀ front segment back, segments = front ++ segment :: back →
        ¬Offends segment back.isEmpty := by
  induction segments with
  | nil => simp [segmentsFault]
  | cons first rest ih =>
    rw [segmentsFault_cons]
    rcases segmentFault_eq first rest.isEmpty with ⟨hfine, hnone⟩ | ⟨hoffends, hsome⟩
    · rw [hnone, Option.none_or, ih]
      constructor
      · intro h front segment back hsplit
        cases front with
        | nil =>
          obtain ⟨rfl, rfl⟩ := List.cons.inj hsplit
          exact hfine
        | cons other front => exact h front segment back (List.cons.inj hsplit).2
      · intro h front segment back hsplit
        exact h (first :: front) segment back (by rw [hsplit]; rfl)
    · rw [hsome, Option.some_or]
      constructor
      · intro h
        cases h
      · intro h
        exact absurd hoffends (h [] first rest rfl)

structure Grammatical (filter : List Char) : Prop where
  nonempty : filter ≠ []
  alone : ∀ front wildcard back, filter = front ++ wildcard :: back →
    wildcard = '+' ∨ wildcard = '#' → SegmentBegins front ∧ SegmentEnds back
  last : ∀ front back, filter = front ++ '#' :: back → back = []

theorem Grammatical.eq_singleton {filter segment : List Char} {wildcard : Char}
    {front back : List (List Char)} (h : Grammatical filter)
    (hsplit : segmentsOf filter = front ++ segment :: back) (hw : wildcard ∈ segment)
    (hwild : wildcard = '+' ∨ wildcard = '#') :
    segment = [wildcard] ∧ (wildcard = '#' → back = []) := by
  obtain ⟨head, tail, rfl⟩ := List.append_of_mem hw
  obtain ⟨before, after, rfl, hbefore, hafter⟩ := exists_cut hsplit
  obtain ⟨hbegins, hends⟩ := h.alone before wildcard after rfl hwild
  have hhead : head = [] := (segmentBegins_iff hbefore).mp hbegins
  have htail : tail = [] := (segmentEnds_iff hafter).mp hends
  refine ⟨by rw [hhead, htail]; rfl, ?_⟩
  rintro rfl
  rw [h.last before after rfl] at hafter
  exact (List.cons.inj hafter).2.symm

theorem grammatical_iff {filter : List Char} (hne : filter ≠ []) :
    Grammatical filter ↔ ∀ front segment back, segmentsOf filter = front ++ segment :: back →
      ¬Offends segment back.isEmpty := by
  constructor
  · rintro h front segment back hsplit (⟨hhash, hshape⟩ | ⟨hplus, hshape⟩)
    · obtain ⟨hsegment, hback⟩ := h.eq_singleton hsplit hhash (.inr rfl)
      rcases hshape with hshape | hmore
      · exact hshape hsegment
      · simp [hback rfl] at hmore
    · exact hshape (h.eq_singleton hsplit hplus (.inl rfl)).1
  · intro h
    -- Around a wildcard its segment leaves no room, and behind `#` there is no segment.
    have hwildcard : ∀ front wildcard back, filter = front ++ wildcard :: back →
        wildcard = '+' ∨ wildcard = '#' →
        SegmentBegins front ∧ SegmentEnds back ∧ (wildcard = '#' → back = []) := by
      intro front wildcard back hfilter hwild
      have hslash : wildcard ≠ '/' := by rcases hwild with rfl | rfl <;> decide
      obtain ⟨before, head, tail, after, hf, hb, hsplit⟩ :=
        exists_segment front back hslash
      have hfine := h before (head ++ wildcard :: tail) after (hfilter ▸ hsplit)
      have hmem : wildcard ∈ head ++ wildcard :: tail := by simp
      have hsegment : head ++ wildcard :: tail = [wildcard] := by
        refine Decidable.byContradiction fun hshape => hfine ?_
        rcases hwild with rfl | rfl
        · exact .inr ⟨hmem, hshape⟩
        · exact .inl ⟨hmem, .inl hshape⟩
      obtain ⟨rfl, rfl⟩ : head = [] ∧ tail = [] := by
        rcases List.append_eq_singleton_iff.mp hsegment with ⟨hhead, htail⟩ | ⟨-, htail⟩
        · exact ⟨hhead, (List.cons.inj htail).2⟩
        · cases htail
      refine ⟨(segmentBegins_iff hf).mpr rfl, (segmentEnds_iff hb).mpr rfl, ?_⟩
      rintro rfl
      have hafter : after = [] := by
        refine Decidable.byContradiction fun hmore => hfine ?_
        exact .inl ⟨hmem, .inr (by simpa using hmore)⟩
      rw [hafter] at hb
      exact segmentsOf_inj.mp hb
    refine ⟨hne, fun front wildcard back hfilter hwild => ?_, fun front back hfilter => ?_⟩
    · obtain ⟨hbegins, hends, -⟩ := hwildcard front wildcard back hfilter hwild
      exact ⟨hbegins, hends⟩
    · exact (hwildcard front '#' back hfilter (.inr rfl)).2.2 rfl

/-- The check accepts just the filters of the grammar. Of the others an empty one is called empty,
and what is said of any other is the fault of its leftmost segment that offends. -/
theorem validateFilter_grammatical (filter : String) :
    (validateFilter filter = .ok () ↔ Grammatical filter.toList) ∧
      ∀ fault, validateFilter filter = .error fault ↔
        (filter = "" ∧ fault = .empty) ∨
          (filter ≠ "" ∧ ∃ front segment back,
            filter.toList.splitOn '/' = front ++ segment :: back ∧
            (∀ earlier ∈ front, ¬Offends earlier false) ∧ Offends segment back.isEmpty ∧
            fault = faultOf segment) := by
  by_cases hempty : filter = ""
  · subst hempty
    refine ⟨⟨fun h => ?_, fun h => absurd rfl h.nonempty⟩, fun fault => ?_⟩
    · cases h
    · rw [validateFilter_eq_error]
      simp [filterFault, eq_comm]
  · have hne : filter.toList ≠ [] := by simpa using hempty
    refine ⟨?_, fun fault => ?_⟩
    · rw [validateFilter_eq_ok, filterFault, if_neg hempty, segments, segmentsFault_eq_none,
        grammatical_iff hne]
    · rw [validateFilter_eq_error, filterFault, if_neg hempty, segments, segmentsFault_eq_some,
        segmentsOf_eq_splitOn]
      simp [hempty]

end EventBus.Topic
