import EventBus.Proofs.Topic.Grammar
import Mathlib.Data.List.Forall2

namespace EventBus.Topic

/-- A segment of a filter stands for a segment of a topic. -/
def Fits (segment part : List Char) : Prop := segment = singleLevel ∨ segment = part

theorem segmentsMatch_cons {segment part : List Char} {filter topic : List (List Char)}
    (h : segment ≠ multiLevel) : segmentsMatch (part :: topic) (segment :: filter) = true ↔
      Fits segment part ∧ segmentsMatch topic filter = true := by
  simp only [segmentsMatch, h, decide_false, Bool.false_or, Bool.and_eq_true, Bool.or_eq_true,
    decide_eq_true_eq, Fits, eq_comm (a := part)]

theorem segmentsMatch_iff_fits {filter topic : List (List Char)} (h : multiLevel ∉ filter) :
    segmentsMatch topic filter = true ↔ List.Forall₂ Fits filter topic := by
  induction filter generalizing topic with
  | nil => cases topic <;> simp [segmentsMatch]
  | cons segment filter ih =>
    simp only [List.mem_cons, not_or] at h
    obtain ⟨hsegment, hfilter⟩ := h
    cases topic with
    | nil => simp [segmentsMatch, Ne.symm hsegment]
    | cons part topic =>
      rw [segmentsMatch_cons (Ne.symm hsegment), ih hfilter, List.forall₂_cons]

theorem segmentsMatch_append_multiLevel {front topic : List (List Char)} (h : multiLevel ∉ front) :
    segmentsMatch topic (front ++ [multiLevel]) = true ↔
      front.length ≤ topic.length ∧ List.Forall₂ Fits front (topic.take front.length) := by
  induction front generalizing topic with
  | nil => cases topic <;> simp [segmentsMatch]
  | cons segment front ih =>
    simp only [List.mem_cons, not_or] at h
    obtain ⟨hsegment, hfront⟩ := h
    cases topic with
    | nil => simp [segmentsMatch, Ne.symm hsegment]
    | cons part topic =>
      rw [List.cons_append, segmentsMatch_cons (Ne.symm hsegment), ih hfront]
      simp only [List.length_cons, Nat.add_le_add_iff_right, List.take_succ_cons,
        List.forall₂_cons]
      exact and_left_comm

theorem multiLevel_not_mem_front {filter : String} {front : List (List Char)} {last : List Char}
    (h : validateFilter filter = .ok ()) (hsplit : segments filter = front ++ [last]) :
    multiLevel ∉ front := by
  intro hm
  obtain ⟨before, after, rfl⟩ := List.append_of_mem hm
  have hnone : segmentsFault (segments filter) = none := by
    rw [validateFilter_eq_ok, filterFault] at h
    split at h
    · cases h
    · exact h
  have hfine := segmentsFault_eq_none.mp hnone before multiLevel (after ++ [last])
    (by rw [hsplit, List.append_assoc, List.cons_append])
  refine hfine (.inl ⟨by simp [multiLevel], .inr ?_⟩)
  cases after <;> rfl

theorem forall₂_fits_iff_eq {filter topic : List (List Char)} (h : singleLevel ∉ filter) :
    List.Forall₂ Fits filter topic ↔ filter = topic := by
  induction filter generalizing topic with
  | nil => rw [List.forall₂_nil_left_iff, eq_comm]
  | cons segment filter ih =>
    simp only [List.mem_cons, not_or] at h
    obtain ⟨hsegment, hfilter⟩ := h
    cases topic with
    | nil => simp
    | cons part topic =>
      rw [List.forall₂_cons, ih hfilter, List.cons.injEq, Fits, or_iff_right (Ne.symm hsegment)]

theorem matchesFilter_iff_eq {topic filter : String} (hplus : '+' ∉ filter.toList)
    (hhash : '#' ∉ filter.toList) : matchesFilter topic filter = true ↔ topic = filter := by
  have hsingle : singleLevel ∉ segments filter := fun hm =>
    hplus (mem_of_mem_segmentsOf hm (by simp [singleLevel]))
  have hmulti : multiLevel ∉ segments filter := fun hm =>
    hhash (mem_of_mem_segmentsOf hm (by simp [multiLevel]))
  rw [matchesFilter, segmentsMatch_iff_fits hmulti, forall₂_fits_iff_eq hsingle, segments, segments,
    segmentsOf_inj, String.toList_inj, eq_comm]

/-- What an accepted filter selects: without a last `#` the topics that its segments fit one for
one, with it those whose first segments are fitted by the ones before it. -/
theorem matchesFilter_iff_fits {filter : String} (h : validateFilter filter = .ok ())
    (topic : String) :
    (matchesFilter topic filter = true ↔
      ((filter.toList.splitOn '/').getLast? ≠ some multiLevel ∧
          List.Forall₂ Fits (filter.toList.splitOn '/') (topic.toList.splitOn '/')) ∨
        ∃ front, filter.toList.splitOn '/' = front ++ [multiLevel] ∧
          front.length ≤ (topic.toList.splitOn '/').length ∧
          List.Forall₂ Fits front ((topic.toList.splitOn '/').take front.length)) ∧
      ('+' ∉ filter.toList → '#' ∉ filter.toList →
        (matchesFilter topic filter = true ↔ topic = filter)) := by
  refine ⟨?_, matchesFilter_iff_eq⟩
  obtain ⟨front, last, hsplit⟩ := exists_segmentsOf_append filter.toList
  have hfront : multiLevel ∉ front := multiLevel_not_mem_front h hsplit
  rw [matchesFilter, segments, segments, hsplit, ← segmentsOf_eq_splitOn, ← segmentsOf_eq_splitOn,
    hsplit, List.getLast?_concat]
  by_cases hlast : last = multiLevel
  · subst hlast
    rw [segmentsMatch_append_multiLevel hfront]
    constructor
    · intro hm
      exact .inr ⟨front, rfl, hm⟩
    · rintro (⟨hne, -⟩ | ⟨other, hother, hm⟩)
      · exact absurd rfl hne
      · obtain ⟨rfl, -⟩ := List.append_inj' hother rfl
        exact hm
  · have hplain : multiLevel ∉ front ++ [last] := by
      simpa [List.mem_append, hfront] using Ne.symm hlast
    rw [segmentsMatch_iff_fits hplain]
    constructor
    · intro hm
      exact .inl ⟨fun he => hlast (Option.some.inj he), hm⟩
    · rintro (⟨-, hm⟩ | ⟨other, hother, -⟩)
      · exact hm
      · obtain ⟨-, hend⟩ := List.append_inj' hother rfl
        exact absurd (List.cons.inj hend).1 hlast

/-- The empty segment in the middle is fitted by `+` and the one at the end is left to `#`. A plain
filter has no use for an empty segment that it does not have itself. -/
theorem matchesFilter_iff_fits_empty :
    (validateFilter "a/+/#" = .ok () ∧
      ∃ front, "a/+/#".toList.splitOn '/' = front ++ [multiLevel] ∧
        front.length ≤ ("a//b/".toList.splitOn '/').length ∧
        List.Forall₂ Fits front (("a//b/".toList.splitOn '/').take front.length)) ∧
      (validateFilter "a/b" = .ok () ∧ '+' ∉ "a/b".toList ∧ '#' ∉ "a/b".toList ∧
        (matchesFilter "a//b" "a/b" = true ↔ "a//b" = "a/b")) := by
  have hwild : validateFilter "a/+/#" = .ok () := rfl
  have hplain : validateFilter "a/b" = .ok () := rfl
  have hplus : '+' ∉ "a/b".toList := by decide
  have hhash : '#' ∉ "a/b".toList := by decide
  refine ⟨⟨hwild, ?_⟩, hplain, hplus, hhash, (matchesFilter_iff_fits hplain "a//b").2 hplus hhash⟩
  rcases (matchesFilter_iff_fits hwild "a//b/").1.mp (by decide) with ⟨hlast, -⟩ | hfits
  · exact absurd (by decide) hlast
  · exact hfits

end EventBus.Topic
