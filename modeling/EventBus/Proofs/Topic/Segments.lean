import EventBus.Proofs.Topic.Prefix

namespace EventBus.Topic

theorem segmentsOf_eq_splitOn (text : List Char) : segmentsOf text = text.splitOn '/' := by
  induction text with
  | nil => rfl
  | cons c rest ih =>
    rw [List.splitOn_cons_eq_if_modifyHead, segmentsOf, ih]
    by_cases hc : c = '/'
    · simp [hc]
    · obtain ⟨segment, more, hs⟩ := List.exists_cons_of_ne_nil (List.splitOn_ne_nil '/' rest)
      simp [hc, hs]

theorem intercalate_segmentsOf (text : List Char) : ['/'].intercalate (segmentsOf text) = text := by
  rw [segmentsOf_eq_splitOn]
  exact List.intercalate_splitOn '/'

theorem segmentsOf_inj {a b : List Char} : segmentsOf a = segmentsOf b ↔ a = b := by
  constructor
  · intro h
    rw [← intercalate_segmentsOf a, ← intercalate_segmentsOf b, h]
  · rintro rfl
    rfl

theorem slash_not_mem {text segment : List Char} (h : segment ∈ segmentsOf text) :
    '/' ∉ segment := by
  induction text generalizing segment with
  | nil => simp_all [segmentsOf]
  | cons c rest ih =>
    simp only [segmentsOf] at h
    split at h
    · rcases List.mem_cons.mp h with rfl | h
      · simp
      · exact ih h
    · next hc =>
      obtain ⟨first, more, hs⟩ := List.exists_cons_of_ne_nil (segmentsOf_ne_nil rest)
      simp only [hs, List.mem_cons] at h ih
      rcases h with rfl | h
      · simpa [eq_comm, hc] using ih (.inl rfl)
      · exact ih (.inr h)

theorem segmentsOf_intercalate {pieces : List (List Char)} (hne : pieces ≠ [])
    (h : ∀ piece ∈ pieces, '/' ∉ piece) : segmentsOf (['/'].intercalate pieces) = pieces := by
  rw [segmentsOf_eq_splitOn]
  exact List.splitOn_intercalate '/' h hne

theorem exists_segmentsOf_append (text : List Char) :
    ∃ before last, segmentsOf text = before ++ [last] :=
  ⟨_, _, (List.dropLast_concat_getLast (segmentsOf_ne_nil text)).symm⟩

theorem eq_of_append_eq_singleton {before : List (List Char)} {last segment : List Char}
    (h : before ++ [last] = [segment]) : before = [] ∧ last = segment := by
  obtain ⟨hbefore, hlast⟩ := List.append_inj' (h.trans (List.nil_append [segment]).symm) rfl
  exact ⟨hbefore, (List.cons.inj hlast).1⟩

/-- Where two texts meet, the last segment of one goes on with the first of the other. -/
theorem segmentsOf_append {front back head tail : List Char} {before after : List (List Char)}
    (hf : segmentsOf front = before ++ [head]) (hb : segmentsOf back = tail :: after) :
    segmentsOf (front ++ back) = before ++ (head ++ tail) :: after := by
  induction front generalizing before head with
  | nil =>
    obtain ⟨rfl, rfl⟩ := eq_of_append_eq_singleton hf.symm
    simpa using hb
  | cons c front ih =>
    obtain ⟨others, last, hlast⟩ := exists_segmentsOf_append front
    have hrest := ih hlast
    rw [List.cons_append, segmentsOf]
    rw [segmentsOf, hlast] at hf
    by_cases hc : c = '/'
    · rw [if_pos hc] at hf ⊢
      rw [← List.cons_append] at hf
      obtain ⟨rfl, hhead⟩ := List.append_inj' hf rfl
      obtain rfl : last = head := by simpa using hhead
      rw [hrest, List.cons_append]
    · rw [if_neg hc] at hf ⊢
      rw [hrest]
      cases others with
      | nil =>
        obtain ⟨rfl, rfl⟩ := eq_of_append_eq_singleton hf.symm
        simp
      | cons first others =>
        simp only [List.cons_append] at hf ⊢
        rw [← List.cons_append] at hf
        obtain ⟨rfl, hhead⟩ := List.append_inj' hf rfl
        obtain rfl : last = head := by simpa using hhead
        simp

def SegmentBegins (front : List Char) : Prop := front = [] ∨ front.getLast? = some '/'

def SegmentEnds (back : List Char) : Prop := back = [] ∨ back.head? = some '/'

theorem segmentBegins_iff {front head : List Char} {before : List (List Char)}
    (h : segmentsOf front = before ++ [head]) : SegmentBegins front ↔ head = [] := by
  rcases List.eq_nil_or_concat front with rfl | ⟨rest, c, hconcat⟩
  · obtain ⟨-, hhead⟩ := eq_of_append_eq_singleton h.symm
    simpa [SegmentBegins] using hhead
  · obtain rfl : front = rest ++ [c] := hconcat.trans List.concat_eq_append
    obtain ⟨others, last, hrest⟩ := exists_segmentsOf_append rest
    by_cases hc : c = '/'
    · have hsegments : segmentsOf (rest ++ [c]) = segmentsOf rest ++ [[]] := by
        rw [hc, segmentsOf_append_slash]
        rfl
      obtain ⟨-, hhead⟩ := List.append_inj' (h.symm.trans hsegments) rfl
      simpa [SegmentBegins, hc] using hhead
    · have hsegments : segmentsOf (rest ++ [c]) = others ++ [last ++ [c]] :=
        segmentsOf_append hrest (by simp [segmentsOf, hc])
      obtain ⟨-, hhead⟩ := List.append_inj' (h.symm.trans hsegments) rfl
      obtain rfl : head = last ++ [c] := by simpa using hhead
      simp [SegmentBegins, hc]

theorem segmentEnds_iff {back tail : List Char} {after : List (List Char)}
    (h : segmentsOf back = tail :: after) : SegmentEnds back ↔ tail = [] := by
  constructor
  · rintro (rfl | hslash)
    · exact (List.cons.inj h).1.symm
    · obtain ⟨rest, rfl⟩ := List.head?_eq_some_iff.mp hslash
      exact (List.cons.inj (h.symm.trans (if_pos rfl))).1
  · rintro rfl
    by_cases hslash : back.head? = some '/'
    · exact .inr hslash
    · exact .inl (eq_nil_of_segmentsOf h hslash)

theorem exists_segment (front back : List Char) {c : Char} (hc : c ≠ '/') :
    ∃ before head tail after, segmentsOf front = before ++ [head] ∧
      segmentsOf back = tail :: after ∧
      segmentsOf (front ++ c :: back) = before ++ (head ++ c :: tail) :: after := by
  obtain ⟨before, head, hf⟩ := exists_segmentsOf_append front
  obtain ⟨tail, after, hb⟩ := List.exists_cons_of_ne_nil (segmentsOf_ne_nil back)
  have hcons : segmentsOf (c :: back) = (c :: tail) :: after := by simp [segmentsOf, hc, hb]
  exact ⟨before, head, tail, after, hf, hb, segmentsOf_append hf hcons⟩

theorem exists_cut {text head tail : List Char} {c : Char} {before after : List (List Char)}
    (h : segmentsOf text = before ++ (head ++ c :: tail) :: after) :
    ∃ front back, text = front ++ c :: back ∧ segmentsOf front = before ++ [head] ∧
      segmentsOf back = tail :: after := by
  have hslash : ∀ segment ∈ before ++ (head ++ c :: tail) :: after, '/' ∉ segment :=
    fun segment hs => slash_not_mem (h ▸ hs)
  rw [List.forall_mem_append, List.forall_mem_cons] at hslash
  obtain ⟨hbefore, hsegment, hafter⟩ := hslash
  simp only [List.mem_append, List.mem_cons, not_or] at hsegment
  obtain ⟨hhead, hc, htail⟩ := hsegment
  have hf : segmentsOf (['/'].intercalate (before ++ [head])) = before ++ [head] := by
    refine segmentsOf_intercalate (by simp) ?_
    rw [List.forall_mem_append]
    exact ⟨hbefore, by simpa using hhead⟩
  have hb : segmentsOf (['/'].intercalate (tail :: after)) = tail :: after := by
    refine segmentsOf_intercalate (by simp) ?_
    exact List.forall_mem_cons.mpr ⟨htail, hafter⟩
  refine ⟨_, _, segmentsOf_inj.mp ?_, hf, hb⟩
  have hcons : segmentsOf (c :: ['/'].intercalate (tail :: after)) = (c :: tail) :: after := by
    simp [segmentsOf, Ne.symm hc, hb]
  rw [h, segmentsOf_append hf hcons]

end EventBus.Topic
