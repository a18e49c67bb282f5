import EventBus.Proofs.Entries
import EventBus.Proofs.Topic.Prefix

namespace EventBus.Topic

/-- The base as a topic of its own. -/
def root (base : String) : String := String.ofList (trimEndSlashes base.toList)

structure Literal (segments : List (List Char)) : Prop where
  single : singleLevel ∉ segments
  multi : multiLevel ∉ segments

theorem Literal.tail {segment : List Char} {rest : List (List Char)}
    (h : Literal (segment :: rest)) : Literal rest :=
  ⟨fun hm => h.single (List.mem_cons_of_mem segment hm),
    fun hm => h.multi (List.mem_cons_of_mem segment hm)⟩

theorem literal_base {base : String} (hplus : '+' ∉ base.toList) (hhash : '#' ∉ base.toList) :
    Literal (segmentsOf (trimEndSlashes base.toList)) := by
  refine ⟨fun hm => ?_, multiLevel_not_mem_base hhash⟩
  have hc : '+' ∈ trimEndSlashes base.toList := mem_of_mem_segmentsOf hm (by simp [singleLevel])
  exact hplus (mem_of_mem_trimEndSlashes hc)

/-- Literal segments in front of a filter stand in front of every topic that it selects. -/
theorem exists_append_of_segmentsMatch {base topic filter : List (List Char)} (h : Literal base)
    (hm : segmentsMatch topic (base ++ filter) = true) : ∃ rest, topic = base ++ rest := by
  induction base generalizing topic with
  | nil => exact ⟨topic, rfl⟩
  | cons segment base ih =>
    have hsingle : segment ≠ singleLevel := fun he => h.single (he ▸ List.mem_cons_self)
    have hmulti : segment ≠ multiLevel := fun he => h.multi (he ▸ List.mem_cons_self)
    cases topic with
    | nil => simp [segmentsMatch, hmulti] at hm
    | cons part topic =>
      simp only [List.cons_append, segmentsMatch, hmulti, hsingle, decide_false, Bool.false_or,
        Bool.and_eq_true, decide_eq_true_eq] at hm
      obtain ⟨rfl, hm⟩ := hm
      obtain ⟨rest, rfl⟩ := ih h.tail hm
      exact ⟨rest, rfl⟩

/-- A text that begins with all segments of another is that text, or goes on behind a slash. -/
theorem eq_or_append_of_segmentsOf {base text : List Char} {rest : List (List Char)}
    (h : segmentsOf text = segmentsOf base ++ rest) :
    text = base ∨ ∃ below, text = base ++ '/' :: below := by
  induction base generalizing text with
  | nil =>
    cases text with
    | nil => exact .inl rfl
    | cons c text =>
      by_cases hc : c = '/'
      · exact .inr ⟨text, by rw [hc]; rfl⟩
      · have hempty := eq_nil_of_segmentsOf h (by simpa using hc)
        cases hempty
  | cons d base ih =>
    obtain ⟨segment, more, hbase⟩ := List.exists_cons_of_ne_nil (segmentsOf_ne_nil base)
    -- Only a text that begins with the same character can go on like the base.
    have hnext : ∃ next, text = d :: next ∧ segmentsOf next = segmentsOf base ++ rest := by
      by_cases hd : d = '/'
      · cases text with
        | nil => simp [segmentsOf, hd, hbase] at h
        | cons c next =>
          by_cases hc : c = '/'
          · exact ⟨next, by rw [hc, hd], by simpa [segmentsOf, hc, hd] using h⟩
          · rw [segmentsOf.eq_2 d base, if_pos hd] at h
            have hempty := eq_nil_of_segmentsOf h (by simpa using hc)
            cases hempty
      · simp only [segmentsOf, hd, if_false, hbase] at h
        obtain ⟨next, rfl⟩ := List.head?_eq_some_iff.mp (head_of_segmentsOf h)
        refine ⟨next, rfl, ?_⟩
        obtain ⟨first, others, hn⟩ := List.exists_cons_of_ne_nil (segmentsOf_ne_nil next)
        simp only [segmentsOf, hd, if_false, hn, List.cons_append, List.cons.injEq, true_and] at h
        rw [hn, hbase, h.1, h.2]
        rfl
    obtain ⟨next, rfl, hn⟩ := hnext
    rcases ih hn with rfl | ⟨below, rfl⟩
    · exact .inl rfl
    · exact .inr ⟨below, rfl⟩

theorem eq_root_or_below {base wire filter : String} (hb : base ≠ "") (hplus : '+' ∉ base.toList)
    (hhash : '#' ∉ base.toList) (hm : matchesFilter wire (addPrefix base filter) = true) :
    wire = root base ∨ ∃ below, wire.toList = trimEndSlashes base.toList ++ '/' :: below := by
  rw [matchesFilter, segments_addPrefix hb] at hm
  obtain ⟨rest, hrest⟩ := exists_append_of_segmentsMatch (literal_base hplus hhash) hm
  rcases eq_or_append_of_segmentsOf hrest with hroot | hbelow
  · exact .inl (by rw [root, ← hroot, String.ofList_toList])
  · exact .inr hbelow

theorem dropStart?_eq_some {start text rest : List Char} :
    dropStart? start text = some rest ↔ text = start ++ rest := by
  induction start generalizing text with
  | nil => simp [dropStart?]
  | cons c start ih =>
    cases text with
    | nil => simp [dropStart?]
    | cons d text =>
      by_cases hc : c = d
      · simp [dropStart?, hc, ih]
      · simp [dropStart?, hc, eq_comm]

theorem stripPrefix_root {base : String} (hb : base ≠ "") :
    stripPrefix base (root base) = root base := by
  rw [stripPrefix, if_neg hb]
  split
  · next rest hrest =>
    have hlength := congrArg List.length (dropStart?_eq_some.mp hrest)
    simp [root] at hlength
  · rfl

theorem stripPrefix_below {base wire : String} {below : List Char} (hb : base ≠ "")
    (hw : wire.toList = trimEndSlashes base.toList ++ '/' :: below) :
    stripPrefix base wire = String.ofList below := by
  have hd : dropStart? (trimEndSlashes base.toList ++ ['/']) wire.toList = some below :=
    dropStart?_eq_some.mpr (by simp [hw])
  simp [stripPrefix, hb, hd]

theorem matchesFilter_below {base wire filter : String} {below : List Char} (hb : base ≠ "")
    (hhash : '#' ∉ base.toList) (hslash : filter.toList.head? ≠ some '/')
    (hw : wire.toList = trimEndSlashes base.toList ++ '/' :: below) :
    matchesFilter wire (addPrefix base filter) = matchesFilter (String.ofList below) filter := by
  rw [matchesFilter, segments_addPrefix hb, bare_eq_self hslash, segments, hw,
    segmentsOf_append_slash, segmentsMatch_append _ _ _ (multiLevel_not_mem_base hhash),
    matchesFilter, segments, segments, String.toList_ofList]

theorem segmentsMatch_of_nil {filter : List (List Char)} (hne : filter ≠ [])
    (h : segmentsMatch [] filter = true) (topic : List (List Char)) :
    segmentsMatch topic filter = true := by
  obtain ⟨segment, rest, rfl⟩ := List.exists_cons_of_ne_nil hne
  have hmulti : segment = multiLevel := by simpa [segmentsMatch] using h
  cases topic <;> simp [segmentsMatch, hmulti]

theorem matchesFilter_of_root {base filter : String} (hb : base ≠ "") (hhash : '#' ∉ base.toList)
    (hslash : filter.toList.head? ≠ some '/')
    (hm : matchesFilter (root base) (addPrefix base filter) = true) (topic : String) :
    matchesFilter topic filter = true := by
  have hnil : segmentsMatch [] (segments filter) = true := by
    rw [matchesFilter, segments_addPrefix hb, bare_eq_self hslash, segments, root,
      String.toList_ofList, ← List.append_nil (segmentsOf (trimEndSlashes base.toList)),
      List.append_assoc, segmentsMatch_append _ _ _ (multiLevel_not_mem_base hhash)] at hm
    simpa using hm
  exact segmentsMatch_of_nil (segmentsOf_ne_nil filter.toList) hnil (segments topic)

theorem mem_plan {base filter : String} {topics : List String} :
    filter ∈ plan base topics ↔ ∃ topic ∈ topics, addPrefix base topic = filter := by
  rw [plan, Entries.mem_keys_ofList]
  simp

end EventBus.Topic
