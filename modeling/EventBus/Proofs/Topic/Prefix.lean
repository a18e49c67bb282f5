import EventBus.Topic.Filter
import EventBus.Topic.Prefix

namespace EventBus.Topic

theorem segmentsOf_ne_nil (text : List Char) : segmentsOf text ≠ [] := by
  cases text with
  | nil => simp [segmentsOf]
  | cons c rest =>
    simp only [segmentsOf]
    split
    · simp
    · split <;> simp

theorem segmentsOf_append_slash (front back : List Char) :
    segmentsOf (front ++ '/' :: back) = segmentsOf front ++ segmentsOf back := by
  induction front with
  | nil => simp [segmentsOf]
  | cons c rest ih =>
    simp only [List.cons_append, segmentsOf, ih]
    split
    · rfl
    · cases h : segmentsOf rest with
      | nil => exact absurd h (segmentsOf_ne_nil rest)
      | cons segment more => rfl

theorem mem_of_mem_segmentsOf {text segment : List Char} {c : Char}
    (hs : segment ∈ segmentsOf text) (hc : c ∈ segment) : c ∈ text := by
  induction text generalizing segment with
  | nil => simp_all [segmentsOf]
  | cons d rest ih =>
    simp only [segmentsOf] at hs
    split at hs
    · rcases List.mem_cons.mp hs with rfl | hs
      · simp at hc
      · exact List.mem_cons_of_mem d (ih hs hc)
    · cases h : segmentsOf rest with
      | nil => exact absurd h (segmentsOf_ne_nil rest)
      | cons first more =>
        simp only [h, List.mem_cons] at hs ih
        rcases hs with rfl | hs
        · rcases List.mem_cons.mp hc with rfl | hc
          · exact List.mem_cons_self
          · exact List.mem_cons_of_mem d (ih (.inl rfl) hc)
        · exact List.mem_cons_of_mem d (ih (.inr hs) hc)

theorem head_of_segmentsOf {text segment : List Char} {more : List (List Char)} {c : Char}
    (h : segmentsOf text = (c :: segment) :: more) : text.head? = some c := by
  cases text with
  | nil => simp [segmentsOf] at h
  | cons d rest =>
    simp only [segmentsOf] at h
    split at h
    · simp at h
    · split at h <;> simp_all

theorem eq_nil_of_segmentsOf {text : List Char} {more : List (List Char)}
    (h : segmentsOf text = [] :: more) (hs : text.head? ≠ some '/') : text = [] := by
  cases text with
  | nil => rfl
  | cons c rest =>
    have hc : c ≠ '/' := by simpa using hs
    simp only [segmentsOf, hc, if_false] at h
    split at h <;> simp at h

/-- Literal segments that topic and filter share in front never decide a match. The segment `+`
also stands for itself. -/
theorem segmentsMatch_append (shared topic filter : List (List Char)) (h : multiLevel ∉ shared) :
    segmentsMatch (shared ++ topic) (shared ++ filter) = segmentsMatch topic filter := by
  induction shared with
  | nil => rfl
  | cons segment rest ih =>
    simp only [List.mem_cons, not_or] at h
    simp [segmentsMatch, Ne.symm h.1, ih h.2]

theorem trimStartSlashes_head (text : List Char) : (trimStartSlashes text).head? ≠ some '/' := by
  intro h
  have hd := List.head?_dropWhile_not (· = '/') text
  unfold trimStartSlashes at h
  simp [h] at hd

theorem trimStartSlashes_eq_self {text : List Char} (h : text.head? ≠ some '/') :
    trimStartSlashes text = text := by
  cases text with
  | nil => rfl
  | cons c rest => exact List.dropWhile_cons_of_neg (by simpa using h)

/-- Of the filters with a leading slash only `/#` selects a topic without one, the empty topic. -/
theorem match_of_leading_slash {topic rest : List Char} (ht : topic.head? ≠ some '/')
    (h : segmentsMatch (segmentsOf topic) (segmentsOf ('/' :: rest)) = true) :
    topic = [] ∧ ∃ others, segmentsOf rest = multiLevel :: others := by
  obtain ⟨part, more, hp⟩ := List.exists_cons_of_ne_nil (segmentsOf_ne_nil topic)
  obtain ⟨segment, others, hr⟩ := List.exists_cons_of_ne_nil (segmentsOf_ne_nil rest)
  have hpart : part = [] := by
    simp [segmentsOf, hp, segmentsMatch, multiLevel, singleLevel] at h
    exact h.1
  have htopic : topic = [] := eq_nil_of_segmentsOf (hpart ▸ hp) ht
  refine ⟨htopic, others, ?_⟩
  subst htopic
  simp [segmentsOf, hr, segmentsMatch, multiLevel, singleLevel] at h
  rw [hr, of_decide_eq_true h, multiLevel]

theorem segmentsMatch_trimStartSlashes {topic filter : List Char} (ht : topic.head? ≠ some '/')
    (h : segmentsMatch (segmentsOf topic) (segmentsOf filter) = true) :
    segmentsMatch (segmentsOf topic) (segmentsOf (trimStartSlashes filter)) = true := by
  by_cases hs : filter.head? = some '/'
  · obtain ⟨rest, rfl⟩ := List.head?_eq_some_iff.mp hs
    obtain ⟨rfl, others, hr⟩ := match_of_leading_slash ht h
    have hh := head_of_segmentsOf hr
    have htrim : trimStartSlashes ('/' :: rest) = rest := by
      rw [trimStartSlashes, List.dropWhile_cons_of_pos (by simp)]
      exact trimStartSlashes_eq_self (by simp [hh])
    rw [htrim, hr]
    simp [segmentsOf, segmentsMatch]
  · rw [trimStartSlashes_eq_self hs]
    exact h

theorem dropStart?_append (start rest : List Char) :
    dropStart? start (start ++ rest) = some rest := by
  induction start with
  | nil => rfl
  | cons c start ih => simpa [dropStart?] using ih

def bare (topic : String) : String := String.ofList (trimStartSlashes topic.toList)

theorem bare_eq_self {topic : String} (h : topic.toList.head? ≠ some '/') : bare topic = topic := by
  rw [bare, trimStartSlashes_eq_self h, String.ofList_toList]

theorem mem_of_mem_trimEndSlashes {text : List Char} {c : Char}
    (h : c ∈ trimEndSlashes text) : c ∈ text := by
  unfold trimEndSlashes at h
  rw [List.mem_reverse] at h
  simpa using (List.dropWhile_sublist _).mem h

theorem segments_addPrefix {base : String} (hb : base ≠ "") (topic : String) :
    segments (addPrefix base topic) =
      segmentsOf (trimEndSlashes base.toList) ++ segments (bare topic) := by
  simp [segments, addPrefix, bare, hb, segmentsOf_append_slash]

theorem stripPrefix_addPrefix {base : String} (hb : base ≠ "") (topic : String) :
    stripPrefix base (addPrefix base topic) = bare topic := by
  have hd := dropStart?_append (trimEndSlashes base.toList ++ ['/']) (trimStartSlashes topic.toList)
  rw [List.append_assoc, List.singleton_append] at hd
  simp [stripPrefix, addPrefix, bare, hb, hd]

theorem multiLevel_not_mem_base {base : String} (hw : '#' ∉ base.toList) :
    multiLevel ∉ segmentsOf (trimEndSlashes base.toList) := by
  intro hm
  have hc : '#' ∈ trimEndSlashes base.toList := mem_of_mem_segmentsOf hm (by simp [multiLevel])
  exact hw (mem_of_mem_trimEndSlashes hc)

/-- What the dispatcher selects of a topic that came over the network, the network had to deliver:
the filter is subscribed to under the base as the topic is published under it. -/
theorem network_match_of_bare_match {base topic filter : String} (hb : base ≠ "")
    (hw : '#' ∉ base.toList) (h : matchesFilter (bare topic) filter = true) :
    matchesFilter (addPrefix base topic) (addPrefix base filter) = true := by
  unfold matchesFilter at h ⊢
  rw [segments_addPrefix hb, segments_addPrefix hb,
    segmentsMatch_append _ _ _ (multiLevel_not_mem_base hw)]
  unfold segments bare at h ⊢
  simp only [String.toList_ofList] at h ⊢
  exact segmentsMatch_trimStartSlashes (trimStartSlashes_head _) h

/-- An event that travels over the network reaches a subscription just when the same event raised
locally does, for every topic without a leading slash. A topic with leading slashes arrives as the
one without them. -/
theorem network_delivery_iff {base : String} (hb : base ≠ "") (hw : '#' ∉ base.toList)
    (topic filter : String) :
    (topic.toList.head? ≠ some '/' →
      (matchesFilter topic filter = true ↔
        matchesFilter (addPrefix base topic) (addPrefix base filter) = true ∧
          matchesFilter (stripPrefix base (addPrefix base topic)) filter = true)) ∧
    (matchesFilter (bare topic) filter = true ↔
      matchesFilter (addPrefix base topic) (addPrefix base filter) = true ∧
        matchesFilter (stripPrefix base (addPrefix base topic)) filter = true) := by
  have hbare : matchesFilter (bare topic) filter = true ↔
      matchesFilter (addPrefix base topic) (addPrefix base filter) = true ∧
        matchesFilter (stripPrefix base (addPrefix base topic)) filter = true := by
    rw [stripPrefix_addPrefix hb]
    exact ⟨fun h => ⟨network_match_of_bare_match hb hw h, h⟩, And.right⟩
  refine ⟨fun ht => ?_, hbare⟩
  rw [bare_eq_self ht] at hbare
  exact hbare

theorem network_delivery_iff_at_site :
    matchesFilter "a//b/" "a/+/#" = true ↔
      matchesFilter (addPrefix "site//" "a//b/") (addPrefix "site//" "a/+/#") = true ∧
        matchesFilter (stripPrefix "site//" (addPrefix "site//" "a//b/")) "a/+/#" = true :=
  (network_delivery_iff (by decide) (by decide) "a//b/" "a/+/#").1 (by decide)

/-- The leading slash is lost on the wire: `/x` is selected locally by the well-formed filter `/x`,
and over the network the subscription that asked for it is not reached. -/
theorem leading_slash_not_delivered :
    validateFilter "/x" = .ok () ∧
      ¬(matchesFilter "/x" "/x" = true ↔
        matchesFilter (addPrefix "p" "/x") (addPrefix "p" "/x") = true ∧
          matchesFilter (stripPrefix "p" (addPrefix "p" "/x")) "/x" = true) :=
  ⟨rfl, by decide⟩

end EventBus.Topic
