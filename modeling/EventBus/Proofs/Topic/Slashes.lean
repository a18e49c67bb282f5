import EventBus.Proofs.Topic.Segments

namespace EventBus.Topic

def slashes (n : Nat) : String := String.ofList (List.replicate n '/')

theorem toList_slashes (n : Nat) : (slashes n).toList = List.replicate n '/' :=
  String.toList_ofList

theorem trimStartSlashes_replicate_append (n : Nat) (text : List Char) :
    trimStartSlashes (List.replicate n '/' ++ text) = trimStartSlashes text :=
  List.dropWhile_append_of_pos fun _ hc => by simp [List.eq_of_mem_replicate hc]

theorem trimEndSlashes_append_replicate (text : List Char) (n : Nat) :
    trimEndSlashes (text ++ List.replicate n '/') = trimEndSlashes text := by
  have htrim := trimStartSlashes_replicate_append n text.reverse
  rw [trimEndSlashes, List.reverse_append, List.reverse_replicate]
  exact congrArg List.reverse htrim

theorem exists_trimStartSlashes (text : List Char) :
    ∃ n, text = List.replicate n '/' ++ trimStartSlashes text := by
  have hslashes : ∀ c ∈ text.takeWhile (· = '/'), c = '/' := fun c hc =>
    of_decide_eq_true (List.all_eq_true.mp List.all_takeWhile c hc)
  refine ⟨(text.takeWhile (· = '/')).length, ?_⟩
  rw [← List.eq_replicate_of_mem hslashes]
  exact List.takeWhile_append_dropWhile.symm

theorem exists_trimEndSlashes (text : List Char) :
    ∃ n, text = trimEndSlashes text ++ List.replicate n '/' := by
  obtain ⟨n, hn⟩ := exists_trimStartSlashes text.reverse
  refine ⟨n, ?_⟩
  have hreverse := congrArg List.reverse hn
  rwa [List.reverse_reverse, List.reverse_append, List.reverse_replicate] at hreverse

theorem segmentsOf_replicate_append (n : Nat) (text : List Char) :
    segmentsOf (List.replicate n '/' ++ text) = List.replicate n [] ++ segmentsOf text := by
  induction n with
  | zero => rfl
  | succ n ih => simp [List.replicate_succ, segmentsOf, ih]

theorem segmentsOf_append_replicate (text : List Char) (n : Nat) :
    segmentsOf (text ++ List.replicate n '/') = segmentsOf text ++ List.replicate n [] := by
  cases n with
  | zero => simp
  | succ n =>
    have hslashes := segmentsOf_replicate_append n []
    rw [List.append_nil] at hslashes
    rw [List.replicate_succ, segmentsOf_append_slash, hslashes, List.replicate_succ']
    rfl

theorem mem_segmentsOf_trimEndSlashes {text segment : List Char} (h : segment ≠ []) :
    segment ∈ segmentsOf (trimEndSlashes text) ↔ segment ∈ segmentsOf text := by
  obtain ⟨n, hn⟩ := exists_trimEndSlashes text
  have hempty : segment ∉ List.replicate n [] := fun hm => h (List.eq_of_mem_replicate hm)
  have hsegments : segmentsOf text = segmentsOf (trimEndSlashes text) ++ List.replicate n [] :=
    (congrArg segmentsOf hn).trans (segmentsOf_append_replicate _ n)
  rw [hsegments, List.mem_append, or_iff_left hempty]

theorem segments_eq_append_bare (topic : String) :
    ∃ n, segments topic = List.replicate n [] ++ segments (bare topic) := by
  obtain ⟨n, hn⟩ := exists_trimStartSlashes topic.toList
  refine ⟨n, ?_⟩
  rw [segments, segments, bare, String.toList_ofList, ← segmentsOf_replicate_append, ← hn]

theorem segmentsMatch_append_of_mem {shared : List (List Char)} (h : multiLevel ∈ shared)
    (topic filter : List (List Char)) :
    segmentsMatch (shared ++ topic) (shared ++ filter) = true := by
  induction shared with
  | nil => simp at h
  | cons segment rest ih =>
    by_cases hmulti : segment = multiLevel
    · simp [segmentsMatch, hmulti]
    · have hrest : multiLevel ∈ rest := (List.mem_cons.mp h).resolve_left (Ne.symm hmulti)
      simp [segmentsMatch, ih hrest]

theorem multiLevel_mem_base_iff (base : String) :
    multiLevel ∈ segmentsOf (trimEndSlashes base.toList) ↔
      multiLevel ∈ base.toList.splitOn '/' := by
  rw [mem_segmentsOf_trimEndSlashes (by simp [multiLevel]), segmentsOf_eq_splitOn]

/-- Under a base the network selects as the filter does without leading slashes on either side,
unless `#` is a segment of the base: then it selects everything. -/
theorem matchesFilter_addPrefix {base : String} (hb : base ≠ "") (topic filter : String) :
    (multiLevel ∉ base.toList.splitOn '/' →
      matchesFilter (addPrefix base topic) (addPrefix base filter) =
        matchesFilter (bare topic) (bare filter)) ∧
    (multiLevel ∈ base.toList.splitOn '/' →
      matchesFilter (addPrefix base topic) (addPrefix base filter) = true) := by
  rw [matchesFilter, segments_addPrefix hb, segments_addPrefix hb, ← multiLevel_mem_base_iff]
  refine ⟨fun hplain => ?_, fun hmulti => ?_⟩
  · rw [segmentsMatch_append _ _ _ hplain, matchesFilter]
  · exact segmentsMatch_append_of_mem hmulti _ _

/-- The segment `+` of a base stands for itself, and its empty segments do no harm. -/
theorem matchesFilter_addPrefix_wildcards :
    ("+//x/" ≠ "" ∧ multiLevel ∉ "+//x/".toList.splitOn '/' ∧
      matchesFilter (addPrefix "+//x/" "//a") (addPrefix "+//x/" "/b") =
        matchesFilter (bare "//a") (bare "/b")) ∧
    ("x/#" ≠ "" ∧ multiLevel ∈ "x/#".toList.splitOn '/' ∧
      matchesFilter (addPrefix "x/#" "a") (addPrefix "x/#" "b") = true) := by
  have hplain : multiLevel ∉ "+//x/".toList.splitOn '/' := by decide
  have hmulti : multiLevel ∈ "x/#".toList.splitOn '/' := by decide
  exact ⟨⟨by decide, hplain, (matchesFilter_addPrefix (by decide) "//a" "/b").1 hplain⟩,
    by decide, hmulti, (matchesFilter_addPrefix (by decide) "a" "b").2 hmulti⟩

theorem addPrefix_eq {base : String} (hb : base ≠ "") (topic : String) :
    addPrefix base topic =
      String.ofList (trimEndSlashes base.toList ++ '/' :: (bare topic).toList) := by
  rw [addPrefix, if_neg hb, bare, String.toList_ofList]

theorem bare_bare (topic : String) : bare (bare topic) = bare topic :=
  bare_eq_self (by rw [bare, String.toList_ofList]; exact trimStartSlashes_head topic.toList)

theorem bare_slashes_append (n : Nat) (topic : String) :
    bare (slashes n ++ topic) = bare topic := by
  rw [bare, String.toList_append, toList_slashes, trimStartSlashes_replicate_append, bare]

theorem append_slashes_ne {base : String} (hb : base ≠ "") (n : Nat) : base ++ slashes n ≠ "" := by
  simp [hb]

theorem trimEndSlashes_append_slashes (base : String) (n : Nat) :
    trimEndSlashes (base ++ slashes n).toList = trimEndSlashes base.toList := by
  rw [String.toList_append, toList_slashes, trimEndSlashes_append_replicate]

theorem addPrefix_slashes {base : String} (hb : base ≠ "") (topic : String) (m n : Nat) :
    addPrefix (base ++ slashes m) (slashes n ++ topic) = addPrefix base topic := by
  rw [addPrefix_eq (append_slashes_ne hb m), addPrefix_eq hb, trimEndSlashes_append_slashes,
    bare_slashes_append]

theorem stripPrefix_slashes {base : String} (hb : base ≠ "") (wire : String) (m : Nat) :
    stripPrefix (base ++ slashes m) wire = stripPrefix base wire := by
  rw [stripPrefix, if_neg (append_slashes_ne hb m), stripPrefix, if_neg hb,
    trimEndSlashes_append_slashes]

theorem addPrefix_eq_iff {base : String} (hb : base ≠ "") {topic other : String} :
    addPrefix base topic = addPrefix base other ↔ bare topic = bare other := by
  constructor
  · intro h
    rw [← stripPrefix_addPrefix hb topic, h, stripPrefix_addPrefix hb]
  · intro h
    rw [addPrefix_eq hb, addPrefix_eq hb, h]

/-- A base is put in front once and taken off once, whatever slashes stand where the two meet. -/
theorem prefix_applied_once (base topic : String) :
    stripPrefix base (addPrefix base topic) = (if base = "" then topic else bare topic) ∧
      addPrefix base (stripPrefix base (addPrefix base topic)) = addPrefix base topic ∧
      (base ≠ "" →
        (∀ m n, addPrefix (base ++ slashes m) (slashes n ++ topic) = addPrefix base topic ∧
          stripPrefix (base ++ slashes m) (addPrefix (base ++ slashes m) (slashes n ++ topic)) =
            stripPrefix base (addPrefix base topic)) ∧
        ∀ other, addPrefix base topic = addPrefix base other ↔ bare topic = bare other) := by
  by_cases hb : base = ""
  · subst hb
    exact ⟨rfl, rfl, fun hne => absurd rfl hne⟩
  · rw [if_neg hb, stripPrefix_addPrefix hb]
    refine ⟨rfl, ?_, fun _ => ⟨fun m n => ?_, fun other => addPrefix_eq_iff hb⟩⟩
    · rw [addPrefix_eq_iff hb, bare_bare]
    · rw [addPrefix_slashes hb, stripPrefix_slashes hb, stripPrefix_addPrefix hb]
      exact ⟨rfl, rfl⟩

/-- A base of slashes alone, and a topic that begins with slashes and has others inside. -/
theorem prefix_applied_once_slashes :
    "//" ≠ "" ∧
      (∀ m n, addPrefix ("//" ++ slashes m) (slashes n ++ "/x//y") = addPrefix "//" "/x//y" ∧
        stripPrefix ("//" ++ slashes m) (addPrefix ("//" ++ slashes m) (slashes n ++ "/x//y")) =
          stripPrefix "//" (addPrefix "//" "/x//y")) ∧
      ∀ other, addPrefix "//" "/x//y" = addPrefix "//" other ↔ bare "/x//y" = bare other := by
  obtain ⟨-, -, h⟩ := prefix_applied_once "//" "/x//y"
  exact ⟨by decide, h (by decide)⟩

end EventBus.Topic
