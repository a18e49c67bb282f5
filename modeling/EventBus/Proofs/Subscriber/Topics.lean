import EventBus.Subscriber

namespace EventBus.Subscriber

theorem watchAlso_cons (topics : List String) (topic : String) (rest : List String) :
    watchAlso topics (topic :: rest) =
      watchAlso (if topic ∈ topics then topics else topics ++ [topic]) rest :=
  rfl

theorem mem_watchAlso {topics more : List String} {filter : String} :
    filter ∈ watchAlso topics more ↔ filter ∈ topics ∨ filter ∈ more := by
  induction more generalizing topics with
  | nil => simp [watchAlso]
  | cons topic rest ih =>
    rw [watchAlso_cons, ih]
    split
    · next h =>
      constructor
      · rintro (hf | hf)
        · exact .inl hf
        · exact .inr (List.mem_cons_of_mem topic hf)
      · rintro (hf | hf)
        · exact .inl hf
        · rcases List.mem_cons.mp hf with rfl | hf
          · exact .inl h
          · exact .inr hf
    · simp [or_assoc]

theorem nodup_watchAlso {topics : List String} (h : topics.Nodup) (more : List String) :
    (watchAlso topics more).Nodup := by
  induction more generalizing topics with
  | nil => exact h
  | cons topic rest ih =>
    rw [watchAlso_cons]
    split
    · exact ih h
    · next hnew =>
      have hone : [topic].Nodup := by simp
      refine ih (List.nodup_append.mpr ⟨h, hone, fun old hold other hother => ?_⟩)
      rw [List.mem_singleton.mp hother]
      exact fun heq => hnew (heq ▸ hold)

theorem watchAlso_of_subset {topics more : List String} (h : ∀ filter ∈ more, filter ∈ topics) :
    watchAlso topics more = topics := by
  induction more with
  | nil => rfl
  | cons topic rest ih =>
    rw [watchAlso_cons, if_pos (h topic List.mem_cons_self)]
    exact ih fun filter hf => h filter (List.mem_cons_of_mem topic hf)

theorem watchAlso_ne_iff {topics more : List String} :
    watchAlso topics more ≠ topics ↔ ∃ filter ∈ more, filter ∉ topics := by
  constructor
  · intro hne
    refine Classical.byContradiction fun hnone => hne (watchAlso_of_subset fun filter hf => ?_)
    exact Classical.byContradiction fun hnew => hnone ⟨filter, hf, hnew⟩
  · rintro ⟨filter, hf, hnew⟩ hsame
    exact hnew (hsame ▸ mem_watchAlso.mpr (.inr hf))

theorem noteChange_topics (s : Subscriber) (changed : Bool) :
    (s.noteChange changed).topics = s.topics := by
  unfold noteChange
  split <;> rfl

theorem changeTopics_topics (s : Subscriber) (topics : List String) :
    (s.changeTopics topics).topics = topics :=
  noteChange_topics (s.setTopics topics) _

theorem addTopics_topics (s : Subscriber) (more : List String) :
    (s.addTopics more).topics = watchAlso s.topics more :=
  changeTopics_topics s _

theorem addTopics_of_subset {s : Subscriber} {more : List String}
    (h : ∀ filter ∈ more, filter ∈ s.topics) : s.addTopics more = s := by
  rw [addTopics, watchAlso_of_subset h, changeTopics, bne_self_eq_false]
  rfl

theorem addTopics_running (s : Subscriber) (more : List String) :
    (s.addTopics more).running = s.running := by
  unfold addTopics changeTopics noteChange
  split <;> rfl

/-- While someone is listening, a topic that is new raises the flag, and nothing else does. -/
theorem addTopics_requested {s : Subscriber} (h : s.running = true) (more : List String) :
    (s.addTopics more).reconnectRequested = true ↔
      s.reconnectRequested = true ∨ ∃ filter ∈ more, filter ∉ s.topics := by
  have hflag : (s.addTopics more).reconnectRequested =
      (s.reconnectRequested || watchAlso s.topics more != s.topics) := by
    unfold addTopics changeTopics noteChange
    cases hchanged : watchAlso s.topics more != s.topics <;> simp [setTopics, h]
  rw [hflag, Bool.or_eq_true, bne_iff_ne, watchAlso_ne_iff]

end EventBus.Subscriber
