import EventBus.Proofs.Subscription.Registry
import Mathlib.Data.List.Induction

namespace EventBus.Registry

variable {η : Type u} {r : Registry η} {s : Subscription η} {id : String}

inductive Op (η : Type u) where
  | register (subscription : Subscription η)
  | unregister (id : String)
  | enable (id : String)
  | disable (id : String)
  | clear

namespace Op

/-- A subscription that is refused leaves the registry as it was. -/
def apply (r : Registry η) : Op η → Registry η
  | .register subscription =>
    match r.register subscription with
    | .ok after => after
    | .error _ => r
  | .unregister id => r.unregister id
  | .enable id => r.setEnabled id true
  | .disable id => r.setEnabled id false
  | .clear => r.clear

/-- The subscription is refused, or nobody has the id. -/
def Fails (r : Registry η) : Op η → Prop
  | .register subscription => ∃ error, r.register subscription = .error error
  | .unregister id | .enable id | .disable id => r.get? id = none
  | .clear => False

/-- Whether it takes the subscription with an id away. -/
def removes (id : String) : Op η → Bool
  | .unregister other => other = id
  | .clear => true
  | .register _ | .enable _ | .disable _ => false

/-- The flag of the subscription with an id, from the flag that it had. -/
def flag (id : String) (before : Bool) : Op η → Bool
  | .enable other => if other = id then true else before
  | .disable other => if other = id then false else before
  | .register _ | .unregister _ | .clear => before

end Op

def run (ops : List (Op η)) : Registry η := ops.foldl Op.apply empty

theorem get?_setEnabled_of_ne {other : String} {flag : Bool} (h : id ≠ other) :
    (r.setEnabled other flag).get? id = r.get? id := by
  have hadjust := SortedMap.get?_adjust r.byId other id fun s => { s with enabled := flag }
  rw [if_neg h] at hadjust
  exact hadjust

/-- A subscription that is there stays, with its flag, unless it is taken away. Nothing that is
registered meanwhile takes its place. -/
theorem get?_apply_of_some (h : r.get? id = some s) (op : Op η) :
    (op.apply r).get? id =
      if op.removes id then none else some { s with enabled := op.flag id s.enabled } := by
  cases op with
  | register t =>
    simp only [Op.apply, Op.removes, Op.flag, Bool.false_eq_true, if_false]
    split
    · next after hreg =>
      have hne : t.id ≠ id := by
        intro hid
        have hnone := get?_of_register hreg
        rw [hid, h] at hnone
        cases hnone
      rw [get?_of_register_ok hreg, if_neg hne]
      exact h
    · exact h
  | unregister other =>
    have herase := SortedMap.get?_erase r.byId other id
    simp only [Op.apply, Op.removes, Op.flag, decide_eq_true_eq]
    split
    · next hid => exact herase.trans (if_pos hid)
    · next hid => exact (herase.trans (if_neg hid)).trans h
  | enable other =>
    simp only [Op.apply, Op.removes, Op.flag, Bool.false_eq_true, if_false]
    split
    · next hid =>
      subst hid
      exact get?_setEnabled h
    · next hid =>
      rw [get?_setEnabled_of_ne (Ne.symm hid)]
      exact h
  | disable other =>
    simp only [Op.apply, Op.removes, Op.flag, Bool.false_eq_true, if_false]
    split
    · next hid =>
      subst hid
      exact get?_setEnabled h
    · next hid =>
      rw [get?_setEnabled_of_ne (Ne.symm hid)]
      exact h
  | clear => rfl

theorem register_of_get?_apply (h : r.get? id = none) {op : Op η}
    (hs : (op.apply r).get? id = some s) :
    op = .register s ∧ s.id = id ∧ ∃ after, r.register s = .ok after := by
  cases op with
  | register t =>
    simp only [Op.apply] at hs
    split at hs
    · next after hreg =>
      rw [get?_of_register_ok hreg] at hs
      split at hs
      · next hid =>
        obtain rfl := Option.some.inj hs
        exact ⟨rfl, hid, after, hreg⟩
      · rw [h] at hs
        cases hs
    · rw [h] at hs
      cases hs
  | unregister other =>
    have herase := SortedMap.get?_erase r.byId other id
    have hnone : (r.unregister other).get? id = none := by
      refine herase.trans ?_
      split
      · rfl
      · exact h
    rw [Op.apply, hnone] at hs
    cases hs
  | enable other | disable other =>
    have hadjust := fun flag : Bool =>
      SortedMap.get?_adjust r.byId other id fun s => { s with enabled := flag }
    have hget : r.byId.get? id = none := h
    simp only [hget, Option.map_none, ite_self] at hadjust
    simp only [Op.apply, get?, setEnabled, hadjust] at hs
    cases hs
  | clear => cases hs

theorem apply_of_fails {op : Op η} (h : op.Fails r) : op.apply r = r := by
  cases op with
  | register t =>
    obtain ⟨error, herror⟩ := h
    simp only [Op.apply, herror]
  | unregister id => exact congrArg Registry.mk (SortedMap.erase_of_get?_none h)
  | enable id => exact congrArg Registry.mk (SortedMap.adjust_of_get?_none h _)
  | disable id => exact congrArg Registry.mk (SortedMap.adjust_of_get?_none h _)
  | clear => cases h

theorem run_append (front back : List (Op η)) :
    run (front ++ back) = back.foldl Op.apply (run front) := List.foldl_append

theorem get?_foldl_of_some {ops : List (Op η)} (h : r.get? id = some s)
    (hstays : ∀ op ∈ ops, op.removes id = false) :
    (ops.foldl Op.apply r).get? id =
      some { s with enabled := ops.foldl (Op.flag id) s.enabled } := by
  induction ops generalizing r s with
  | nil => exact h
  | cons op ops ih =>
    have hop := get?_apply_of_some h op
    rw [hstays op List.mem_cons_self, if_neg Bool.false_ne_true] at hop
    exact ih hop fun other hother => hstays other (List.mem_cons_of_mem op hother)

theorem get?_foldl_of_none {ops : List (Op η)} (h : r.get? id = none)
    (hfree : ∀ t, .register t ∈ ops → t.id ≠ id) : (ops.foldl Op.apply r).get? id = none := by
  induction ops generalizing r with
  | nil => exact h
  | cons op ops ih =>
    refine ih ?_ fun t ht => hfree t (List.mem_cons_of_mem op ht)
    cases hget : (op.apply r).get? id with
    | none => rfl
    | some s =>
      obtain ⟨rfl, hid, -⟩ := register_of_get?_apply h hget
      exact absurd hid (hfree s List.mem_cons_self)

/-- The subscription that was last registered under an id, with the flag that it was last given. -/
def LastUnder (ops : List (Op η)) (id : String) (s : Subscription η) : Prop :=
  ∃ front t back, ops = front ++ .register t :: back ∧ t.id = id ∧
    (∃ after, (run front).register t = .ok after) ∧ (∀ op ∈ back, op.removes id = false) ∧
    s = { t with enabled := back.foldl (Op.flag id) t.enabled }

theorem get?_of_lastUnder {ops : List (Op η)} (h : LastUnder ops id s) :
    (run ops).get? id = some s := by
  obtain ⟨front, t, back, rfl, rfl, ⟨after, hreg⟩, hstays, rfl⟩ := h
  have hgot : ((Op.register t).apply (run front)).get? t.id = some t := by
    simp only [Op.apply, hreg]
    rw [get?_of_register_ok hreg, if_pos rfl]
  rw [run_append, List.foldl_cons]
  exact get?_foldl_of_some hgot hstays

theorem LastUnder.append {ops : List (Op η)} {op : Op η} (h : LastUnder ops id s)
    (hstays : op.removes id = false) :
    LastUnder (ops ++ [op]) id { s with enabled := op.flag id s.enabled } := by
  obtain ⟨front, t, back, rfl, hid, hreg, hback, rfl⟩ := h
  refine ⟨front, t, back ++ [op], by simp, hid, hreg, ?_, by simp⟩
  intro other hother
  rcases List.mem_append.mp hother with hother | hother
  · exact hback other hother
  · rw [List.mem_singleton.mp hother]
    exact hstays

theorem lastUnder_of_get? {ops : List (Op η)} (h : (run ops).get? id = some s) :
    LastUnder ops id s := by
  induction ops using List.reverseRecOn generalizing s with
  | nil => cases h
  | append_singleton ops op ih =>
    rw [run_append, List.foldl_cons, List.foldl_nil] at h
    cases hbefore : (run ops).get? id with
    | none =>
      obtain ⟨rfl, hid, hreg⟩ := register_of_get?_apply hbefore h
      exact ⟨ops, s, [], rfl, hid, hreg, by simp, rfl⟩
    | some old =>
      rw [get?_apply_of_some hbefore op] at h
      split at h
      · cases h
      · next hstays =>
        obtain rfl := Option.some.inj h
        exact (ih hbefore).append (by simpa using hstays)

theorem get?_run_iff {ops : List (Op η)} : (run ops).get? id = some s ↔ LastUnder ops id s :=
  ⟨lastUnder_of_get?, get?_of_lastUnder⟩

/-- Every subscription stands under its own id, and its filters are well formed. -/
def Keyed (r : Registry η) : Prop :=
  ∀ id s, r.get? id = some s → s.id = id ∧ s.WellFormed

theorem keyed_run (ops : List (Op η)) : (run ops).Keyed := by
  intro id s h
  obtain ⟨front, t, back, -, hid, ⟨after, hreg⟩, -, rfl⟩ := lastUnder_of_get? h
  have hwell : t.WellFormed := wellFormed_of_register hreg
  exact ⟨hid, hwell⟩

theorem Keyed.mem_all (h : r.Keyed) : s ∈ r.all ↔ r.get? s.id = some s := by
  rw [mem_all_iff]
  constructor
  · rintro ⟨id, hget⟩
    rw [(h id s hget).1]
    exact hget
  · exact fun hget => ⟨s.id, hget⟩

theorem mem_matching {topic : String} :
    s ∈ r.matching topic ↔
      s ∈ r.enabled ∧ ∃ filter ∈ s.topics, Topic.matchesFilter topic filter := by
  rw [matching, List.mem_filter, Subscription.wants, List.any_eq_true]

theorem Keyed.mem_matching (h : r.Keyed) {topic : String} :
    s ∈ r.matching topic ↔ r.get? s.id = some s ∧ s.enabled = true ∧
      ∃ filter ∈ s.topics, Topic.matchesFilter topic filter := by
  rw [Registry.mem_matching, mem_enabled, h.mem_all, and_assoc]

theorem Keyed.ascending_all (h : r.Keyed) : r.all.Pairwise fun a b => a.id < b.id := by
  have hkeys : ∀ e ∈ r.byId.entries, e.2.id = e.1 := fun e he =>
    (h e.1 e.2 (Entries.find?_of_mem r.byId.ascending he)).1
  refine List.pairwise_map.mpr (List.Pairwise.imp_of_mem ?_ r.byId.ascending)
  intro a b ha hb hlt
  rw [hkeys a ha, hkeys b hb]
  exact hlt

theorem Keyed.ascending_matching (h : r.Keyed) (topic : String) :
    (r.matching topic).Pairwise fun a b => a.id < b.id :=
  (h.ascending_all.filter _).filter _

theorem Keyed.mem_topics (h : r.Keyed) {filter : String} :
    filter ∈ r.topics ↔
      ∃ s, r.get? s.id = some s ∧ s.enabled = true ∧ filter ∈ s.topics := by
  rw [Registry.mem_topics]
  constructor
  · rintro ⟨s, hs, hf⟩
    obtain ⟨hall, henabled⟩ := mem_enabled.mp hs
    exact ⟨s, h.mem_all.mp hall, henabled, hf⟩
  · rintro ⟨s, hget, henabled, hf⟩
    exact ⟨s, mem_enabled.mpr ⟨h.mem_all.mpr hget, henabled⟩, hf⟩

theorem ascending_topics (r : Registry η) : r.topics.Pairwise (· < ·) :=
  Entries.ascending_keys_ofList _

theorem matching_ne_nil_iff (r : Registry η) (topic : String) :
    r.matching topic ≠ [] ↔ ∃ filter ∈ r.topics, Topic.matchesFilter topic filter := by
  constructor
  · intro h
    obtain ⟨s, hs⟩ := List.exists_mem_of_ne_nil _ h
    obtain ⟨henabled, filter, hf, hm⟩ := mem_matching.mp hs
    exact ⟨filter, Registry.mem_topics.mpr ⟨s, henabled, hf⟩, hm⟩
  · rintro ⟨filter, hf, hm⟩
    obtain ⟨s, henabled, hs⟩ := Registry.mem_topics.mp hf
    exact List.ne_nil_of_mem (mem_matching.mpr ⟨henabled, filter, hs, hm⟩)

structure Follows (ops : List (Op η)) (r : Registry η) : Prop where
  last : ∀ id s, r.get? id = some s ↔ LastUnder ops id s
  keyed : r.Keyed
  answer : ∀ s, Answer r s (r.register s)
  failure : ∀ op : Op η, op.Fails r → op.apply r = r
  matching : ∀ topic s, s ∈ r.matching topic ↔ r.get? s.id = some s ∧ s.enabled = true ∧
    ∃ filter ∈ s.topics, Topic.matchesFilter topic filter
  inOrder : ∀ topic, (r.matching topic).Pairwise fun a b => a.id < b.id
  topics : ∀ filter, filter ∈ r.topics ↔
    ∃ s, r.get? s.id = some s ∧ s.enabled = true ∧ filter ∈ s.topics
  topicsInOrder : r.topics.Pairwise (· < ·)
  agree : ∀ topic, r.matching topic ≠ [] ↔ ∃ filter ∈ r.topics, Topic.matchesFilter topic filter

/-- A registry is the finite map that its history says, and its views are read off from the map. -/
theorem run_follows (ops : List (Op η)) : Follows ops (run ops) := by
  have hkeyed := keyed_run ops
  exact {
    last := fun _ _ => get?_run_iff
    keyed := hkeyed
    answer := answer_register _
    failure := fun _ => apply_of_fails
    matching := fun _ _ => hkeyed.mem_matching
    inOrder := hkeyed.ascending_matching
    topics := fun _ => hkeyed.mem_topics
    topicsInOrder := ascending_topics _
    agree := matching_ne_nil_iff _ }

end EventBus.Registry
