import EventBus.Proofs.Service.Growth

namespace EventBus

namespace Subscription

variable {η : Type u}

theorem metadata_declared (t : Subscription η) (key : String) :
    t.declared.metadata.get? key = (t.metadata.get? key).or
      (if sourceKey = key then some (.string "declared") else none) :=
  SortedMap.get?_insertNew t.metadata sourceKey key _

end Subscription

namespace Service

variable {η : Type u} {s : Service η} {list : List (Subscription η)}

theorem enroll_eq (r : Registry η) (t : Subscription η) :
    enroll r t = if t.WellFormed ∧ r.get? t.id = none then ⟨r.byId.insert t.id t⟩ else r := by
  have hanswer := r.answer_register t
  unfold enroll
  generalize r.register t = answer at hanswer
  cases hanswer with
  | noTopics h => exact (if_neg fun hboth => hboth.1.1 h).symm
  | invalidTopic front filter back fault h hfront hbad =>
    refine (if_neg fun hboth => ?_).symm
    rw [hboth.1.2 filter (by simp [h])] at hbad
    cases hbad
  | duplicateId old h hold =>
    refine (if_neg fun hboth => ?_).symm
    rw [hboth.2] at hold
    cases hold
  | registered h hnew => exact (if_pos ⟨h, hnew⟩).symm

theorem get?_enroll (r : Registry η) (t : Subscription η) (id : String) :
    (enroll r t).get? id =
      (r.get? id).or (if t.WellFormed ∧ t.id = id then some t else none) := by
  rw [enroll_eq]
  by_cases hid : t.id = id
  · subst hid
    cases hget : r.get? t.id with
    | some old => simp [hget]
    | none => by_cases hwell : t.WellFormed <;> simp [hwell, hget, Registry.get?_insert]
  · split <;> simp [hid, Registry.get?_insert]

/-- What was there stays, and of the well-formed ones with an id that is free the first is taken. -/
theorem get?_foldl_enroll (list : List (Subscription η)) (r : Registry η) (id : String) :
    (list.foldl enroll r).get? id =
      (r.get? id).or (list.find? fun t => t.WellFormed ∧ t.id = id) := by
  induction list generalizing r with
  | nil => simp
  | cons t rest ih =>
    rw [List.foldl_cons, ih, get?_enroll, Option.or_assoc, List.find?_cons]
    by_cases h : t.WellFormed ∧ t.id = id <;> simp [h]

def Op.asks : Op η → List (Registry.Op η)
  | .register subscription => [.register subscription]
  | .subscribe id topics handler => [.register { id, topics, handler }]
  | .unsubscribe id => [.unregister id]
  | .enable id => [.enable id]
  | .disable id => [.disable id]
  | .start | .stop | .listen _ => []

def asked (ops : List (Op η)) : List (Registry.Op η) := ops.flatMap Op.asks

theorem registry_afterRegister (s : Service η) (t : Subscription η) :
    (s.afterRegister t).registry = (Registry.Op.register t).apply s.registry ∧
      (s.afterRegister t).declarations = s.declarations := by
  cases h : s.registry.register t with
  | error error => simp [afterRegister, register, Registry.Op.apply, h]
  | ok registry =>
    simp only [afterRegister, register, Registry.Op.apply, h, announce]
    split <;> exact ⟨rfl, rfl⟩

theorem registry_start (s : Service η) :
    s.start.registry = (if s.running then s.registry else s.declarations.foldl enroll s.registry) ∧
      (s.running = false → s.start.declarations = []) := by
  unfold start
  by_cases hrunning : s.running = true
  · simp [hrunning]
  · rw [if_neg hrunning, if_neg hrunning]
    exact ⟨rfl, fun _ => rfl⟩

theorem registry_apply (op : Op η) (h : op = .start → s.declarations = []) :
    (op.apply s).registry = op.asks.foldl Registry.Op.apply s.registry ∧
      (op.apply s).declarations = s.declarations := by
  cases op with
  | start =>
    have hnone := h rfl
    obtain ⟨hregistry, hdeclarations⟩ := s.registry_start
    by_cases hrunning : s.running = true
    · rw [Op.apply, start, if_pos hrunning]
      exact ⟨rfl, rfl⟩
    · rw [if_neg hrunning, hnone] at hregistry
      exact ⟨hregistry, (hdeclarations (by simpa using hrunning)).trans hnone.symm⟩
  | stop =>
    simp only [Op.apply, stop]
    split <;> exact ⟨rfl, rfl⟩
  | register t => exact s.registry_afterRegister t
  | subscribe id topics handler => exact s.registry_afterRegister { id, topics, handler }
  | unsubscribe id => exact ⟨rfl, rfl⟩
  | enable id => exact ⟨rfl, rfl⟩
  | disable id => exact ⟨rfl, rfl⟩
  | listen move => exact ⟨rfl, rfl⟩

theorem registry_run (ops : List (Op η)) (h : .start ∈ ops → s.declarations = []) :
    (s.run ops).registry = (asked ops).foldl Registry.Op.apply s.registry ∧
      (s.run ops).declarations = s.declarations := by
  induction ops generalizing s with
  | nil => exact ⟨rfl, rfl⟩
  | cons op ops ih =>
    obtain ⟨hregistry, hdeclarations⟩ :=
      registry_apply op fun hop => h (hop ▸ List.mem_cons_self)
    obtain ⟨hrest, hleft⟩ := @ih (op.apply s) fun hmem =>
      hdeclarations.trans (h (List.mem_cons_of_mem op hmem))
    refine ⟨?_, hleft.trans hdeclarations⟩
    rw [asked, List.flatMap_cons, List.foldl_append, ← hregistry]
    exact hrest

theorem stopped_run {ops : List (Op η)} (h : .start ∉ ops) (hstopped : s.running = false) :
    (s.run ops).running = false := by
  induction ops generalizing s with
  | nil => exact hstopped
  | cons op ops ih =>
    obtain ⟨hop, hops⟩ := not_or.mp (h ∘ List.mem_cons.mpr)
    refine ih hops (Bool.eq_false_iff.mpr fun hrunning => ?_)
    rw [running_of_apply (Ne.symm hop) hrunning] at hstopped
    cases hstopped

/-- What a service has declared enters its registry at the first start and at no other time. By then
the registry is what the operations have asked of it, and from then on it is what they ask of the
one that was found with the declared subscriptions in it: each that was well formed and whose id was
free at its turn, unchanged but for its source. So one that was unsubscribed does not come back,
however often the service is stopped and started. -/
theorem declared_once (settings : ServiceSettings) (broker : Option BrokerSettings)
    (list : List (Subscription η)) :
    let declared := list.map Subscription.declared
    let s : Service η := new settings broker declared
    (∀ t : Subscription η, t.declared = { t with metadata := t.declared.metadata } ∧
      ∀ key, t.declared.metadata.get? key = (t.metadata.get? key).or
        (if Subscription.sourceKey = key then some (.string "declared") else none)) ∧
    (∀ (r : Registry η) (t : Subscription η), enroll r t =
      if t.WellFormed ∧ r.get? t.id = none then ⟨r.byId.insert t.id t⟩ else r) ∧
    ∀ front, .start ∉ front →
      let before := (s.run front).registry
      let enrolled := declared.foldl enroll before
      (s.run front).running = false ∧ before = .run (asked front) ∧
      (∀ id, enrolled.get? id =
        (before.get? id).or (declared.find? fun t => t.WellFormed ∧ t.id = id)) ∧
      ∀ back,
        let after := s.run (front ++ .start :: back)
        after.registry = (asked back).foldl Registry.Op.apply enrolled ∧
        after.start.registry = after.registry ∧ after.stop.registry = after.registry ∧
        ∀ early id late, back = early ++ .unsubscribe id :: late →
          (∀ t, .register t ∈ asked late → t.id ≠ id) → after.registry.get? id = none := by
  intro declared s
  refine ⟨fun t => ⟨rfl, t.metadata_declared⟩, enroll_eq, fun front hfront => ?_⟩
  intro before enrolled
  obtain ⟨hbefore, hleft⟩ := @registry_run _ s front fun hmem => absurd hmem hfront
  have hstopped : (s.run front).running = false := stopped_run hfront rfl
  refine ⟨hstopped, hbefore, get?_foldl_enroll declared before, fun back => ?_⟩
  intro after
  obtain ⟨hregistry, hnone⟩ := (s.run front).registry_start
  rw [hstopped, if_neg Bool.false_ne_true, hleft] at hregistry
  obtain ⟨hafter, hlater⟩ :=
    @registry_run _ (s.run front).start back fun _ => hnone hstopped
  have hsplit : after = (s.run front).start.run back := s.run_append front (.start :: back)
  rw [hregistry, ← hsplit] at hafter
  rw [hnone hstopped, ← hsplit] at hlater
  refine ⟨hafter, (registry_apply .start fun _ => hlater).1,
    (registry_apply .stop nofun).1, ?_⟩
  rintro early id late rfl hfree
  rw [hafter, asked, List.flatMap_append, List.flatMap_cons, List.foldl_append, List.foldl_append]
  refine Registry.get?_foldl_of_none ?_ hfree
  exact (SortedMap.get?_erase _ id id).trans (if_pos rfl)

/-- An id that comes twice, one that is taken and a filter that is not well formed. What was
unsubscribed is not there after the next start. -/
theorem declared_once_mixed :
    let list : List (Subscription Nat) :=
      [{ id := "a", topics := ["x"], handler := 1 }, { id := "a", topics := ["y"], handler := 2 },
        { id := "old", topics := ["z"], handler := 3 },
        { id := "b", topics := ["a/#/b"], handler := 4 },
        { id := "c", topics := ["x"], handler := 5, enabled := false }]
    let s : Service Nat := new .standard (some (.standard "c")) (list.map .declared)
    let front : List (Op Nat) := [.register { id := "old", topics := ["+"], handler := 0 }, .stop]
    let back : List (Op Nat) := [.unsubscribe "a", .stop, .start]
    let handler (r : Registry Nat) (id : String) : Option Nat := (r.get? id).map (·.handler)
    .start ∉ front ∧
      ["old", "a", "b", "c"].map (handler (s.run front).registry) = [some 0, none, none, none] ∧
      ["old", "a", "b", "c"].map (handler (s.run (front ++ [.start])).registry) =
        [some 0, some 1, none, some 5] ∧
      (s.run (front ++ .start :: back)).registry.get? "a" = none := by
  intro list s front back handler
  have hfront : .start ∉ front := by simp [front]
  obtain ⟨-, -, hruns⟩ := declared_once .standard (some (.standard "c")) list
  obtain ⟨-, -, hfound, hlater⟩ := hruns front hfront
  have henrolled : ∀ id, (s.run (front ++ [.start])).registry.get? id = _ := fun id =>
    (congrArg (·.get? id) (hlater []).1).trans (hfound id)
  refine ⟨hfront, ?_, ?_, ?_⟩
  · rfl
  · simp only [List.map_cons, List.map_nil, handler, henrolled]
    rfl
  · exact (hlater back).2.2.2 [] "a" [.stop, .start] rfl nofun

end Service
end EventBus
