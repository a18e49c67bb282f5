import EventBus.Config
import EventBus.Proofs.Subscription.History
import EventBus.Proofs.Topic.Plan

namespace EventBus.Registry

variable {η : Type u}

theorem validateFilter_of_mem_topics {ops : List (Op η)} {filter : String}
    (h : filter ∈ (run ops).topics) : Topic.validateFilter filter = .ok () := by
  obtain ⟨s, hget, -, hfilter⟩ := (keyed_run ops).mem_topics.mp h
  obtain ⟨-, hwell⟩ := keyed_run ops s.id s hget
  exact hwell.2 filter hfilter

/-- The settings are checked without their base. Whatever was registered, each filter of the plan is
accepted just if the base leads: all of them are under a base that does, the empty one included, and
none under any other. -/
theorem plan_accepted_iff (settings : BrokerSettings) (ops : List (Op η)) :
    (∀ base, { settings with topicPrefix := base }.validate = settings.validate) ∧
      ∀ filter ∈ Topic.plan settings.topicPrefix (run ops).topics,
        Topic.validateFilter filter = .ok () ↔ Topic.Leads settings.topicPrefix := by
  refine ⟨fun base => rfl, fun filter hplan => ?_⟩
  obtain ⟨topic, htopic, rfl⟩ := Topic.mem_plan.mp hplan
  exact Topic.validateFilter_addPrefix (validateFilter_of_mem_topics htopic)

def subscribedTo (filter : String) : Registry Unit :=
  run [.register { id := "a", topics := [filter], handler := () }]

theorem plan_accepted_iff_wildcards :
    let settings := { BrokerSettings.standard "a" with topicPrefix := "+//" }
    "+/#" ∈ Topic.plan settings.topicPrefix (subscribedTo "/#").topics ∧
      (Topic.validateFilter "+/#" = .ok () ↔ Topic.Leads settings.topicPrefix) := by
  intro settings
  have hplan : "+/#" ∈ Topic.plan settings.topicPrefix (subscribedTo "/#").topics := by decide
  exact ⟨hplan, (plan_accepted_iff settings _).2 "+/#" hplan⟩

/-- With the base `site#1` the settings are accepted, and what is planned for the filter `x` is
not. -/
theorem plan_not_accepted_under_hash :
    let settings := { BrokerSettings.standard "a" with topicPrefix := "site#1" }
    settings.validate = .ok () ∧
      ¬∀ filter ∈ Topic.plan settings.topicPrefix (subscribedTo "x").topics,
        Topic.validateFilter filter = .ok () := by
  intro settings
  refine ⟨by decide +kernel, fun hall => ?_⟩
  have hplan : "site#1/x" ∈ Topic.plan settings.topicPrefix (subscribedTo "x").topics := by decide
  have hrefused : Topic.validateFilter "site#1/x" = .error (.partialWildcard '#') := rfl
  have haccepted := hall "site#1/x" hplan
  rw [hrefused] at haccepted
  cases haccepted

end EventBus.Registry
