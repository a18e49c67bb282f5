import EventBus.Config

namespace EventBus

theorem check_eq_ok {ε : Type u} {p : Prop} [Decidable p] {fault : ε} {others : Except ε Unit} :
    (if p then .error fault else others) = .ok () ↔ ¬p ∧ others = .ok () := by
  by_cases h : p <;> simp [h]

namespace BrokerSettings

structure Valid (s : BrokerSettings) : Prop where
  host : Text.allBlank s.host = false
  port : s.port ≠ 0
  clientId : Text.allBlank s.clientId = false
  keepAlive : minKeepAlive ≤ s.keepAlive
  finite : s.reconnectInterval.isFinite = true
  nonneg : s.reconnectInterval.lt (.zero false) = false
  certificate : s.certFile.isSome = s.keyFile.isSome

theorem validate_eq_ok {s : BrokerSettings} : s.validate = .ok () ↔ s.Valid := by
  have hinterval : ¬(!s.reconnectInterval.isFinite || s.reconnectInterval.lt (.zero false)) = true ↔
      s.reconnectInterval.isFinite = true ∧ s.reconnectInterval.lt (.zero false) = false := by
    simp
  simp only [validate, check_eq_ok, hinterval]
  constructor
  · rintro ⟨hhost, hport, hclient, hkeep, ⟨hfinite, hnonneg⟩, hcertificate, -⟩
    exact ⟨Bool.eq_false_iff.mpr hhost, hport, Bool.eq_false_iff.mpr hclient,
      UInt64.not_lt.mp hkeep, hfinite, hnonneg, Decidable.not_not.mp hcertificate⟩
  · rintro ⟨hhost, hport, hclient, hkeep, hfinite, hnonneg, hcertificate⟩
    exact ⟨Bool.eq_false_iff.mp hhost, hport, Bool.eq_false_iff.mp hclient,
      UInt64.not_lt.mpr hkeep, ⟨hfinite, hnonneg⟩, Decidable.not_not.mpr hcertificate, trivial⟩

theorem five_seconds : Double.ofNat 5 = .finite false (5 * 2 ^ 50) 1024 := by decide +kernel

theorem valid_standard {clientId : String} (h : Text.allBlank clientId = false) :
    (standard clientId).Valid := by
  have hinterval : (standard clientId).reconnectInterval = .finite false (5 * 2 ^ 50) 1024 := by
    simp only [standard, five_seconds]
  constructor
  case host => exact show Text.allBlank "localhost" = false by decide
  case port => exact show (1883 : UInt16) ≠ 0 by decide
  case clientId => exact h
  case keepAlive => exact show minKeepAlive ≤ 60 by decide
  case finite =>
    rw [hinterval]
    rfl
  case nonneg =>
    rw [hinterval]
    decide +kernel
  case certificate => rfl

theorem Valid.withInterval {s : BrokerSettings} (h : s.Valid) {interval : Double}
    (hfinite : interval.isFinite = true) (hsign : interval.lt (.zero false) = false) :
    { s with reconnectInterval := interval }.Valid :=
  ⟨h.host, h.port, h.clientId, h.keepAlive, hfinite, hsign, h.certificate⟩

theorem Valid.withBroker {s : BrokerSettings} (h : s.Valid) {host : String} {port : UInt16}
    (hhost : Text.allBlank host = false) (hport : port ≠ 0) (useTls : Bool)
    (username password : Option String) :
    { s with host, port, useTls, username, password }.Valid :=
  ⟨hhost, hport, h.clientId, h.keepAlive, h.finite, h.nonneg, h.certificate⟩

theorem validate_withClient {s : BrokerSettings} {clientId : String}
    (hs : Text.allBlank s.clientId = false) (h : Text.allBlank clientId = false) (base : String) :
    { s with topicPrefix := base, clientId := clientId }.validate = s.validate := by
  simp only [validate, hs, h]

theorem validate_of_portZero {s : BrokerSettings} (hhost : Text.allBlank s.host = false)
    (hport : s.port = 0) : s.validate = .error .portZero := by
  simp [validate, hhost, hport]

end BrokerSettings

namespace Config

theorem validate_eq_ok {c : Config} : c.validate = .ok () ↔
    (∀ s ∈ c.broker, s.Valid) ∧ c.service.maxHandlers ≠ 0 ∧
      ∀ spec ∈ c.subscriptions, Text.allBlank spec.id = false := by
  have hbroker : c.broker.elim (.ok ()) BrokerSettings.validate = .ok () ↔
      ∀ s ∈ c.broker, s.Valid := by
    cases c.broker <;> simp [BrokerSettings.validate_eq_ok]
  rw [← hbroker, validate]
  split
  · next heq => simp [heq]
  · next heq => simp [heq, check_eq_ok]

theorem validate_of_broker {c : Config} (h : c.validate = .ok ()) (s : BrokerSettings) :
    { c with broker := some s }.validate = s.validate := by
  obtain ⟨-, hhandlers, hids⟩ := validate_eq_ok.mp h
  have hblank : ¬c.subscriptions.any (fun spec => Text.allBlank spec.id) = true := by
    simpa using hids
  rw [validate, Option.elim_some, if_neg hhandlers, if_neg hblank]
  cases s.validate <;> rfl

end Config
end EventBus
