import EventBus.Connection.Retry
import EventBus.Proofs.Config.Validity
import EventBus.Proofs.Duration

namespace EventBus

open Duration

namespace BrokerSettings

theorem Valid.reconnectDelay {s : BrokerSettings} (h : s.Valid)
    (hs : s.reconnectInterval.Normal) :
    s.reconnectDelay.nanoseconds =
      if s.reconnectInterval.units < limit then rounded s.reconnectInterval else 0 :=
  nanoseconds_ofDouble? h.finite h.nonneg hs

theorem Valid.reconnectDelay_le_iff {s t : BrokerSettings} (h : s.Valid) (h' : t.Valid)
    (hs : s.reconnectInterval.Normal) (ht : t.reconnectInterval.Normal)
    (hle : s.reconnectInterval.units ≤ t.reconnectInterval.units) :
    s.reconnectDelay ≤ t.reconnectDelay ↔
      t.reconnectInterval.units < limit ∨ limit ≤ s.reconnectInterval.units ∨
        2 * (s.reconnectInterval.units * 10 ^ 9) ≤ Double.one := by
  rw [Duration.le_iff, h.reconnectDelay hs, h'.reconnectDelay ht]
  by_cases htime : t.reconnectInterval.units < limit
  · rw [if_pos htime, if_pos (Nat.lt_of_le_of_lt hle htime)]
    exact iff_of_true (rounded_mono hle) (.inl htime)
  · rw [if_neg htime, ← rounded_eq_zero, or_iff_right htime, Nat.le_zero]
    by_cases hlong : s.reconnectInterval.units < limit
    · rw [if_pos hlong, or_iff_right (Nat.not_le_of_lt hlong)]
    · rw [if_neg hlong]
      exact iff_of_true rfl (.inl (Nat.le_of_not_lt hlong))

end BrokerSettings

namespace Connection.RetryPolicy

/-- Of two accepted settings the one with the longer interval waits at least as long, unless its
interval is no length of time, `2 ^ 64` seconds or more, and the other one is and does not round to
nothing. -/
theorem delay_le_iff {s t : BrokerSettings} (hs : s.validate = .ok ()) (ht : t.validate = .ok ())
    (hsn : s.reconnectInterval.Normal) (htn : t.reconnectInterval.Normal)
    (hle : s.reconnectInterval.signedUnits ≤ t.reconnectInterval.signedUnits) :
    (s.reconnectDelay ≤ t.reconnectDelay ↔
      t.reconnectInterval.units < limit ∨ limit ≤ s.reconnectInterval.units ∨
        2 * (s.reconnectInterval.units * 10 ^ 9) ≤ Double.one) ∧
      ((ofSettings s).delay ≤ (ofSettings t).delay ↔ s.reconnectDelay ≤ t.reconnectDelay) := by
  have hvalid := BrokerSettings.validate_eq_ok.mp hs
  have hvalid' := BrokerSettings.validate_eq_ok.mp ht
  have hunits : s.reconnectInterval.units ≤ t.reconnectInterval.units := by
    rw [Double.signedUnits_of_nonneg hvalid.finite hvalid.nonneg,
      Double.signedUnits_of_nonneg hvalid'.finite hvalid'.nonneg] at hle
    exact Int.ofNat_le.mp hle
  exact ⟨hvalid.reconnectDelay_le_iff hvalid' hsn htn hunits, Iff.rfl⟩

/-- Standard settings but for how long they wait. -/
def waiting (interval : Double) : BrokerSettings :=
  { BrokerSettings.standard "c" with reconnectInterval := interval }

theorem validate_waiting {interval : Double} (hfinite : interval.isFinite = true)
    (hsign : interval.lt (.zero false) = false) : (waiting interval).validate = .ok () := by
  have hstandard : (BrokerSettings.standard "c").Valid := BrokerSettings.valid_standard (by decide)
  exact BrokerSettings.validate_eq_ok.mpr (hstandard.withInterval hfinite hsign)

/-- A second, and the longest interval there is a wait for. -/
theorem delay_le_iff_longest :
    let s := waiting (.finite false (2 ^ 52) 1022)
    let t := waiting (.finite false (2 ^ 53 - 1) 1085)
    s.validate = .ok () ∧ t.validate = .ok () ∧ s.reconnectInterval.Normal ∧
      t.reconnectInterval.Normal ∧
      s.reconnectInterval.signedUnits ≤ t.reconnectInterval.signedUnits ∧
      t.reconnectInterval.units < limit ∧ s.reconnectDelay ≤ t.reconnectDelay := by
  intro s t
  have hs : s.validate = .ok () := validate_waiting rfl (by decide +kernel)
  have ht : t.validate = .ok () := validate_waiting rfl (by decide +kernel)
  have hsn : s.reconnectInterval.Normal := ⟨by decide, .inl (by decide), by decide⟩
  have htn : t.reconnectInterval.Normal := ⟨by decide, .inl (by decide), by decide⟩
  have hle : s.reconnectInterval.signedUnits ≤ t.reconnectInterval.signedUnits := by decide +kernel
  have hlimit : t.reconnectInterval.units < limit := by decide +kernel
  exact ⟨hs, ht, hsn, htn, hle, hlimit, (delay_le_iff hs ht hsn htn hle).1.mpr (.inl hlimit)⟩

/-- After a second there is a wait of a second, after `2 ^ 64` of them there is none. -/
theorem delay_not_monotone :
    let s := waiting (.ofNat 1)
    let t := waiting (.ofNat (2 ^ 64))
    s.validate = .ok () ∧ t.validate = .ok () ∧
      s.reconnectInterval.signedUnits ≤ t.reconnectInterval.signedUnits ∧
      s.reconnectDelay = .ofSeconds 1 ∧ t.reconnectDelay = .zero ∧
      ¬(ofSettings s).delay ≤ (ofSettings t).delay := by
  have hs : (waiting (.ofNat 1)).validate = .ok () :=
    validate_waiting (by decide +kernel) (by decide +kernel)
  have ht : (waiting (.ofNat (2 ^ 64))).validate = .ok () :=
    validate_waiting (by decide +kernel) (by decide +kernel)
  exact ⟨hs, ht, by decide +kernel⟩

end Connection.RetryPolicy
end EventBus
