import EventBus.Duration
import EventBus.Proofs.Double

namespace EventBus.Duration

/-- What no length of time reaches, in units of a double. -/
def limit : Nat := 2 ^ 64 * Double.one

theorem le_iff {d e : Duration} : d ≤ e ↔ d.nanoseconds ≤ e.nanoseconds := Iff.rfl

/-- A number of seconds in nanoseconds, whether it is a length of time or not. -/
def rounded (x : Double) : Nat := roundHalfEven (x.units * 10 ^ 9) Double.one

theorem rounded_mono {x y : Double} (h : x.units ≤ y.units) : rounded x ≤ rounded y :=
  roundHalfEven_mono (Nat.mul_le_mul_right _ h) _

theorem rounded_eq_zero {x : Double} : rounded x = 0 ↔ 2 * (x.units * 10 ^ 9) ≤ Double.one :=
  roundHalfEven_eq_zero Double.one_pos

theorem rounded_lt_iff {x : Double} (hx : x.Normal) :
    rounded x < 2 ^ 64 * 10 ^ 9 ↔ x.units < limit := by
  constructor
  · intro h
    refine Nat.lt_of_not_le fun hlarge => ?_
    have hunits : 2 ^ 64 * 10 ^ 9 * Double.one ≤ x.units * 10 ^ 9 := by
      rw [Nat.mul_right_comm]
      exact Nat.mul_le_mul_right _ hlarge
    have hround := roundHalfEven_mono hunits Double.one
    rw [roundHalfEven_mul _ Double.one_pos] at hround
    exact Nat.not_lt_of_le hround h
  · intro h
    have hlimit : limit = 2 ^ (1085 + 53) := by decide +kernel
    have hgap : (2 ^ (1085 + 53) - 2 ^ 1085) * 10 ^ 9 =
        (2 ^ 64 - 2 ^ 11) * 10 ^ 9 * Double.one := by decide +kernel
    rw [hlimit] at h
    have hunits := Nat.mul_le_mul_right (10 ^ 9) (hx.units_le h)
    rw [hgap] at hunits
    have hround := roundHalfEven_mono hunits Double.one
    rw [roundHalfEven_mul _ Double.one_pos] at hround
    exact Nat.lt_of_le_of_lt hround (by decide)

theorem ofDouble?_of_nonneg {x : Double} (hfinite : x.isFinite = true)
    (hsign : x.lt (.zero false) = false) :
    ofDouble? x = if h : rounded x < 2 ^ 64 * 10 ^ 9 then some ⟨rounded x, h⟩ else none := by
  simp only [ofDouble?, hfinite, hsign, Bool.not_false, Bool.and_self, if_true]
  rfl

theorem nanoseconds_ofDouble? {x : Double} (hfinite : x.isFinite = true)
    (hsign : x.lt (.zero false) = false) (hx : x.Normal) :
    ((ofDouble? x).getD zero).nanoseconds = if x.units < limit then rounded x else 0 := by
  rw [ofDouble?_of_nonneg hfinite hsign]
  by_cases h : x.units < limit
  · rw [dif_pos ((rounded_lt_iff hx).mpr h), if_pos h, Option.getD_some]
  · rw [dif_neg (mt (rounded_lt_iff hx).mp h), if_neg h, Option.getD_none]
    rfl

end EventBus.Duration
