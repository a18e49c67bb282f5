import EventBus.Connection.Refresh
import EventBus.Proofs.Calendar
import EventBus.Proofs.Duration

namespace EventBus

namespace Timestamp

/-- Nanoseconds from 1970 on, leap seconds left out. -/
def instant (t : Timestamp) : Int := t.seconds * 10 ^ 9 + t.nanoseconds

/-- A time of the years from 0 to 9999, and of no leap second. -/
structure Civil (t : Timestamp) : Prop where
  year_nonneg : 0 ≤ t.date.year
  year_le : t.date.year ≤ 9999
  nanoseconds_lt : t.nanoseconds < 10 ^ 9

variable {t earlier later : Timestamp}

theorem Civil.difference (hl : later.Civil) (he : earlier.Civil) :
    later.difference earlier = later.instant - earlier.instant := by
  have hlater := hl.nanoseconds_lt
  have hearlier := he.nanoseconds_lt
  rw [Timestamp.difference, if_neg (by omega), if_neg (by omega), instant, instant]
  omega

theorem toNat_tdiv (n : Int) (d : Nat) : (n.tdiv d).toNat = n.toNat / d := by
  cases n with
  | ofNat n => rfl
  | negSucc n =>
    have hneg : (Int.negSucc n).tdiv d = -((n + 1) / d : Nat) := rfl
    rw [hneg, Int.toNat_neg_natCast, Int.toNat_negSucc, Nat.zero_div]

theorem Civil.milliseconds (hl : later.Civil) (he : earlier.Civil) :
    later.milliseconds earlier = (later.instant - earlier.instant).tdiv (10 ^ 6) := by
  rw [Timestamp.milliseconds, hl.difference he]

theorem Civil.toNat_milliseconds (hl : later.Civil) (he : earlier.Civil) :
    (later.milliseconds earlier).toNat = (later.instant - earlier.instant).toNat / 10 ^ 6 := by
  rw [hl.milliseconds he]
  exact toNat_tdiv _ (10 ^ 6)

theorem Civil.milliseconds_lt (hl : later.Civil) (he : earlier.Civil) :
    (later.milliseconds earlier).toNat < 2 ^ 49 := by
  have hlater := Date.dayNumber_range hl.year_nonneg hl.year_le
  have hearlier := Date.dayNumber_range he.year_nonneg he.year_le
  have hfraction := hl.nanoseconds_lt
  have hinstants : later.instant - earlier.instant < 26 * 146097 * 86400 * 10 ^ 9 + 10 ^ 9 := by
    simp only [instant, secondsPerDay] at *
    omega
  rw [hl.toNat_milliseconds he]
  omega

end Timestamp

namespace Connection.Refresh

open Double (one)

/-- The ratio is above four fifths, by so little that `2 ^ 49` times the difference is an eighth of
a fifth. -/
theorem exists_ratio : ∃ excess, 5 * ratio.units = 4 * one + excess ∧ 8 * (2 ^ 49 * excess) = one :=
  ⟨2 ^ 1022, by decide +kernel, by decide +kernel⟩

/-- Neither the error of the ratio nor the one of the product, nor both, lead from a multiple of a
fifth to the next. -/
theorem lt_of_errors {r unit place excess exact product : Nat} (hunit : 0 < unit)
    (hplace : unit = 2 ^ 4 * place) (hexact : 5 * exact = 4 * (r * unit) + r * excess)
    (hexcess : 8 * (r * excess) ≤ unit) (hproduct : 2 * product ≤ 2 * exact + place) :
    5 * product < (4 * r + 1) * unit := by
  rw [Nat.add_mul, Nat.one_mul, Nat.mul_assoc]
  omega

theorem mul_ratio_bounds {r : Nat} (h : r < 2 ^ 49) :
    4 * r / 5 * one ≤ ((Double.ofNat r).mul ratio).units ∧
      5 * ((Double.ofNat r).mul ratio).units < (4 * r + 1) * one := by
  obtain ⟨hfinite, hunits⟩ := Double.ofNat_exact (Nat.lt_trans h (by decide : 2 ^ 49 < 2 ^ 53))
  have hratio : ratio.isFinite = true := by decide +kernel
  obtain ⟨negative, hmul⟩ := Double.mul_of_finite hfinite hratio
  rw [hmul, hunits, Nat.mul_right_comm]
  -- The product has 49 bits before the point, which leaves four behind it.
  obtain ⟨k, hk, hone⟩ : ∃ k ≤ 2044, one = 2 ^ 4 * 2 ^ k := ⟨1070, by decide, by decide +kernel⟩
  have hlt : r * ratio.units * one / one < 2 ^ (k + 53) := by
    rw [Nat.mul_div_cancel _ Double.one_pos]
    calc
      r * ratio.units < 2 ^ 49 * one :=
        Nat.mul_lt_mul_of_lt_of_le h (by decide +kernel) Double.one_pos
      _ = 2 ^ (k + 53) := by rw [hone, ← Nat.mul_assoc, ← Nat.pow_add, ← Nat.pow_add, Nat.add_comm]
  obtain ⟨excess, hexcess, hsmall⟩ := exists_ratio
  have hexact : 5 * (r * ratio.units) = 4 * (r * one) + r * excess := by
    rw [Nat.mul_left_comm, hexcess, Nat.mul_add, Nat.mul_left_comm]
  constructor
  · have hwhole : 4 * r / 5 * 2 ^ 4 * 2 ^ k = 4 * r / 5 * one := by rw [hone, Nat.mul_assoc]
    have hfifths : 5 * (4 * r / 5 * one) ≤ 5 * (r * ratio.units) :=
      calc
        5 * (4 * r / 5 * one) = 5 * (4 * r / 5) * one := (Nat.mul_assoc ..).symm
        _ ≤ 4 * r * one := Nat.mul_le_mul_right one (Nat.mul_div_le ..)
        _ = 4 * (r * one) := Nat.mul_assoc ..
        _ ≤ 5 * (r * ratio.units) := Nat.le.intro hexact.symm
    rw [← hwhole]
    refine Double.le_units_round hk Double.one_pos hlt (Nat.mul_le_mul_right one ?_)
    rw [hwhole]
    exact Nat.le_of_mul_le_mul_left hfifths (by decide)
  · have hround := Double.units_round_le negative hk Double.one_pos hlt
    rw [← Nat.mul_assoc, ← Nat.mul_assoc, ← Nat.add_mul] at hround
    have hhalf := Nat.le_of_mul_le_mul_right hround Double.one_pos
    have htimes : 8 * (r * excess) ≤ 8 * (2 ^ 49 * excess) :=
      Nat.mul_le_mul_left 8 (Nat.mul_le_mul_right excess (Nat.le_of_lt h))
    rw [hsmall] at htimes
    exact lt_of_errors Double.one_pos hone hexact htimes hhalf

/-- What is left of a product with the ratio is what is left of four fifths. -/
theorem truncate_mul_ratio {r : Nat} (h : r < 2 ^ 49) :
    ((Double.ofNat r).mul ratio).truncate = 4 * r / 5 := by
  obtain ⟨hlower, hupper⟩ := mul_ratio_bounds h
  refine Nat.div_eq_of_lt_le hlower (Nat.lt_of_mul_lt_mul_left (a := 5) ?_)
  calc
    5 * ((Double.ofNat r).mul ratio).units < (4 * r + 1) * one := hupper
    _ ≤ 5 * (4 * r / 5 + 1) * one := Nat.mul_le_mul_right one (by omega)
    _ = 5 * ((4 * r / 5 + 1) * one) := Nat.mul_assoc ..

theorem share_eq {r : Nat} (h : r < 2 ^ 49) :
    share r = .ofNat ((Double.ofNat r).mul ratio).truncate := by
  rw [share, truncate_mul_ratio h, Nat.min_eq_left (by omega)]

theorem toNat_share {r : Nat} (h : r < 2 ^ 49) : (share r).toNat = 4 * r / 5 := by
  rw [share_eq h, truncate_mul_ratio h, UInt64.toNat_ofNat']
  exact Nat.mod_eq_of_lt (by omega)

theorem delay_nanoseconds (expiresAt now : Timestamp) : (delay expiresAt now).nanoseconds =
    max (60 * 10 ^ 9) ((share (expiresAt.milliseconds now).toNat).toNat * 10 ^ 6) := by
  rw [delay, Duration.max]
  split
  · next h => exact (Nat.max_eq_right h).symm
  · next h => exact (Nat.max_eq_left (Nat.le_of_not_le h)).symm

/-- No double is nearer to four fifths. Those with bits below the last place of the ratio are too
small, and of its multiples of that place the ratio is the nearest. -/
theorem ratio_nearest {x : Double} (hx : x.Normal) :
    (5 * ratio.signedUnits - 4 * one).natAbs ≤ (5 * x.signedUnits - 4 * one).natAbs := by
  obtain ⟨k, hratio, hone⟩ : ∃ k,
      ratio.signedUnits = 7205759403792794 * (2 ^ k : Nat) ∧ one = 2 ^ 53 * 2 ^ k :=
    ⟨1021, by decide +kernel, by decide +kernel⟩
  have hunits : 5 * x.units + 2 * 2 ^ k ≤ 4 * (2 ^ 53 * 2 ^ k) ∨
      4 * (2 ^ 53 * 2 ^ k) + 2 * 2 ^ k ≤ 5 * x.units := by
    cases x with
    | nan | infinite => exact .inl (by simp only [Double.units]; omega)
    | finite negative bits power =>
      obtain ⟨hbits, -, -⟩ := hx
      simp only [Double.units]
      rcases Nat.lt_or_ge power k with hlt | hge
      · left
        have hplace : 2 ^ (power + 1) ≤ 2 ^ k := Nat.pow_le_pow_right (by decide) hlt
        have hsmall := Nat.mul_le_mul (Nat.le_of_lt hbits) hplace
        rw [Nat.pow_succ, ← Nat.mul_assoc] at hsmall
        omega
      · have hplace : bits * 2 ^ power = bits * 2 ^ (power - k) * 2 ^ k := by
          rw [Nat.mul_assoc, ← Nat.pow_add, Nat.sub_add_cancel hge]
        rw [hplace]
        generalize bits * 2 ^ (power - k) = n
        rcases Nat.lt_or_ge (5 * n) (4 * 2 ^ 53) with hbelow | habove
        · have hmultiple : 5 * n + 2 ≤ 4 * 2 ^ 53 := by omega
          have hle := Nat.mul_le_mul_right (2 ^ k) hmultiple
          rw [Nat.add_mul, Nat.mul_assoc, Nat.mul_assoc] at hle
          exact .inl hle
        · have hmultiple : 4 * 2 ^ 53 + 2 ≤ 5 * n := by omega
          have hle := Nat.mul_le_mul_right (2 ^ k) hmultiple
          rw [Nat.add_mul, Nat.mul_assoc, Nat.mul_assoc] at hle
          exact .inr hle
  have hsigned : x.signedUnits = x.units ∨ x.signedUnits = -x.units := by
    unfold Double.signedUnits
    split
    · exact .inr rfl
    · exact .inl rfl
  rw [hratio, hone]
  generalize 2 ^ k = place at hunits ⊢
  omega

/-- Between times of the years from 0 to 9999 the wait is four fifths of what remains, in whole
milliseconds, and at least a minute: the product with the double nearest to four fifths has the
whole part of the exact one. So a token that expires later is not replaced earlier, and one that has
75 seconds left is replaced in time. -/
theorem delay_exact {expiresAt now : Timestamp} (he : expiresAt.Civil) (hn : now.Civil) :
    let r := ((expiresAt.instant - now.instant).tdiv (10 ^ 6)).toNat
    (∀ x : Double, x.Normal →
      (5 * ratio.signedUnits - 4 * one).natAbs ≤ (5 * x.signedUnits - 4 * one).natAbs) ∧
    delay expiresAt now =
      minimum.max (.ofMilliseconds (.ofNat ((Double.ofNat r).mul ratio).truncate)) ∧
    (delay expiresAt now).nanoseconds = max (60 * 10 ^ 9) (4 * r / 5 * 10 ^ 6) ∧
    (∀ later : Timestamp, later.Civil → expiresAt.instant ≤ later.instant →
      delay expiresAt now ≤ delay later now) ∧
    (75000 ≤ r → now.instant + (delay expiresAt now).nanoseconds ≤ expiresAt.instant) := by
  intro r
  have hdelay : ∀ t : Timestamp, t.Civil → (delay t now).nanoseconds =
      max (60 * 10 ^ 9) (4 * ((t.instant - now.instant).toNat / 10 ^ 6) / 5 * 10 ^ 6) := by
    intro t ht
    rw [delay_nanoseconds, toNat_share (ht.milliseconds_lt hn), ht.toNat_milliseconds hn]
  have hr : r = (expiresAt.instant - now.instant).toNat / 10 ^ 6 := Timestamp.toNat_tdiv _ (10 ^ 6)
  refine ⟨fun x hx => ratio_nearest hx, ?_, ?_, fun later hl hle => ?_, fun henough => ?_⟩
  · rw [delay, share_eq (he.milliseconds_lt hn), he.milliseconds hn]
  · rw [hdelay _ he, hr]
  · rw [Duration.le_iff, hdelay _ he, hdelay _ hl]
    omega
  · rw [hdelay _ he, ← hr]
    omega

/-- Two of the longest lives there are, one of them a multiple of five. -/
theorem delay_exact_longest :
    let now : Timestamp := ⟨-62167219200, 0, by decide⟩
    let expiresAt : Timestamp := ⟨253402300798, 0, by decide⟩
    let later : Timestamp := ⟨253402300799, 999999999, by decide⟩
    expiresAt.Civil ∧ now.Civil ∧ later.Civil ∧ expiresAt.instant ≤ later.instant ∧
      (delay expiresAt now).nanoseconds = 252455615998400 * 10 ^ 6 ∧
      delay expiresAt now ≤ delay later now ∧
      now.instant + (delay expiresAt now).nanoseconds ≤ expiresAt.instant := by
  intro now expiresAt later
  have he : expiresAt.Civil := ⟨by decide, by decide, by decide⟩
  have hn : now.Civil := ⟨by decide, by decide, by decide⟩
  have hl : later.Civil := ⟨by decide, by decide, by decide⟩
  have hle : expiresAt.instant ≤ later.instant := by decide
  obtain ⟨-, -, hdelay, hmonotone, hintime⟩ := delay_exact he hn
  exact ⟨he, hn, hl, hle, hdelay.trans (by decide), hmonotone later hl hle, hintime (by decide)⟩

end Connection.Refresh
end EventBus
