import EventBus.Double

namespace EventBus

theorem roundHalfEven_cases (num den : Nat) :
    roundHalfEven num den = num / den ∧ 2 * (num % den) ≤ den ∨
      roundHalfEven num den = num / den + 1 ∧ den ≤ 2 * (num % den) := by
  unfold roundHalfEven
  split
  · next h => exact .inl ⟨rfl, by omega⟩
  · next h => exact .inr ⟨rfl, by omega⟩

theorem roundHalfEven_mul (n : Nat) {den : Nat} (hden : 0 < den) :
    roundHalfEven (n * den) den = n := by
  have hrest : n * den % den = 0 := Nat.mul_mod_left n den
  rw [roundHalfEven, hrest, Nat.mul_div_cancel n hden, if_pos (.inl (by omega))]

theorem roundHalfEven_mono {m n : Nat} (h : m ≤ n) (den : Nat) :
    roundHalfEven m den ≤ roundHalfEven n den := by
  have hquotient : m / den ≤ n / den := Nat.div_le_div_right h
  rcases Nat.lt_or_eq_of_le hquotient with hlt | heq
  · have hm := roundHalfEven_cases m den
    have hn := roundHalfEven_cases n den
    omega
  · -- both lie between the same two integers, so that the rests are in order
    have hrest : m % den ≤ n % den := by
      have hm := Nat.div_add_mod m den
      have hn := Nat.div_add_mod n den
      rw [heq] at hm
      omega
    unfold roundHalfEven
    rw [heq]
    split <;> split <;> omega

theorem roundHalfEven_eq_zero {num den : Nat} (hden : 0 < den) :
    roundHalfEven num den = 0 ↔ 2 * num ≤ den := by
  constructor
  · intro h
    rcases roundHalfEven_cases num den with ⟨hround, hrest⟩ | ⟨hround, -⟩
    · have hnum := Nat.div_add_mod num den
      rw [← hround, h, Nat.mul_zero, Nat.zero_add] at hnum
      rwa [← hnum]
    · rw [h] at hround
      exact absurd hround (Nat.succ_ne_zero _).symm
  · intro h
    have hlt : num < den := by omega
    have hquotient : num / den = 0 := Nat.div_eq_of_lt hlt
    rw [roundHalfEven, hquotient, Nat.mod_eq_of_lt hlt, if_pos (by omega)]

theorem roundHalfEven_error (num : Nat) {den : Nat} (hden : 0 < den) :
    2 * num ≤ 2 * (roundHalfEven num den * den) + den ∧
      2 * (roundHalfEven num den * den) ≤ 2 * num + den := by
  have hsplit := Nat.div_add_mod' num den
  rcases roundHalfEven_cases num den with ⟨hround, hrest⟩ | ⟨hround, hrest⟩
  · rw [hround]
    omega
  · have hlt := Nat.mod_lt num hden
    rw [hround, Nat.add_mul, Nat.one_mul]
    omega

namespace Double

theorem one_pos : 0 < one := by decide +kernel

/-- Below a power of two a double has at most 53 bits above its last place. -/
theorem Normal.units_le {x : Double} (hx : x.Normal) {k : Nat}
    (h : x.units < 2 ^ (k + 53)) : x.units ≤ 2 ^ (k + 53) - 2 ^ k := by
  cases x with
  | nan => exact Nat.zero_le _
  | infinite => exact Nat.zero_le _
  | finite negative significand power =>
    obtain ⟨hbits, hfull, -⟩ := hx
    simp only [units] at h ⊢
    rcases Nat.lt_or_ge k power with hlt | hle
    · -- the significand is full, and at this power that is too much
      have hsignificand : 2 ^ 52 ≤ significand := hfull.resolve_right (by omega)
      have hpower : 2 ^ (k + 1) ≤ 2 ^ power := Nat.pow_le_pow_right (by decide) hlt
      have hlarge : 2 ^ 52 * 2 ^ (k + 1) ≤ significand * 2 ^ power :=
        Nat.mul_le_mul hsignificand hpower
      rw [← Nat.pow_add, show 52 + (k + 1) = k + 53 by omega] at hlarge
      omega
    · have hsignificand : significand ≤ 2 ^ 53 - 1 := by omega
      have hpower : 2 ^ power ≤ 2 ^ k := Nat.pow_le_pow_right (by decide) hle
      have hsmall : significand * 2 ^ power ≤ (2 ^ 53 - 1) * 2 ^ k :=
        Nat.mul_le_mul hsignificand hpower
      rw [Nat.sub_mul, ← Nat.pow_add, Nat.one_mul, Nat.add_comm 53 k] at hsmall
      exact hsmall

theorem signedUnits_of_nonneg {x : Double} (hfinite : x.isFinite = true)
    (hsign : x.lt (.zero false) = false) : x.signedUnits = x.units := by
  cases x with
  | nan => cases hfinite
  | infinite => cases hfinite
  | finite negative significand power =>
    have hnonneg : ¬signedUnits (.finite negative significand power) < 0 :=
      of_decide_eq_false hsign
    cases negative with
    | false => rfl
    | true =>
      simp only [signedUnits, isNegative, if_true] at hnonneg ⊢
      omega

theorem exists_ofParts (negative : Bool) (significand : Nat) {power : Nat} (h : power ≤ 2044) :
    ∃ bits place, ofParts negative significand power = .finite negative bits place ∧
      bits * 2 ^ place = significand * 2 ^ power := by
  by_cases hfull : significand = 2 ^ 53
  · have hpower : ¬2045 < power + 1 := by omega
    refine ⟨2 ^ 52, power + 1, ?_, ?_⟩
    · rw [ofParts, if_pos hfull]
      exact if_neg hpower
    · rw [hfull, Nat.pow_succ']
      omega
  · have hpower : ¬2045 < power := by omega
    refine ⟨significand, power, ?_, rfl⟩
    rw [ofParts, if_neg hfull]
    exact if_neg hpower

/-- A quotient that has 53 bits above some place is rounded at that place or at a lower one. -/
theorem exists_round (negative : Bool) {num den k : Nat} (hk : k ≤ 2044)
    (h : num / den < 2 ^ (k + 53)) : (round negative num den).isFinite = true ∧ ∃ power ≤ k,
      (round negative num den).units = roundHalfEven num (den * 2 ^ power) * 2 ^ power := by
  have hpower : (num / den).log2 - 52 ≤ k := by
    have hlog : (num / den).log2 < k + 53 := by
      by_cases hzero : num / den = 0
      · simp [hzero]
      · exact (Nat.log2_lt hzero).mpr h
    omega
  obtain ⟨bits, place, hparts, hunits⟩ :=
    exists_ofParts negative (roundHalfEven num (den * 2 ^ ((num / den).log2 - 52)))
      (Nat.le_trans hpower hk)
  have hround : round negative num den = .finite negative bits place := hparts
  rw [hround]
  exact ⟨rfl, _, hpower, hunits⟩

/-- What has no bits below a place is not changed at that place or a lower one. -/
theorem roundHalfEven_place (n : Nat) {den power k : Nat} (hden : 0 < den) (h : power ≤ k) :
    roundHalfEven (n * 2 ^ k * den) (den * 2 ^ power) * 2 ^ power = n * 2 ^ k := by
  have hplace : n * 2 ^ k = n * 2 ^ (k - power) * 2 ^ power := by
    rw [Nat.mul_assoc, ← Nat.pow_add, Nat.sub_add_cancel h]
  have hwhole : n * 2 ^ k * den = n * 2 ^ (k - power) * (den * 2 ^ power) := by
    rw [hplace]
    ac_rfl
  rw [hwhole, roundHalfEven_mul _ (Nat.mul_pos hden (Nat.two_pow_pos power)), hplace]

section Place
variable {negative : Bool} {num den k n : Nat}

theorem round_of_whole (negative : Bool) (hk : k ≤ 2044) (hden : 0 < den) (hn : n < 2 ^ 53) :
    (round negative (n * 2 ^ k * den) den).isFinite = true ∧
      (round negative (n * 2 ^ k * den) den).units = n * 2 ^ k := by
  have hlt : n * 2 ^ k * den / den < 2 ^ (k + 53) := by
    rw [Nat.mul_div_cancel _ hden, Nat.add_comm, Nat.pow_add]
    exact Nat.mul_lt_mul_of_pos_right hn (Nat.two_pow_pos k)
  obtain ⟨hfinite, power, hpower, hunits⟩ := exists_round negative hk hlt
  exact ⟨hfinite, hunits.trans (roundHalfEven_place n hden hpower)⟩

theorem le_units_round (hk : k ≤ 2044) (hden : 0 < den) (h : num / den < 2 ^ (k + 53))
    (hn : n * 2 ^ k * den ≤ num) : n * 2 ^ k ≤ (round negative num den).units := by
  obtain ⟨-, power, hpower, hunits⟩ := exists_round negative hk h
  rw [hunits, ← roundHalfEven_place n hden hpower]
  exact Nat.mul_le_mul_right _ (roundHalfEven_mono hn _)

theorem units_round_le (negative : Bool) (hk : k ≤ 2044) (hden : 0 < den)
    (h : num / den < 2 ^ (k + 53)) :
    2 * ((round negative num den).units * den) ≤ 2 * num + 2 ^ k * den := by
  obtain ⟨-, power, hpower, hunits⟩ := exists_round negative hk h
  have herror := (roundHalfEven_error num (Nat.mul_pos hden (Nat.two_pow_pos power))).2
  have hplace : den * 2 ^ power ≤ 2 ^ k * den := by
    rw [Nat.mul_comm]
    exact Nat.mul_le_mul_right den (Nat.pow_le_pow_right (by decide) hpower)
  rw [hunits, Nat.mul_assoc, Nat.mul_comm (2 ^ power) den]
  omega

end Place

theorem ofNat_exact {n : Nat} (h : n < 2 ^ 53) :
    (ofNat n).isFinite = true ∧ (ofNat n).units = n * one := by
  have hround := round_of_whole false (by decide : 1074 ≤ 2044) Nat.one_pos h
  rwa [Nat.mul_one] at hround

theorem mul_of_finite {x y : Double} (hx : x.isFinite = true) (hy : y.isFinite = true) :
    ∃ negative, x.mul y = round negative (x.units * y.units) one := by
  cases x with
  | nan | infinite => cases hx
  | finite =>
    cases y with
    | nan | infinite => cases hy
    | finite =>
      rw [mul]
      exact ⟨_, rfl⟩

end Double
end EventBus
