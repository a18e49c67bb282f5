import EventBus.Calendar

namespace EventBus.Date

/-- A day of a cycle: `365` days into a year only at the end of four years, and at the end of a
century only in the last one. -/
structure CycleDay where
  century : Nat
  period : Nat
  year : Nat
  day : Nat
  century_le : century ≤ 3
  period_le : period ≤ 24
  year_le : year ≤ 3
  day_le : day ≤ 365
  leap : day = 365 → year = 3 ∧ (period = 24 → century = 3)

namespace CycleDay

def number (c : CycleDay) : Nat := 36524 * c.century + 1461 * c.period + 365 * c.year + c.day

def yearOfCycle (c : CycleDay) : Nat := 100 * c.century + 4 * c.period + c.year

theorem exists_number {n : Nat} (h : n < 146097) : ∃ c : CycleDay, c.number = n := by
  have hcentury : ∃ k r, k ≤ 3 ∧ r ≤ 36524 ∧ (r = 36524 → k = 3) ∧ n = 36524 * k + r :=
    ⟨min (n / 36524) 3, n - 36524 * min (n / 36524) 3, by omega, by omega, by omega, by omega⟩
  obtain ⟨k, rest, hk, hrest, hlast, rfl⟩ := hcentury
  have hyear : ∃ r d, r ≤ 3 ∧ d ≤ 365 ∧ (d = 365 → r = 3) ∧ rest % 1461 = 365 * r + d :=
    ⟨min (rest % 1461 / 365) 3, rest % 1461 - 365 * min (rest % 1461 / 365) 3,
      by omega, by omega, by omega, by omega⟩
  obtain ⟨r, d, hr, hd, hleap, hmod⟩ := hyear
  refine ⟨⟨k, rest / 1461, r, d, hk, by omega, hr, hd, fun h => ⟨hleap h, by omega⟩⟩, ?_⟩
  simp only [number]
  omega

theorem yearOfCycle_eq (c : CycleDay) :
    (c.number - c.number / 1460 + c.number / 36524 - c.number / 146096) / 365 = c.yearOfCycle := by
  obtain ⟨k, q, r, d, hk, hq, hr, hd, hleap⟩ := c
  simp only [number, yearOfCycle]
  generalize hn : 36524 * k + 1461 * q + 365 * r + d = n
  -- The last day of the cycle alone would begin a fifth century.
  have hcentury : n / 36524 = k + n / 146096 := by
    obtain ⟨rest, hrest⟩ : ∃ rest, rest = 1461 * q + 365 * r + d := ⟨_, rfl⟩
    have hbound : rest < 36524 ∨ k = 3 ∧ rest = 36524 := by omega
    have hsplit : n = rest + 36524 * k := by omega
    clear hn hrest
    rcases hbound with hbound | ⟨rfl, rfl⟩
    · have hlt : n < 146096 := by omega
      rw [Nat.div_eq_of_lt hlt, hsplit, Nat.add_mul_div_left _ _ (by decide),
        Nat.div_eq_of_lt hbound]
      omega
    · subst hsplit
      rfl
  -- Dividing by 1460 counts the leap days so far, the one at the end of this period included.
  have hperiod : n / 1460 = 25 * k + q ∨ n / 1460 = 25 * k + q + 1 ∧ 1 ≤ d := by omega
  have hfull : d = 365 → n / 1460 = 25 * k + q + 1 := by omega
  rw [hcentury]
  omega

theorem number_eq (c : CycleDay) :
    c.number = 365 * c.yearOfCycle + c.yearOfCycle / 4 - c.yearOfCycle / 100 + c.day := by
  obtain ⟨k, q, r, d, hk, hq, hr, hd, hleap⟩ := c
  simp only [number, yearOfCycle]
  omega

theorem yearOfCycle_lt (c : CycleDay) : c.yearOfCycle < 400 := by
  have hcentury := c.century_le
  have hperiod := c.period_le
  have hyear := c.year_le
  rw [yearOfCycle]
  omega

theorem number_lt (c : CycleDay) : c.number < 146097 := by
  have hcentury := c.century_le
  have hperiod := c.period_le
  have hyear := c.year_le
  have hday := c.day_le
  have hleap := c.leap
  rw [number]
  omega

end CycleDay

/-- The date of a day in a month, years and months counted from March. -/
def fromMarch (year : Int) (month day : Nat) : Date :=
  let calendarMonth := if month < 10 then month + 3 else month - 9
  ⟨if calendarMonth ≤ 2 then year + 1 else year, calendarMonth, day⟩

/-- The date that is so many days behind the first of March of a year. -/
def ofYearDay (year : Int) (day : Nat) : Date :=
  let month := (5 * day + 2) / 153
  fromMarch year month (day - (153 * month + 2) / 5 + 1)

theorem fromMarch_early {month : Nat} (year : Int) (day : Nat) (h : month < 10) :
    fromMarch year month day = ⟨year, month + 3, day⟩ := by
  simp only [fromMarch, if_pos h]
  rw [if_neg (by omega)]

theorem fromMarch_late {month : Nat} (year : Int) (day : Nat) (h : ¬month < 10)
    (hm : month ≤ 11) : fromMarch year month day = ⟨year + 1, month - 9, day⟩ := by
  simp only [fromMarch, if_neg h]
  rw [if_pos (by omega)]

theorem dayNumber_fromMarch {cycle : Int} {year month day : Nat} (hy : year < 400)
    (hm : month ≤ 11) (hd : 1 ≤ day) :
    (fromMarch (cycle * 400 + year) month day).dayNumber =
      cycle * 146097 + (365 * year + year / 4 - year / 100 : Nat) +
        ((153 * month + 2) / 5 + day - 1 : Nat) - 719468 := by
  have hcycle : (cycle * 400 + (year : Int)) / 400 = cycle := by omega
  have hrest : ((cycle * 400 + (year : Int)) % 400).toNat = year := by omega
  by_cases h : month < 10
  · have hmonth : (month + 3 + 9) % 12 = month := by omega
    rw [fromMarch_early _ _ h]
    simp only [dayNumber, hmonth]
    rw [if_neg (by omega), hcycle, hrest]
    omega
  · have hmonth : (month - 9 + 9) % 12 = month := by omega
    rw [fromMarch_late _ _ h hm]
    simp only [dayNumber, hmonth]
    rw [if_pos (by omega), Int.add_sub_cancel, hcycle, hrest]
    omega

/-- The first of a month comes after as many days as the months before it have. -/
theorem valid_fromMarch {year : Int} {month day : Nat} (hm : month ≤ 11) (hd : 1 ≤ day)
    (hlength : day + (153 * month + 2) / 5 ≤ (153 * (month + 1) + 2) / 5)
    (hlast : month = 11 → day ≤ 28 ∨ day = 29 ∧ isLeapYear (year + 1) = true) :
    (fromMarch year month day).Valid := by
  by_cases h : month < 10
  · rw [fromMarch_early _ _ h]
    refine ⟨by simp, by simp; omega, hd, ?_⟩
    have hne : month + 3 ≠ 2 := by omega
    simp only [monthLength, if_neg hne]
    split <;> omega
  · rw [fromMarch_late _ _ h hm]
    refine ⟨by simp; omega, by simp; omega, hd, ?_⟩
    simp only [monthLength]
    by_cases hl : month = 11
    · rw [if_pos (by omega)]
      rcases hlast hl with hday | ⟨hday, hleap⟩
      · split <;> omega
      · rw [if_pos hleap]
        omega
    · rw [if_neg (by omega)]
      split <;> omega

theorem dayNumber_ofYearDay {cycle : Int} {year day : Nat} (hy : year < 400) (hd : day ≤ 365) :
    (ofYearDay (cycle * 400 + year) day).dayNumber =
      cycle * 146097 + (365 * year + year / 4 - year / 100 : Nat) + day - 719468 := by
  rw [ofYearDay, dayNumber_fromMarch hy (by omega) (by omega)]
  omega

theorem valid_ofYearDay {year : Int} {day : Nat} (hd : day ≤ 365)
    (hleap : day = 365 → isLeapYear (year + 1) = true) : (ofYearDay year day).Valid := by
  refine valid_fromMarch (by omega) (by omega) (by omega) fun hm => ?_
  by_cases h : day = 365
  · exact .inr ⟨by omega, hleap h⟩
  · exact .inl (by omega)

theorem exists_ofYearDay (n : Int) : ∃ (cycle : Int) (c : CycleDay),
    n + 719468 = cycle * 146097 + c.number ∧
      ofDayNumber n = ofYearDay (cycle * 400 + c.yearOfCycle) c.day := by
  obtain ⟨c, hc⟩ := CycleDay.exists_number (n := ((n + 719468) % 146097).toNat) (by omega)
  refine ⟨(n + 719468) / 146097, c, by omega, ?_⟩
  rw [ofDayNumber, ← hc]
  have hday :
      c.number - (365 * c.yearOfCycle + c.yearOfCycle / 4 - c.yearOfCycle / 100) = c.day := by
    have := c.number_eq
    omega
  simp only [c.yearOfCycle_eq, hday]
  rfl

theorem dayNumber_ofDayNumber (n : Int) : (ofDayNumber n).dayNumber = n := by
  obtain ⟨cycle, c, hn, hdate⟩ := exists_ofYearDay n
  have hnumber := c.number_eq
  rw [hdate, dayNumber_ofYearDay c.yearOfCycle_lt c.day_le]
  omega

theorem valid_ofDayNumber (n : Int) : (ofDayNumber n).Valid := by
  obtain ⟨cycle, c, -, hdate⟩ := exists_ofYearDay n
  rw [hdate]
  refine valid_ofYearDay c.day_le fun h => ?_
  obtain ⟨hyear, hcentury⟩ := c.leap h
  have hbound := c.century_le
  have hperiod := c.period_le
  have hleap : ∀ year : Int, year % 4 = 0 ∧ (year % 100 ≠ 0 ∨ year % 400 = 0) →
      isLeapYear year = true := fun year h => by simpa [isLeapYear] using h
  refine hleap _ ?_
  simp only [CycleDay.yearOfCycle, hyear]
  omega

theorem year_ofYearDay (year : Int) (day : Nat) :
    (ofYearDay year day).year = year ∨ (ofYearDay year day).year = year + 1 := by
  simp only [ofYearDay, fromMarch]
  split <;> split <;> simp

theorem dayNumber_range {n : Int} (hlower : 0 ≤ (ofDayNumber n).year)
    (hupper : (ofDayNumber n).year ≤ 9999) : -146097 ≤ n + 719468 ∧ n + 719468 < 25 * 146097 := by
  obtain ⟨cycle, c, hn, hdate⟩ := exists_ofYearDay n
  have hyear := year_ofYearDay (cycle * 400 + c.yearOfCycle) c.day
  have hcycle := c.yearOfCycle_lt
  have hnumber := c.number_lt
  rw [← hdate] at hyear
  omega

end EventBus.Date
