import EventBus.Proofs.Calendar
import EventBus.Proofs.Digits
import EventBus.Timestamp.Rfc3339

namespace EventBus.Timestamp

theorem length_padded {width n : Nat} (hw : 0 < width) (h : n < 10 ^ width) :
    (padded width n).length = width := by
  have hlength := (Nat.length_toDigits_le_iff (b := 10) (by decide) hw).mpr h
  simp only [padded, List.length_append, List.length_replicate]
  omega

theorem isDigit_of_mem_padded {width n : Nat} {c : Char} (h : c ∈ padded width n) :
    c.isDigit = true := by
  rcases List.mem_append.mp h with h | h
  · rw [List.eq_of_mem_replicate h]
    rfl
  · exact Digits.isDigit_of_mem h

theorem foldl_padded (width n : Nat) :
    (padded width n).foldl (fun n c => n * 10 + (c.toNat - 48)) 0 = n := by
  rw [Digits.foldl_eq_ofDigitChars, padded, Nat.ofDigitChars_append,
    Nat.ofDigitChars_replicate_zero, Nat.mul_zero, Nat.ofDigitChars_ten_toDigits]

namespace Reader

theorem number_padded {least most width n : Nat} {rest : List Char} (hl : least ≤ width)
    (hm : width ≤ most) (hw : 0 < width) (hn : n < 10 ^ width)
    (hr : width = most ∨ Digits.Stop rest) :
    number least most (padded width n ++ rest) = some (n, rest) := by
  have hlength := length_padded hw hn
  have hdigits : ((padded width n ++ rest).take most).takeWhile Char.isDigit = padded width n := by
    rw [List.take_append, List.take_of_length_le (by omega)]
    refine Digits.takeWhile_append (fun _ => isDigit_of_mem_padded) ?_
    rcases hr with rfl | hr
    · simp [hlength, Digits.Stop]
    · intro c hc
      exact hr c (by
        rw [List.head?_take] at hc
        split at hc
        · simp at hc
        · exact hc)
  rw [number, hdigits, hlength, if_neg (by omega), foldl_padded]
  simp [hlength]

theorem fraction_digits {width value : Nat} {rest : List Char} (hw : 0 < width) (hm : width ≤ 9)
    (hv : value < 10 ^ width) (hr : Digits.Stop rest) :
    fraction ('.' :: (padded width value ++ rest)) = some (value * 10 ^ (9 - width), rest) := by
  have hnumber : number 1 9 (padded width value ++ rest) = some (value, rest) :=
    number_padded hw hm hw hv (.inr hr)
  simp [fraction, hnumber, length_padded hw hv, hr.dropWhile]

theorem fraction_writeFraction {nanoseconds : Nat} {c : Char} {rest : List Char}
    (h : nanoseconds < 10 ^ 9) (hc : c.isDigit = false) (hp : c ≠ '.') :
    fraction (writeFraction nanoseconds ++ c :: rest) = some (nanoseconds, c :: rest) := by
  have hr : Digits.Stop (c :: rest) := by simpa [Digits.Stop] using hc
  unfold writeFraction
  split
  · next hz =>
    subst hz
    simp [fraction, hp]
  split
  · next hz =>
    rw [List.cons_append, fraction_digits (by decide) (by decide) (by omega) hr,
      Nat.div_mul_cancel (Nat.dvd_of_mod_eq_zero hz)]
  split
  · next hz =>
    rw [List.cons_append, fraction_digits (by decide) (by decide) (by omega) hr,
      Nat.div_mul_cancel (Nat.dvd_of_mod_eq_zero hz)]
  · rw [List.cons_append, fraction_digits (by decide) (by decide) h hr]
    simp

theorem offset_zone (zone : Zone) : offset (exactly ':') zone.text = some (0, []) := by
  cases zone <;> rfl

theorem exactly_cons (c : Char) (rest : List Char) : exactly c (c :: rest) = some rest :=
  if_pos rfl

end Reader

theorem secondOfDay_lt (t : Timestamp) : t.secondOfDay < 86400 := by
  simp only [secondOfDay, secondsPerDay]
  omega

theorem clock_spec (t : Timestamp) :
    t.clock.hour < 24 ∧ t.clock.minute < 60 ∧ t.clock.second ≤ 60 ∧
      t.clock.nanosecond < 10 ^ 9 := by
  have hlt := t.nanoseconds_lt
  have hday := t.secondOfDay_lt
  simp only [clock]
  refine ⟨by omega, by omega, ?_, ?_⟩ <;> split <;> omega

/-- A leap second, if it is one, is the last of its minute. Its text shows it then. -/
def Settled (t : Timestamp) : Prop := 10 ^ 9 ≤ t.nanoseconds → t.seconds % 60 = 59

instance (t : Timestamp) : Decidable t.Settled := inferInstanceAs (Decidable (_ → _))

/-- The time that the text of `t` shows: a leap second inside a minute is the second after it. -/
def settled (t : Timestamp) : Timestamp :=
  if t.Settled then t
  else ⟨t.seconds + 1, t.nanoseconds - 10 ^ 9, Nat.lt_of_le_of_lt (Nat.sub_le ..) t.nanoseconds_lt⟩

theorem settled_of_settled {t : Timestamp} (h : t.Settled) : t.settled = t := if_pos h

theorem settled_eq_self_iff (t : Timestamp) : t.settled = t ↔ t.Settled := by
  refine ⟨fun heq => Decidable.byContradiction fun h => ?_, settled_of_settled⟩
  have hseconds := congrArg Timestamp.seconds heq
  simp only [settled, if_neg h] at hseconds
  omega

theorem settled_settled (t : Timestamp) : t.settled.Settled := by
  by_cases h : t.Settled
  · rwa [settled_of_settled h]
  · have hlt := t.nanoseconds_lt
    simp only [settled, if_neg h]
    intro hleap
    dsimp only at hleap
    omega

theorem date_settled (t : Timestamp) : t.settled.date = t.date := by
  by_cases h : t.Settled
  · rw [settled_of_settled h]
  · have hday : (t.seconds + 1) / secondsPerDay = t.seconds / secondsPerDay := by
      simp only [Settled, secondsPerDay] at h ⊢
      omega
    simp only [settled, if_neg h, date, hday]

theorem clock_settled (t : Timestamp) : t.settled.clock = t.clock := by
  by_cases h : t.Settled
  · rw [settled_of_settled h]
  · have hlt := t.nanoseconds_lt
    obtain ⟨hleap, hsecond⟩ := Classical.not_imp.mp h
    have hnext : (⟨t.seconds + 1, t.nanoseconds - 10 ^ 9, by omega⟩ : Timestamp).secondOfDay =
        t.secondOfDay + 1 := by
      simp only [secondOfDay, secondsPerDay]
      omega
    have hinside : t.secondOfDay % 60 ≠ 59 := by
      simp only [secondOfDay, secondsPerDay]
      omega
    simp only [settled, if_neg h]
    unfold clock
    simp only [hnext, if_pos hleap, if_neg (show ¬10 ^ 9 ≤ t.nanoseconds - 10 ^ 9 by omega)]
    congr 1 <;> omega

theorem write_settled (zone : Zone) (t : Timestamp) : t.settled.write zone = t.write zone := by
  simp only [write, date_settled, clock_settled]

theorem clock_second {t : Timestamp} (hsettled : t.Settled) :
    t.clock.wholeSecond = t.secondOfDay % 60 ∧ t.clock.nanoseconds = t.nanoseconds := by
  simp only [Clock.wholeSecond, Clock.nanoseconds]
  by_cases h : 10 ^ 9 ≤ t.nanoseconds
  · have hlast : t.secondOfDay % 60 = 59 := by
      have := hsettled h
      simp only [secondOfDay, secondsPerDay]
      omega
    simp only [clock, if_pos h, hlast]
    exact ⟨rfl, Nat.sub_add_cancel h⟩
  · have hne : t.secondOfDay % 60 ≠ 60 := by omega
    simp only [clock, if_neg h, if_neg hne, and_self]

theorem ofParts?_date_clock {t : Timestamp} (hsettled : t.Settled)
    (h : yearInRange t.date.year = true) : ofParts? t.date t.clock 0 = some t := by
  have hvalid : t.date.Valid := Date.valid_ofDayNumber _
  have hday : t.date.dayNumber = t.seconds / secondsPerDay := Date.dayNumber_ofDayNumber _
  obtain ⟨hsecond, hnanoseconds⟩ := clock_second hsettled
  have hseconds : t.date.dayNumber * secondsPerDay + t.clock.hour * 3600 + t.clock.minute * 60 +
      t.clock.wholeSecond - 0 = t.seconds := by
    rw [hday, hsecond]
    simp only [clock, secondOfDay, secondsPerDay]
    omega
  rw [ofParts?, dif_pos ⟨hvalid, h, t.clock_spec⟩]
  simp only [hseconds, hnanoseconds, h, if_true]

theorem writeYear_eq {year : Int} (hlower : 0 ≤ year) (hupper : year ≤ 9999) :
    writeYear year = padded 4 year.toNat := if_pos ⟨hlower, hupper⟩

theorem parts_lt (t : Timestamp) :
    t.date.month < 10 ^ 2 ∧ t.date.day < 10 ^ 2 ∧ t.clock.hour < 10 ^ 2 ∧
      t.clock.minute < 10 ^ 2 ∧ t.clock.second < 10 ^ 2 := by
  obtain ⟨-, hmonth, -, hday⟩ : t.date.Valid := Date.valid_ofDayNumber _
  have hday : t.date.day < 10 ^ 2 := by
    simp only [Date.monthLength] at hday
    split at hday
    · split at hday <;> omega
    · split at hday <;> omega
  obtain ⟨hhour, hminute, hsecond, -⟩ := t.clock_spec
  exact ⟨Nat.lt_of_le_of_lt hmonth (by decide), hday, Nat.lt_trans hhour (by decide),
    Nat.lt_trans hminute (by decide), Nat.lt_of_le_of_lt hsecond (by decide)⟩

theorem fraction_clock (t : Timestamp) (zone : Zone) :
    Reader.fraction (writeFraction t.clock.nanosecond ++ zone.text) =
      some (t.clock.nanosecond, zone.text) := by
  obtain ⟨-, -, -, hnanosecond⟩ := t.clock_spec
  cases zone <;> exact Reader.fraction_writeFraction hnanosecond (by decide) (by decide)

theorem finish_date_clock {t : Timestamp} (hsettled : t.Settled) (hlower : 0 ≤ t.date.year)
    (hupper : t.date.year ≤ 9999) :
    Reader.finish t.date.year.toNat t.date.month t.date.day t.clock.hour t.clock.minute
      t.clock.second t.clock.nanosecond 0 = some t := by
  rw [Reader.finish, if_pos (by decide), Int.toNat_of_nonneg hlower]
  refine ofParts?_date_clock hsettled ?_
  simp only [yearInRange, Bool.and_eq_true, decide_eq_true_eq]
  omega

theorem strict_write {t : Timestamp} (hsettled : t.Settled) (zone : Zone)
    (hlower : 0 ≤ t.date.year) (hupper : t.date.year ≤ 9999) :
    Reader.strict (t.write zone) = some t := by
  obtain ⟨hmonth, hday, hhour, hminute, hsecond⟩ := t.parts_lt
  have hpair : ∀ n < 10 ^ 2, ∀ rest, Reader.number 2 2 (padded 2 n ++ rest) = some (n, rest) :=
    fun n hn rest => Reader.number_padded (by decide) (by decide) (by decide) hn (.inl rfl)
  have hyear : ∀ rest, Reader.number 4 4 (padded 4 t.date.year.toNat ++ rest) =
      some (t.date.year.toNat, rest) :=
    fun rest => Reader.number_padded (by decide) (by decide) (by decide) (by omega) (.inl rfl)
  rw [write, writeYear_eq hlower hupper, Reader.strict]
  simp only [List.append_assoc, List.cons_append]
  -- one part of the text after the other, each read from the front of what is left
  refine Option.bind_eq_some_iff.mpr ⟨_, hyear _, ?_⟩
  refine Option.bind_eq_some_iff.mpr ⟨_, Reader.exactly_cons _ _, ?_⟩
  refine Option.bind_eq_some_iff.mpr ⟨_, hpair _ hmonth _, ?_⟩
  refine Option.bind_eq_some_iff.mpr ⟨_, Reader.exactly_cons _ _, ?_⟩
  refine Option.bind_eq_some_iff.mpr ⟨_, hpair _ hday _, ?_⟩
  refine Option.bind_eq_some_iff.mpr ⟨_, rfl, ?_⟩
  refine Option.bind_eq_some_iff.mpr ⟨_, hpair _ hhour _, ?_⟩
  refine Option.bind_eq_some_iff.mpr ⟨_, Reader.exactly_cons _ _, ?_⟩
  refine Option.bind_eq_some_iff.mpr ⟨_, hpair _ hminute _, ?_⟩
  refine Option.bind_eq_some_iff.mpr ⟨_, Reader.exactly_cons _ _, ?_⟩
  refine Option.bind_eq_some_iff.mpr ⟨_, hpair _ hsecond _, ?_⟩
  refine Option.bind_eq_some_iff.mpr ⟨_, fraction_clock t zone, ?_⟩
  refine Option.bind_eq_some_iff.mpr ⟨_, Reader.offset_zone zone, ?_⟩
  exact (if_pos rfl).trans (finish_date_clock hsettled hlower hupper)

theorem read?_text {t : Timestamp} (hlower : 0 ≤ t.date.year) (hupper : t.date.year ≤ 9999) :
    read? t.text = some t.settled := by
  rw [read?, text, String.toList_ofList, ← write_settled]
  rw [← date_settled] at hlower hupper
  exact strict_write t.settled_settled .letter hlower hupper

theorem isBlank_of_isDigit {c : Char} (h : c.isDigit = true) : Text.isBlank c = false := by
  have hbounds : 48 ≤ c.toNat ∧ c.toNat ≤ 57 := Char.isDigit_iff_toNat.mp h
  simp only [Text.isBlank, Bool.or_eq_false_iff, Bool.and_eq_false_iff, decide_eq_false_iff_not]
  omega

theorem trimStart_cons {c : Char} (h : Text.isBlank c = false) (rest : List Char) :
    Text.trimStart (c :: rest) = c :: rest := by
  rw [Text.trimStart, List.dropWhile_cons_of_neg (by simp [h])]

namespace Reader

theorem number_of_exact {least most n : Nat} {input rest : List Char} (hl : least ≤ most)
    (h : number most most input = some (n, rest)) : number least most input = some (n, rest) := by
  simp only [number] at h ⊢
  split at h
  · cases h
  · next hlength => rw [if_neg (by omega), h]

/-- A number begins with a digit, so the relaxed reader has no blank to skip in front of it. -/
theorem exists_digit_of_number {least most n : Nat} {input rest : List Char} (hl : 0 < least)
    (h : number least most input = some (n, rest)) :
    ∃ c more, input = c :: more ∧ c.isDigit = true := by
  cases input with
  | nil => simp [number, hl] at h
  | cons c more =>
    refine ⟨c, more, rfl, ?_⟩
    cases hc : c.isDigit with
    | true => rfl
    | false =>
      cases most with
      | zero => simp [number, hl] at h
      | succ most => simp [number, hc, hl] at h

theorem trimStart_of_number {least most n : Nat} {input rest : List Char} (hl : 0 < least)
    (h : number least most input = some (n, rest)) : Text.trimStart input = input := by
  obtain ⟨c, more, rfl, hc⟩ := exists_digit_of_number hl h
  exact trimStart_cons (isBlank_of_isDigit hc) more

theorem eq_cons_of_exactly {c : Char} {input rest : List Char}
    (h : exactly c input = some rest) : input = c :: rest := by
  cases input with
  | nil => cases h
  | cons d more =>
    simp only [exactly, Option.ite_none_right_eq_some, Option.some.injEq] at h
    rw [h.1, h.2]

theorem exactly_trimStart {c : Char} {input rest : List Char} (hc : Text.isBlank c = false)
    (h : exactly c input = some rest) : exactly c (Text.trimStart input) = some rest := by
  obtain rfl := eq_cons_of_exactly h
  rw [trimStart_cons hc]
  exact h

theorem signedYear_of_number {n : Nat} {input rest : List Char}
    (h : number 4 4 input = some (n, rest)) : signedYear input = some ((n : Int), rest) := by
  obtain ⟨c, more, rfl, hc⟩ := exists_digit_of_number (by decide) h
  unfold signedYear
  split
  · next heq =>
    rw [(List.cons.inj heq).1] at hc
    exact absurd hc (by decide)
  · next heq =>
    rw [(List.cons.inj heq).1] at hc
    exact absurd hc (by decide)
  · rw [number_of_exact (by decide) h]
    rfl

/-- A colon and two digits behind it: the relaxed reader skips the colon and nothing else. -/
theorem hoursMinutes_looseColon {negative : Bool} {input : List Char} {found : Int × List Char}
    (h : hoursMinutes (exactly ':') negative input = some found) :
    hoursMinutes looseColon negative input = some found := by
  simp only [hoursMinutes, Option.bind_eq_bind, Option.bind_eq_some_iff] at h
  obtain ⟨⟨hours, afterHours⟩, hhours, afterColon, hcolon, ⟨minutes, rest⟩, hminutes, hfound⟩ := h
  obtain rfl := eq_cons_of_exactly hcolon
  have hskip : looseColon (':' :: afterColon) = some afterColon := by
    match afterColon, hminutes with
    | a :: b :: more, hminutes =>
      simp only [twoDigits, Option.ite_none_right_eq_some, Bool.and_eq_true] at hminutes
      obtain ⟨⟨ha, -⟩, -⟩ := hminutes
      have hcolon : a ≠ ':' := by
        rintro rfl
        exact absurd ha (by decide)
      simp [looseColon, hcolon, isBlank_of_isDigit ha]
  simp only [hoursMinutes, Option.bind_eq_bind, hhours, Option.bind_some, hskip, hminutes]
  exact hfound

theorem looseOffset_trimStart {c : Char} (hblank : Text.isBlank c = false)
    (hutc : c.toUpper ≠ 'U') (rest : List Char) :
    looseOffset (Text.trimStart (c :: rest)) = offset looseColon (c :: rest) := by
  rw [trimStart_cons hblank]
  unfold looseOffset
  split
  · next heq =>
    obtain ⟨rfl, -⟩ := List.cons.inj heq
    rw [if_neg fun hletters => hutc hletters.1]
  · rfl

theorem looseOffset_of_offset {input : List Char} {found : Int × List Char}
    (h : offset (exactly ':') input = some found) :
    looseOffset (Text.trimStart input) = some found := by
  unfold offset at h
  split at h
  · rw [looseOffset_trimStart (by decide) (by decide)]
    exact h
  · rw [looseOffset_trimStart (by decide) (by decide)]
    exact h
  · rw [looseOffset_trimStart (by decide) (by decide)]
    exact hoursMinutes_looseColon h
  · rw [looseOffset_trimStart (by decide) (by decide)]
    exact hoursMinutes_looseColon h
  · rw [looseOffset_trimStart (by decide) (by decide)]
    exact hoursMinutes_looseColon h
  · cases h

theorem loose_of_strict {input : List Char} {t : Timestamp} (h : strict input = some t) :
    loose input = some t := by
  obtain ⟨⟨year, afterYear⟩, hyear, h⟩ := Option.bind_eq_some_iff.mp h
  obtain ⟨beforeMonth, hyearEnd, h⟩ := Option.bind_eq_some_iff.mp h
  obtain ⟨⟨month, afterMonth⟩, hmonth, h⟩ := Option.bind_eq_some_iff.mp h
  obtain ⟨beforeDay, hmonthEnd, h⟩ := Option.bind_eq_some_iff.mp h
  obtain ⟨⟨day, afterDay⟩, hday, h⟩ := Option.bind_eq_some_iff.mp h
  obtain ⟨beforeHour, hdayEnd, h⟩ := Option.bind_eq_some_iff.mp h
  obtain ⟨⟨hour, afterHour⟩, hhour, h⟩ := Option.bind_eq_some_iff.mp h
  obtain ⟨beforeMinute, hhourEnd, h⟩ := Option.bind_eq_some_iff.mp h
  obtain ⟨⟨minute, afterMinute⟩, hminute, h⟩ := Option.bind_eq_some_iff.mp h
  obtain ⟨beforeSecond, hminuteEnd, h⟩ := Option.bind_eq_some_iff.mp h
  obtain ⟨⟨second, afterSecond⟩, hsecond, h⟩ := Option.bind_eq_some_iff.mp h
  obtain ⟨⟨nanosecond, afterFraction⟩, hfraction, h⟩ := Option.bind_eq_some_iff.mp h
  obtain ⟨⟨offset, rest⟩, hoffset, hfinish⟩ := Option.bind_eq_some_iff.mp h
  dsimp only at hfinish
  have hpair : ∀ {n : Nat} {input rest : List Char}, number 2 2 input = some (n, rest) →
      number 1 2 (Text.trimStart input) = some (n, rest) := fun h => by
    rw [trimStart_of_number (by decide) h]
    exact number_of_exact (by decide) h
  split at hfinish
  · next hrest =>
    subst hrest
    have hblank : Text.trimStart input = input := trimStart_of_number (by decide) hyear
    rw [loose, hblank]
    refine Option.bind_eq_some_iff.mpr ⟨_, signedYear_of_number hyear, ?_⟩
    refine Option.bind_eq_some_iff.mpr ⟨_, exactly_trimStart (by decide) hyearEnd, ?_⟩
    refine Option.bind_eq_some_iff.mpr ⟨_, hpair hmonth, ?_⟩
    refine Option.bind_eq_some_iff.mpr ⟨_, exactly_trimStart (by decide) hmonthEnd, ?_⟩
    refine Option.bind_eq_some_iff.mpr ⟨_, hpair hday, ?_⟩
    refine Option.bind_eq_some_iff.mpr ⟨_, hdayEnd, ?_⟩
    refine Option.bind_eq_some_iff.mpr ⟨_, hpair hhour, ?_⟩
    refine Option.bind_eq_some_iff.mpr ⟨_, exactly_trimStart (by decide) hhourEnd, ?_⟩
    refine Option.bind_eq_some_iff.mpr ⟨_, hpair hminute, ?_⟩
    refine Option.bind_eq_some_iff.mpr ⟨_, exactly_trimStart (by decide) hminuteEnd, ?_⟩
    refine Option.bind_eq_some_iff.mpr ⟨_, hpair hsecond, ?_⟩
    refine Option.bind_eq_some_iff.mpr ⟨_, hfraction, ?_⟩
    refine Option.bind_eq_some_iff.mpr ⟨_, looseOffset_of_offset hoffset, ?_⟩
    exact (if_pos rfl).trans hfinish
  · cases hfinish

end Reader

theorem readLoose?_of_read? {text : String} {t : Timestamp} (h : read? text = some t) :
    readLoose? text = some t := Reader.loose_of_strict h

theorem readLoose?_text {t : Timestamp} (hlower : 0 ≤ t.date.year) (hupper : t.date.year ≤ 9999) :
    readLoose? t.text = some t.settled := readLoose?_of_read? (read?_text hlower hupper)

end EventBus.Timestamp
