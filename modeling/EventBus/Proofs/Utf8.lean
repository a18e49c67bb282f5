import EventBus.Utf8

namespace EventBus.Utf8

theorem toNat_byte {n : Nat} (h : n < 256) : (UInt8.ofNat n).toNat = n := by
  rw [UInt8.toNat_ofNat']
  omega

theorem code_range (c : Char) : c.toNat < 0xD800 ∨ (0xDFFF < c.toNat ∧ c.toNat < 0x110000) :=
  c.valid

theorem next_more {code owed low high taken m : Nat} (hl : low ≤ 0x80 + m % 64)
    (hh : 0x80 + m % 64 ≤ high) (ho : 1 < owed) :
    (⟨code, owed, low, high, taken⟩ : Partial).next (UInt8.ofNat (0x80 + m % 64)) =
      .more ⟨code * 64 + m % 64, owed - 1, 0x80, 0xBF, taken + 1⟩ := by
  have hb : (UInt8.ofNat (0x80 + m % 64)).toNat = 0x80 + m % 64 := toNat_byte (by omega)
  simp only [Partial.next, hb, hl, hh, and_self, if_true]
  rw [if_neg (by omega), show (0x80 + m % 64) % 64 = m % 64 by omega]

theorem next_char (code taken m : Nat) :
    (⟨code, 1, 0x80, 0xBF, taken⟩ : Partial).next (UInt8.ofNat (0x80 + m % 64)) =
      .char (Char.ofNat (code * 64 + m % 64)) := by
  have hb : (UInt8.ofNat (0x80 + m % 64)).toNat = 0x80 + m % 64 := toNat_byte (by omega)
  simp only [Partial.next, hb]
  rw [if_pos ⟨by omega, by omega⟩, if_pos (Nat.le_refl 1),
    show (0x80 + m % 64) % 64 = m % 64 by omega]

/-- The first byte of a character of two bytes or more. The range it leaves for the second byte
holds the one that follows: overlong forms and surrogates are not written. -/
theorem first_two {n : Nat} (hl : 0x80 ≤ n) (hh : n < 0x800) :
    first (UInt8.ofNat (0xC0 + n / 64)) = .more ⟨n / 64, 1, 0x80, 0xBF, 1⟩ := by
  have hb : (UInt8.ofNat (0xC0 + n / 64)).toNat = 0xC0 + n / 64 := toNat_byte (by omega)
  simp only [first, hb]
  rw [if_neg (by omega), if_neg (by omega), if_pos (by omega), Nat.add_sub_cancel_left]

theorem first_three {n : Nat} (hl : 0x800 ≤ n) (hh : n < 0x10000)
    (hs : n < 0xD800 ∨ 0xDFFF < n) :
    ∃ low high, first (UInt8.ofNat (0xE0 + n / 4096)) = .more ⟨n / 4096, 2, low, high, 1⟩ ∧
      low ≤ 0x80 + n / 64 % 64 ∧ 0x80 + n / 64 % 64 ≤ high := by
  have hb : (UInt8.ofNat (0xE0 + n / 4096)).toNat = 0xE0 + n / 4096 := toNat_byte (by omega)
  simp only [first, hb]
  rw [if_neg (by omega), if_neg (by omega), if_neg (by omega)]
  by_cases h0 : n / 4096 = 0
  · rw [h0, if_pos rfl]
    exact ⟨0xA0, 0xBF, rfl, by omega, by omega⟩
  · rw [if_neg (by omega)]
    by_cases hd : n / 4096 = 0xD
    · rw [hd, if_pos rfl]
      exact ⟨0x80, 0x9F, rfl, by omega, by omega⟩
    · rw [if_neg (by omega), if_pos (by omega), Nat.add_sub_cancel_left]
      exact ⟨0x80, 0xBF, rfl, by omega, by omega⟩

theorem first_four {n : Nat} (hl : 0x10000 ≤ n) (hh : n < 0x110000) :
    ∃ low high, first (UInt8.ofNat (0xF0 + n / 262144)) = .more ⟨n / 262144, 3, low, high, 1⟩ ∧
      low ≤ 0x80 + n / 4096 % 64 ∧ 0x80 + n / 4096 % 64 ≤ high := by
  have hb : (UInt8.ofNat (0xF0 + n / 262144)).toNat = 0xF0 + n / 262144 := toNat_byte (by omega)
  simp only [first, hb]
  rw [if_neg (by omega), if_neg (by omega), if_neg (by omega), if_neg (by omega),
    if_neg (by omega), if_neg (by omega)]
  by_cases h0 : n / 262144 = 0
  · rw [h0, if_pos rfl]
    exact ⟨0x90, 0xBF, rfl, by omega, by omega⟩
  · rw [if_neg (by omega)]
    by_cases h4 : n / 262144 = 4
    · rw [h4, if_neg (by omega), if_pos rfl]
      exact ⟨0x80, 0x8F, rfl, by omega, by omega⟩
    · rw [if_pos (by omega), Nat.add_sub_cancel_left]
      exact ⟨0x80, 0xBF, rfl, by omega, by omega⟩

theorem decodeFrom_encodeChar (c : Char) (index : Nat) (rest : List UInt8) :
    ∃ after, decodeFrom index none (encodeChar c ++ rest) =
      (decodeFrom after none rest).map (c :: ·) := by
  have hr := code_range c
  have hc : Char.ofNat c.toNat = c := Char.ofNat_toNat c
  unfold encodeChar
  generalize c.toNat = n at hr hc
  by_cases h1 : n < 0x80
  · have hf : first (UInt8.ofNat n) = .char c := by
      simp only [first, toNat_byte (show n < 256 by omega), h1, if_true, hc]
    simp only [h1, if_true, List.singleton_append, decodeFrom, hf]
    exact ⟨_, rfl⟩
  by_cases h2 : n < 0x800
  · simp only [h1, h2, if_true, if_false, List.cons_append, List.nil_append, decodeFrom,
      first_two (by omega) h2, next_char]
    rw [show n / 64 * 64 + n % 64 = n by omega, hc]
    exact ⟨_, rfl⟩
  by_cases h3 : n < 0x10000
  · obtain ⟨low, high, hf, hl, hh⟩ := first_three (by omega) h3 (by omega)
    simp only [h1, h2, h3, if_true, if_false, List.cons_append, List.nil_append, decodeFrom, hf,
      next_more hl hh (by decide : 1 < 2), Nat.reduceSub, next_char]
    rw [show (n / 4096 * 64 + n / 64 % 64) * 64 + n % 64 = n by omega, hc]
    exact ⟨_, rfl⟩
  · obtain ⟨low, high, hf, hl, hh⟩ := first_four (by omega) (show n < 0x110000 by omega)
    have ht : 0x80 ≤ 0x80 + n / 64 % 64 ∧ 0x80 + n / 64 % 64 ≤ 0xBF := by omega
    simp only [h1, h2, h3, if_false, List.cons_append, List.nil_append, decodeFrom, hf,
      next_more hl hh (by decide : 1 < 3), next_more ht.1 ht.2 (by decide : 1 < 2), Nat.reduceSub,
      next_char]
    rw [show ((n / 262144 * 64 + n / 4096 % 64) * 64 + n / 64 % 64) * 64 + n % 64 = n by omega, hc]
    exact ⟨_, rfl⟩

theorem decodeFrom_encode (text : List Char) (index : Nat) :
    decodeFrom index none (encode text) = .ok text := by
  induction text generalizing index with
  | nil => rfl
  | cons c rest ih =>
    obtain ⟨after, ha⟩ := decodeFrom_encodeChar c index (encode rest)
    have he : encode (c :: rest) = encodeChar c ++ encode rest := List.flatMap_cons
    rw [he, ha, ih after]
    rfl

theorem decode_encode (text : List Char) : decode (encode text) = .ok text :=
  decodeFrom_encode text 0

theorem cons_lt_of_lt {m n : Nat} (h : m < n) (hn : n < 256) (front back : List UInt8) :
    UInt8.ofNat m :: front < UInt8.ofNat n :: back := by
  refine List.cons_lt_cons_iff.mpr (.inl (UInt8.lt_iff_toNat_lt.mpr ?_))
  rwa [toNat_byte (Nat.lt_trans h hn), toNat_byte hn]

/-- The last bytes of a character, six bits of its code in each. -/
def continuation : Nat → Nat → List UInt8
  | 0, _ => []
  | k + 1, n => UInt8.ofNat (0x80 + n / 64 ^ k % 64) :: continuation k n

/-- Of two codes that agree above the bits that are left, the lower one has the lower bytes. -/
theorem continuation_append_lt {m n k : Nat} (h : m < n) (hk : m / 64 ^ k = n / 64 ^ k)
    (front back : List UInt8) : continuation k m ++ front < continuation k n ++ back := by
  induction k with
  | zero => exact absurd (by simpa using hk) (Nat.ne_of_lt h)
  | succ k ih =>
    rw [Nat.pow_succ, ← Nat.div_div_eq_div_mul, ← Nat.div_div_eq_div_mul] at hk
    have hle : m / 64 ^ k ≤ n / 64 ^ k := Nat.div_le_div_right (Nat.le_of_lt h)
    by_cases hsix : m / 64 ^ k = n / 64 ^ k
    · rw [continuation, continuation, hsix]
      exact List.cons_lt_cons_iff.mpr (.inr ⟨rfl, ih hsix⟩)
    · exact cons_lt_of_lt (by omega) (by omega) _ _

/-- How many bytes follow the first one of a character, and what marks the first one. -/
inductive Form (n : Nat) : Nat → Nat → Prop where
  | one (h : n < 0x80) : Form n 0 0
  | two (hl : 0x80 ≤ n) (hh : n < 0x800) : Form n 1 0xC0
  | three (hl : 0x800 ≤ n) (hh : n < 0x10000) : Form n 2 0xE0
  | four (hl : 0x10000 ≤ n) (hh : n < 0x110000) : Form n 3 0xF0

theorem exists_form (c : Char) : ∃ k mark, Form c.toNat k mark ∧
    encodeChar c = UInt8.ofNat (mark + c.toNat / 64 ^ k) :: continuation k c.toNat := by
  have hr := code_range c
  unfold encodeChar
  generalize c.toNat = n at hr
  by_cases h1 : n < 0x80
  · exact ⟨0, 0, .one h1, by simp [h1, continuation]⟩
  by_cases h2 : n < 0x800
  · exact ⟨1, 0xC0, .two (by omega) h2, by simp [h1, h2, continuation]⟩
  by_cases h3 : n < 0x10000
  · exact ⟨2, 0xE0, .three (by omega) h3, by simp [h1, h2, h3, continuation]⟩
  · exact ⟨3, 0xF0, .four (by omega) (by omega), by simp [h1, h2, h3, continuation]⟩

theorem Form.byte {n k mark : Nat} (h : Form n k mark) : mark + n / 64 ^ k < 256 := by
  cases h <;> omega

/-- A longer form has a higher mark, and within one form the first bits of the code decide. -/
theorem Form.first_lt {m n k l mark other : Nat} (hm : Form m k mark) (hn : Form n l other)
    (h : m < n) : mark + m / 64 ^ k < other + n / 64 ^ l ∨
      k = l ∧ mark = other ∧ m / 64 ^ k = n / 64 ^ l := by
  cases hm <;> cases hn <;> omega

theorem encodeChar_append_lt {c d : Char} (h : c < d) (front back : List UInt8) :
    encodeChar c ++ front < encodeChar d ++ back := by
  have hlt : c.toNat < d.toNat := h
  obtain ⟨k, mark, hform, hc⟩ := exists_form c
  obtain ⟨l, other, hother, hd⟩ := exists_form d
  rw [hc, hd, List.cons_append, List.cons_append]
  rcases hform.first_lt hother hlt with hfirst | ⟨rfl, rfl, hsame⟩
  · exact cons_lt_of_lt hfirst hother.byte _ _
  · rw [hsame]
    exact List.cons_lt_cons_iff.mpr (.inr ⟨rfl, continuation_append_lt hlt hsame front back⟩)

theorem encode_lt_encode {front back : List Char} (h : front < back) :
    encode front < encode back := by
  induction h with
  | @nil c rest =>
    obtain ⟨_, _, -, hbytes⟩ := exists_form c
    have hcons : encode (c :: rest) = encodeChar c ++ encode rest := List.flatMap_cons
    rw [hcons, hbytes]
    exact List.nil_lt_cons _ _
  | cons _ ih => exact List.append_left_lt ih
  | rel hlt => exact encodeChar_append_lt hlt _ _

end EventBus.Utf8
