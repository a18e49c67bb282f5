namespace EventBus.Digits

/-- A text that no digit begins, so that a run of digits in front of it ends there. -/
def Stop (rest : List Char) : Prop := ∀ c ∈ rest.head?, c.isDigit = false

theorem isDigit_of_mem {n : Nat} {c : Char} (h : c ∈ Nat.toDigits 10 n) : c.isDigit = true :=
  Nat.isDigit_of_mem_toDigits (by decide) (by decide) h

theorem takeWhile_append {digits rest : List Char} (hd : ∀ c ∈ digits, c.isDigit = true)
    (hr : Stop rest) : (digits ++ rest).takeWhile Char.isDigit = digits := by
  rw [List.takeWhile_append_of_pos hd]
  cases rest with
  | nil => simp
  | cons c rest =>
    have hc : c.isDigit = false := hr c rfl
    simp [hc]

theorem Stop.dropWhile {rest : List Char} (hr : Stop rest) :
    rest.dropWhile Char.isDigit = rest := by
  cases rest with
  | nil => rfl
  | cons c rest =>
    have hc : c.isDigit = false := hr c rfl
    simp [hc]

theorem dropWhile_append {digits rest : List Char} (hd : ∀ c ∈ digits, c.isDigit = true)
    (hr : Stop rest) : (digits ++ rest).dropWhile Char.isDigit = rest := by
  rw [List.dropWhile_append_of_pos hd, hr.dropWhile]

theorem foldl_eq_ofDigitChars (digits : List Char) (init : Nat) :
    digits.foldl (fun n c => n * 10 + (c.toNat - 48)) init = Nat.ofDigitChars 10 digits init := by
  rw [Nat.ofDigitChars_eq_foldl]
  congr 1
  funext n c
  rw [Nat.mul_comm]
  rfl

theorem foldl_toDigits (n : Nat) :
    (Nat.toDigits 10 n).foldl (fun n c => n * 10 + (c.toNat - 48)) 0 = n := by
  rw [foldl_eq_ofDigitChars, Nat.ofDigitChars_ten_toDigits]

theorem head_toDigits {n : Nat} (h : 0 < n) : (Nat.toDigits 10 n).head? ≠ some '0' := by
  induction n using Nat.strongRecOn with
  | ind n ih =>
    rw [Nat.toDigits_eq_if (by decide)]
    split
    · next hn =>
      intro he
      have hc : n.digitChar = '0' := by simpa using he
      have hz : ∀ m < 10, m.digitChar = '0' → m = 0 := by decide
      exact absurd (hz n hn hc) (Nat.ne_of_gt h)
    · next hn =>
      obtain ⟨c, rest, hc⟩ :=
        List.exists_cons_of_ne_nil (Nat.toDigits_ne_nil (n := n / 10) (b := 10))
      have hhead := ih (n / 10) (by omega) (by omega)
      rw [hc] at hhead ⊢
      exact hhead

end EventBus.Digits
