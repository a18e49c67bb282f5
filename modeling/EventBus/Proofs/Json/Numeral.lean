import EventBus.Json.Reader
import EventBus.Json.Writer
import EventBus.Proofs.Digits

namespace EventBus.Json

/-- What may stand behind a value: nothing, or the sign that goes on or ends what it is in. -/
def Ends (rest : List Char) : Prop := ∀ c ∈ rest.head?, c = ',' ∨ c = ']' ∨ c = '}'

theorem ends_nil : Ends [] := fun _ h => by simp at h

theorem ends_cons {c : Char} {rest : List Char} (h : c = ',' ∨ c = ']' ∨ c = '}') :
    Ends (c :: rest) := by
  intro d hd
  obtain rfl : c = d := by simpa using hd
  exact h

theorem Ends.stop {rest : List Char} (h : Ends rest) : Digits.Stop rest := by
  intro c hc
  rcases h c hc with rfl | rfl | rfl <;> rfl

/-- The numeral that a whole number is written as. -/
def Integer.numeral (i : Integer) : Numeral :=
  ⟨i.value < 0, Nat.toDigits 10 i.value.natAbs, [], none⟩

theorem whole_toDigits (n : Nat) {rest : List Char} (hr : Digits.Stop rest) :
    Reader.whole (Nat.toDigits 10 n ++ rest) = some (Nat.toDigits 10 n, rest) := by
  have hd : Reader.digits (Nat.toDigits 10 n ++ rest) = (Nat.toDigits 10 n, rest) := by
    rw [Reader.digits, Digits.takeWhile_append (fun _ => Digits.isDigit_of_mem) hr,
      Digits.dropWhile_append (fun _ => Digits.isDigit_of_mem) hr]
  rw [Reader.whole, hd]
  split
  · next h => simp at h
  · next a b _ h =>
    simp only [Prod.mk.injEq] at h
    rcases Nat.eq_zero_or_pos n with rfl | hn
    · simp at h
    · exact absurd (by rw [h.1]; rfl) (Digits.head_toDigits hn)
  · rfl

theorem fraction_ends {rest : List Char} (h : Ends rest) :
    Reader.fraction rest = some ([], rest) := by
  unfold Reader.fraction
  split
  · have := h '.' rfl
    simp at this
  · rfl

theorem exponent_ends {rest : List Char} (h : Ends rest) :
    Reader.exponent rest = some (none, rest) := by
  cases rest with
  | nil => rfl
  | cons c rest =>
    rcases h c rfl with rfl | rfl | rfl <;> rfl

theorem numeral_toDigits (negative : Bool) (n : Nat) {rest : List Char} (hr : Ends rest) :
    Reader.numeral negative (Nat.toDigits 10 n ++ rest) =
      some (⟨negative, Nat.toDigits 10 n, [], none⟩, rest) := by
  simp [Reader.numeral, whole_toDigits n hr.stop, fraction_ends hr, exponent_ends hr]

theorem Integer.ofInt?_value (i : Integer) : Integer.ofInt? i.value = some i :=
  dif_pos ⟨i.lower, i.upper⟩

theorem value?_numeral (i : Integer) : i.numeral.value? = some (.integer i) := by
  have hm : Numeral.natural (Nat.toDigits 10 i.value.natAbs) = i.value.natAbs :=
    Digits.foldl_toDigits i.value.natAbs
  have hlower := i.lower
  have hsigned : (if i.value < 0 then -(i.value.natAbs : Int) else i.value.natAbs) = i.value := by
    split <;> omega
  have hfits : ¬(i.value < 0 ∧ (i.value.natAbs = 0 ∨ 2 ^ 63 < i.value.natAbs)) := by omega
  simp only [Integer.numeral, Numeral.value?, hm, decide_eq_true_eq, if_neg hfits, hsigned,
    Integer.ofInt?_value]

end EventBus.Json
