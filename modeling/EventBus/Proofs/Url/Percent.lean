import EventBus.Proofs.Utf8
import EventBus.Url.Percent

namespace EventBus.Url.Percent

/-- Letters, digits and the four marks that mean nothing in a URL. -/
def isUnreserved (c : Char) : Bool := c.isAlphanum || c = '-' || c = '.' || c = '_' || c = '~'

def encodeAll (text : List Char) : List Char := encode (fun c => !isUnreserved c) text

abbrev Encoded (c : Char) : Prop := c = '%' ∨ isUnreserved c = true

theorem isUnreserved_range {c : Char} (h : isUnreserved c = true) :
    0x2d ≤ c.toNat ∧ c.toNat ≤ 0x7e := by
  simp only [isUnreserved, Bool.or_eq_true, decide_eq_true_eq] at h
  rcases h with (((h | rfl) | rfl) | rfl) | rfl
  · change (decide (65 ≤ c.val ∧ c.val ≤ 90) || (decide (97 ≤ c.val) && decide (c.val ≤ 122)) ||
      (decide (48 ≤ c.val) && decide (c.val ≤ 57))) = true at h
    simp only [Bool.or_eq_true, Bool.and_eq_true, decide_eq_true_eq, UInt32.le_iff_toNat_le] at h
    change ((65 ≤ c.toNat ∧ c.toNat ≤ 90) ∨ (97 ≤ c.toNat ∧ c.toNat ≤ 122)) ∨
      (48 ≤ c.toNat ∧ c.toNat ≤ 57) at h
    omega
  all_goals decide

theorem Encoded.range {c : Char} (h : Encoded c) : 0x25 ≤ c.toNat ∧ c.toNat ≤ 0x7e := by
  rcases h with rfl | h
  · decide
  · have hrange := isUnreserved_range h
    omega

theorem Encoded.printable {c : Char} (h : Encoded c) : isControl c = false ∧ ¬0x7f < c.toNat := by
  have hrange := h.range
  refine ⟨?_, by omega⟩
  simp only [isControl, Bool.or_eq_false_iff, decide_eq_false_iff_not]
  omega

theorem Encoded.ne {c d : Char} (h : Encoded c) (hd : ¬Encoded d) : c ≠ d := by
  rintro rfl
  exact hd h

theorem encode_cons (reserved : Char → Bool) (c : Char) (rest : List Char) :
    encode reserved (c :: rest) =
      (if isControl c || reserved c || 0x7f < c.toNat then (Utf8.encode [c]).flatMap encodeByte
        else [c]) ++ encode reserved rest :=
  List.flatMap_cons

theorem encode_of_encoded {reserved : Char → Bool} {text : List Char}
    (h : ∀ c ∈ text, Encoded c) (hreserved : ∀ c, reserved c = true → ¬Encoded c) :
    encode reserved text = text := by
  induction text with
  | nil => rfl
  | cons c rest ih =>
    obtain ⟨hc, hrest⟩ := List.forall_mem_cons.mp h
    obtain ⟨hcontrol, hascii⟩ := hc.printable
    have hplain : reserved c = false := by
      refine Bool.eq_false_iff.mpr ?_
      intro hr
      exact hreserved c hr hc
    rw [encode_cons, ih hrest, hcontrol, hplain]
    simp [hascii]

theorem encodeAll_cons (c : Char) (rest : List Char) :
    encodeAll (c :: rest) =
      (if isUnreserved c then [c] else (Utf8.encode [c]).flatMap encodeByte) ++ encodeAll rest := by
  rw [encodeAll, encode_cons]
  by_cases h : isUnreserved c = true
  · obtain ⟨hcontrol, hascii⟩ := Encoded.printable (.inr h)
    simp [h, hcontrol, hascii, encodeAll]
  · simp [h, encodeAll]

theorem isUnreserved_hexDigit : ∀ n < 16, isUnreserved (hexDigit n) = true := by decide

theorem encoded_of_mem_encodeByte {b : UInt8} {c : Char} (h : c ∈ encodeByte b) : Encoded c := by
  have hb : b.toNat < 256 := b.toNat_lt
  simp only [encodeByte, List.mem_cons, List.not_mem_nil, or_false] at h
  rcases h with rfl | rfl | rfl
  · exact .inl rfl
  · exact .inr (isUnreserved_hexDigit _ (by omega))
  · exact .inr (isUnreserved_hexDigit _ (by omega))

theorem encoded_of_mem_encodeAll {text : List Char} {c : Char} (h : c ∈ encodeAll text) :
    Encoded c := by
  induction text with
  | nil => simp [encodeAll, encode] at h
  | cons d rest ih =>
    rw [encodeAll_cons] at h
    rcases List.mem_append.mp h with h | h
    · split at h
      · next hd =>
        obtain rfl := List.mem_singleton.mp h
        exact .inr hd
      · obtain ⟨b, -, hb⟩ := List.mem_flatMap.mp h
        exact encoded_of_mem_encodeByte hb
    · exact ih h

theorem length_encodeByte_flatMap (c : Char) :
    3 ≤ ((Utf8.encode [c]).flatMap encodeByte).length := by
  obtain ⟨k, mark, -, hbytes⟩ := Utf8.exists_form c
  have hcons : Utf8.encode [c] = Utf8.encodeChar c ++ [] := List.flatMap_cons
  rw [hcons, hbytes, List.append_nil, List.flatMap_cons, List.length_append]
  exact Nat.le_add_right 3 _

theorem length_le_encodeAll (text : List Char) : text.length ≤ (encodeAll text).length := by
  induction text with
  | nil => exact Nat.le_refl 0
  | cons c rest ih =>
    have hlength := length_encodeByte_flatMap c
    rw [encodeAll_cons, List.length_append, List.length_cons]
    split
    · rw [List.length_singleton]
      omega
    · omega

theorem encodeAll_ne_nil {text : List Char} (h : text ≠ []) : encodeAll text ≠ [] := by
  intro hnil
  have hlength := length_le_encodeAll text
  rw [hnil] at hlength
  exact h (List.eq_nil_of_length_eq_zero (Nat.le_zero.mp hlength))

theorem encodeAll_eq_self {text : List Char} :
    encodeAll text = text ↔ ∀ c ∈ text, isUnreserved c = true := by
  induction text with
  | nil => simp [encodeAll, encode]
  | cons c rest ih =>
    rw [encodeAll_cons, List.forall_mem_cons, ← ih]
    by_cases h : isUnreserved c = true
    · simp [h]
    · refine iff_of_false ?_ (by simp [h])
      intro hsame
      have hmore := length_encodeByte_flatMap c
      have hrest := length_le_encodeAll rest
      have hlength := congrArg List.length hsame
      rw [if_neg h, List.length_append, List.length_cons] at hlength
      omega

end EventBus.Url.Percent
