import EventBus.Json.Reader
import EventBus.Json.Writer

namespace EventBus.Json

/-- The piece that a written character is read as. Control characters without an escape of their
own are written as code units. -/
def Piece.ofChar (c : Char) : Piece :=
  if c.toNat < 0x20 ∧ c ∉ ['\n', '\r', '\t', '\x08', '\x0c'] then .unit c.toNat else .char c

def Piece.ofString (s : String) : List Piece := s.toList.map Piece.ofChar

theorem hexValue?_hexDigit : ∀ n < 16, Reader.hexValue? (hexDigit n) = some n := by decide

theorem string_plain {c : Char} (hq : c ≠ '"') (hb : c ≠ '\\') (hc : ¬c.toNat < 0x20)
    (rest : List Char) :
    Reader.string (c :: rest) = (Reader.string rest).map fun r => (.char c :: r.1, r.2) := by
  rw [Reader.string.eq_def]
  split
  · contradiction
  · simp_all
  · simp_all
  · simp_all
  · next d more _ _ h =>
    simp only [List.cons.injEq] at h
    obtain ⟨rfl, rfl⟩ := h
    rw [if_neg hc]
    cases Reader.string rest <;> rfl

theorem string_unit {c : Char} (hc : c.toNat < 0x20) (rest : List Char) :
    Reader.string ('\\' :: 'u' :: '0' :: '0' :: hexDigit (c.toNat / 16) ::
        hexDigit (c.toNat % 16) :: rest) =
      (Reader.string rest).map fun r => (.unit c.toNat :: r.1, r.2) := by
  have h1 := hexValue?_hexDigit (c.toNat / 16) (by omega)
  have h2 := hexValue?_hexDigit (c.toNat % 16) (by omega)
  have h0 : Reader.hexValue? '0' = some 0 := by decide
  have hn : ((0 * 16 + 0) * 16 + c.toNat / 16) * 16 + c.toNat % 16 = c.toNat := by omega
  simp only [Reader.string, h0, h1, h2, Option.bind_eq_bind, Option.bind_some, hn]
  cases Reader.string rest <;> rfl

theorem string_short {d c : Char} (hu : d ≠ 'u') (he : Reader.escape? d = some c)
    (rest : List Char) :
    Reader.string ('\\' :: d :: rest) =
      (Reader.string rest).map fun r => (.char c :: r.1, r.2) := by
  rw [Reader.string.eq_def]
  split
  · contradiction
  · simp_all
  · simp_all
  · next h =>
    simp only [List.cons.injEq, true_and] at h
    obtain ⟨rfl, rfl⟩ := h
    rw [he]
    cases Reader.string rest <;> rfl
  · next hne h =>
    simp only [List.cons.injEq] at h
    exact absurd h.2.symm (hne d rest h.1.symm)

theorem string_escape (c : Char) (rest : List Char) :
    Reader.string (escape c ++ rest) =
      (Reader.string rest).map fun r => (Piece.ofChar c :: r.1, r.2) := by
  unfold escape
  split
  · next h => subst h; exact string_short (by decide) rfl rest
  next hquote =>
  split
  · next h => subst h; exact string_short (by decide) rfl rest
  next hslash =>
  split
  · next h => subst h; exact string_short (by decide) rfl rest
  next hn =>
  split
  · next h => subst h; exact string_short (by decide) rfl rest
  next hr =>
  split
  · next h => subst h; exact string_short (by decide) rfl rest
  next ht =>
  split
  · next h => subst h; exact string_short (by decide) rfl rest
  next hb =>
  split
  · next h => subst h; exact string_short (by decide) rfl rest
  next hf =>
  split
  · next hc =>
    have hp : Piece.ofChar c = .unit c.toNat := by simp [Piece.ofChar, hc, hn, hr, ht, hb, hf]
    rw [hp]
    exact string_unit hc rest
  · next hc =>
    have hp : Piece.ofChar c = .char c := by simp [Piece.ofChar, hc]
    rw [hp]
    exact string_plain hquote hslash hc rest

theorem string_flatMap_escape (text rest : List Char) :
    Reader.string (text.flatMap escape ++ '"' :: rest) = some (text.map Piece.ofChar, rest) := by
  induction text with
  | nil => rfl
  | cons c text ih =>
    rw [List.flatMap_cons, List.append_assoc, string_escape, ih]
    rfl

theorem string_quote (s : String) (rest : List Char) :
    ∃ inside, quote s ++ rest = '"' :: inside ∧
      Reader.string inside = some (Piece.ofString s, rest) := by
  refine ⟨s.toList.flatMap escape ++ '"' :: rest, by simp [quote], ?_⟩
  exact string_flatMap_escape s.toList rest

theorem text?_map_ofChar (text : List Char) : Piece.text? (text.map Piece.ofChar) = some text := by
  induction text with
  | nil => rfl
  | cons c text ih =>
    rw [List.map_cons, Piece.ofChar]
    split
    · next hc =>
      have hn := hc.1
      rw [Piece.text?.eq_def]
      simp only [ih]
      rw [if_neg (by omega), if_neg (by omega)]
      simp
    · rw [Piece.text?, ih]
      rfl

theorem string?_ofString (s : String) : Piece.string? (Piece.ofString s) = some s := by
  simp [Piece.string?, Piece.ofString, text?_map_ofChar]

end EventBus.Json
