import EventBus.Proofs.Url.Authority
import EventBus.Text.Alphanumeric

namespace EventBus.Url

/-- Characters that end the part with the user, or that no URL keeps. -/
def cutting : List Char := ['/', '?', '#', '\t', '\n', '\r']

/-- A password as it may stand in a URL. An empty one would be none. -/
@[ext]
structure Secret where
  text : List Char
  nonempty : text ≠ []
  inside : ∀ c ∈ text, c ∉ cutting

theorem isAlphanumeric_of_cutting {c : Char} (h : c ∈ cutting) : Text.isAlphanumeric c = false := by
  have hnone : cutting.all (!Text.isAlphanumeric ·) = true := by decide +kernel
  simpa using List.all_eq_true.mp hnone c h

/-- Letters and digits of any script make a password. -/
def Secret.ofAlphanumeric (text : List Char) (nonempty : text ≠ [])
    (h : ∀ c ∈ text, Text.isAlphanumeric c = true) : Secret where
  text := text
  nonempty := nonempty
  inside := by
    intro c hc hcutting
    have hnot := isAlphanumeric_of_cutting hcutting
    rw [h c hc] at hnot
    cases hnot

/-- A text around a password: what stands before its colon, and after its at sign. -/
structure Frame where
  front : List Char
  back : List Char

def Frame.fill (frame : Frame) (secret : Secret) : List Char :=
  frame.front ++ ':' :: (secret.text ++ '@' :: frame.back)

def Frame.url (frame : Frame) (secret : Secret) : String := String.ofList (frame.fill secret)

theorem Frame.url_inj {frame : Frame} {p q : Secret} (h : frame.url p = frame.url q) : p = q := by
  have htail := (List.cons.inj (List.append_cancel_left (String.ofList_inj.mp h))).2
  exact Secret.ext (List.append_cancel_right htail)

/-- The parts of a URL, but of the password only whether there is one. -/
def masked (parts : Url) : Url := { parts with password := parts.password.map fun _ => "" }

variable {frame : Frame} {secret : Secret}

theorem trim_append {p : Char → Bool} (hcolon : p ':' = false) (hat : p '@' = false)
    (front middle back : List Char) :
    (((front ++ ':' :: (middle ++ '@' :: back)).dropWhile p).reverse.dropWhile p).reverse =
      front.dropWhile p ++ ':' :: (middle ++ '@' :: (back.reverse.dropWhile p).reverse) := by
  have hreverse (rest : List Char) : (rest ++ ':' :: (middle ++ '@' :: back)).reverse =
      back.reverse ++ '@' :: (middle.reverse ++ ':' :: rest.reverse) := by
    simp
  rw [Span.dropWhile_append_stop hcolon, hreverse, Span.dropWhile_append_stop hat]
  simp

/-- Characters that a URL keeps between its ends. -/
def isKept (c : Char) : Bool := c ≠ '\t' && c ≠ '\n' && c ≠ '\r'

theorem Secret.filter_isKept (secret : Secret) : secret.text.filter isKept = secret.text := by
  refine List.filter_eq_self.mpr ?_
  intro c hc
  have hnot := secret.inside c hc
  simp only [cutting, List.mem_cons, not_or] at hnot
  simp only [isKept, hnot, ne_eq, not_false_eq_true, decide_true, Bool.and_self]

theorem exists_clean (frame : Frame) :
    ∃ inner : Frame, ∀ secret, clean (frame.fill secret) = inner.fill secret := by
  refine ⟨⟨(frame.front.dropWhile (· ≤ ' ')).filter isKept,
    ((frame.back.reverse.dropWhile (· ≤ ' ')).reverse).filter isKept⟩, ?_⟩
  intro secret
  have htrim := trim_append (p := (· ≤ ' ')) (by decide) (by decide) frame.front secret.text
    frame.back
  have hclean := congrArg (List.filter isKept) htrim
  rwa [List.filter_append, List.filter_cons_of_pos (by decide), List.filter_append,
    secret.filter_isKept, List.filter_cons_of_pos (by decide)] at hclean

theorem Secret.append_ne_slash (secret : Secret) (back rest : List Char) :
    secret.text ++ back ≠ '/' :: rest := by
  obtain ⟨c, more, htext⟩ := List.exists_cons_of_ne_nil secret.nonempty
  have hinside := secret.inside c (htext ▸ List.mem_cons_self)
  rw [htext, List.cons_append]
  intro h
  rw [(List.cons.inj h).1] at hinside
  exact hinside (by decide)

theorem exists_of_slashes {front back rest : List Char}
    (h : front ++ ':' :: back = '/' :: '/' :: rest) :
    ∃ inner, front = '/' :: '/' :: inner ∧ rest = inner ++ ':' :: back := by
  match front, h with
  | [], h => cases h
  | [_], h => cases h
  | first :: second :: inner, h =>
    simp only [List.cons_append, List.cons.injEq] at h
    obtain ⟨rfl, rfl, rfl⟩ := h
    exact ⟨inner, rfl, rfl⟩

/-- The two slashes before a user are not those of a password: it stands behind them. -/
theorem exists_of_scheme? {name rest : List Char}
    (h : scheme? (frame.fill secret) = some (name, '/' :: '/' :: rest)) :
    ∃ inner : Frame, rest = inner.fill secret ∧
      ∀ other, scheme? (frame.fill other) = some (name, '/' :: '/' :: inner.fill other) := by
  have htake (w : Secret) :
      (frame.fill w).takeWhile isSchemeChar = frame.front.takeWhile isSchemeChar :=
    Span.takeWhile_append_stop rfl _ _
  have hdrop (w : Secret) : (frame.fill w).dropWhile isSchemeChar =
      frame.front.dropWhile isSchemeChar ++ ':' :: (w.text ++ '@' :: frame.back) :=
    Span.dropWhile_append_stop rfl _ _
  simp only [scheme?, htake, hdrop] at h ⊢
  split at h
  · next first more after hname hafter =>
    split at h
    · next halpha =>
      obtain ⟨rfl, rfl⟩ := Prod.mk.inj (Option.some.inj h)
      cases hfront : frame.front.dropWhile isSchemeChar with
      | nil =>
        rw [hfront] at hafter
        exact absurd (List.cons.inj hafter).2 (secret.append_ne_slash _ _)
      | cons mark front =>
        rw [hfront] at hafter
        obtain ⟨rfl, hslashes⟩ := List.cons.inj hafter
        obtain ⟨inner, rfl, hrest⟩ := exists_of_slashes hslashes
        refine ⟨⟨inner, frame.back⟩, hrest, ?_⟩
        intro other
        simp only [hname, List.cons_append, halpha, if_true, Frame.fill]
    · cases h
  · cases h

/-- What ends the part with the host stands before the password or after the at sign. -/
theorem authority_fill (frame : Frame) :
    (∃ text, ∀ secret, (frame.fill secret).takeWhile (fun c => !endsAuthority c) = text) ∨
      ∃ inner : Frame, ∀ secret,
        (frame.fill secret).takeWhile (fun c => !endsAuthority c) = inner.fill secret := by
  by_cases hfront : ∃ c ∈ frame.front, endsAuthority c = true
  · obtain ⟨c, hc, hends⟩ := hfront
    obtain ⟨before, after, hsplit⟩ := List.append_of_mem hc
    refine .inl ⟨before.takeWhile fun c => !endsAuthority c, ?_⟩
    intro secret
    rw [Frame.fill, hsplit, List.append_assoc, List.cons_append]
    exact Span.takeWhile_append_stop (by simp [hends]) _ _
  · refine .inr ⟨⟨frame.front, frame.back.takeWhile fun c => !endsAuthority c⟩, ?_⟩
    intro secret
    have hstays : ∀ c ∈ frame.front, (!endsAuthority c) = true := by
      intro c hc
      rw [Bool.not_eq_true']
      exact Bool.eq_false_iff.mpr fun hends => hfront ⟨c, hc, hends⟩
    have hinside : ∀ c ∈ secret.text, (!endsAuthority c) = true := by
      intro c hc
      have hnot := secret.inside c hc
      simp only [cutting, List.mem_cons, not_or] at hnot
      simp [endsAuthority, hnot]
    rw [Frame.fill, List.takeWhile_append_of_pos hstays, List.takeWhile_cons_of_pos rfl,
      List.takeWhile_append_of_pos hinside, List.takeWhile_cons_of_pos rfl, Frame.fill]

theorem exists_splitUser (frame : Frame) :
    ∃ rest address, ∀ secret : Secret, splitUser (frame.fill secret) =
      (some (frame.front ++ ':' :: (secret.text ++ rest)), address) := by
  have hmem : '@' ∈ ('@' :: frame.back).reverse := List.mem_reverse.mpr List.mem_cons_self
  obtain ⟨address, rest, hsplit, hlast⟩ := List.eq_append_cons_of_mem hmem
  have hback : '@' :: frame.back = rest.reverse ++ '@' :: address.reverse := by
    rw [← List.reverse_reverse ('@' :: frame.back), hsplit]
    simp
  refine ⟨rest.reverse, address.reverse, ?_⟩
  intro secret
  have hfill : frame.fill secret =
      (frame.front ++ ':' :: (secret.text ++ rest.reverse)) ++ '@' :: address.reverse := by
    rw [Frame.fill, hback]
    simp
  rw [hfill]
  exact splitUser_append (mt List.mem_reverse.mp hlast)

/-- Before the password stands a colon, so it is in the password even if it is not all of it. -/
theorem exists_credentials (front rest : List Char) :
    ∃ name, ∀ secret : Secret, ∃ password,
      credentials (front ++ ':' :: (secret.text ++ rest)) = (name, some password) := by
  refine ⟨String.ofList (Percent.encode userReserved.contains (front.takeWhile (· ≠ ':'))), ?_⟩
  intro secret
  obtain ⟨c, more, htext⟩ := List.exists_cons_of_ne_nil secret.nonempty
  simp only [credentials]
  rw [Span.takeWhile_append_stop (by decide), Span.dropWhile_append_stop (by decide), htext]
  cases front.dropWhile (· ≠ ':') with
  | nil => exact ⟨_, rfl⟩
  | cons mark after =>
    cases after with
    | nil => exact ⟨_, rfl⟩
    | cons d after => exact ⟨_, rfl⟩

/-- A URL that is read with one password is read with any other, up to the password. -/
theorem exists_read?_url {p q : Secret} {parts : Url}
    (h : read? (frame.url p) = some parts) :
    ∃ other, read? (frame.url q) = some other ∧ other.masked = parts.masked := by
  obtain ⟨cleaned, hclean⟩ := exists_clean frame
  simp only [read?, Frame.url, String.toList_ofList, hclean] at h ⊢
  obtain ⟨⟨scheme, rest⟩, hscheme, h⟩ := Option.bind_eq_some_iff.mp h
  dsimp only at h
  split at h
  · obtain ⟨inner, rfl, hother⟩ := exists_of_scheme? hscheme
    rw [hother q]
    simp only [Option.bind_eq_bind, Option.bind_some]
    rcases authority_fill inner with ⟨text, hauthority⟩ | ⟨authority, hauthority⟩
    · rw [hauthority] at h ⊢
      exact ⟨parts, h, rfl⟩
    · obtain ⟨after, address, hsplit⟩ := exists_splitUser authority
      obtain ⟨name, hname⟩ := exists_credentials authority.front after
      obtain ⟨secret, hsecret⟩ := hname p
      obtain ⟨secret', hsecret'⟩ := hname q
      simp only [hauthority, hsplit, Option.getD_some, hsecret, hsecret'] at h ⊢
      obtain ⟨host, hhost, h⟩ := Option.bind_eq_some_iff.mp h
      obtain ⟨port, hport, h⟩ := Option.bind_eq_some_iff.mp h
      obtain rfl := Option.some.inj h
      simp only [hhost, hport, Option.bind_some]
      exact ⟨_, rfl, rfl⟩
  · cases h

/-- Whether a URL is read, and all that is read but the password, is the same for all passwords. -/
theorem read?_url (frame : Frame) (p q : Secret) :
    (read? (frame.url p)).map masked = (read? (frame.url q)).map masked := by
  cases hp : read? (frame.url p) with
  | some parts =>
    obtain ⟨other, hq, hmasked⟩ := exists_read?_url (q := q) hp
    rw [hq, Option.map_some, Option.map_some, hmasked]
  | none =>
    cases hq : read? (frame.url q) with
    | none => rfl
    | some parts =>
      obtain ⟨other, hother, -⟩ := exists_read?_url (q := p) hq
      rw [hp] at hother
      cases hother

end EventBus.Url
