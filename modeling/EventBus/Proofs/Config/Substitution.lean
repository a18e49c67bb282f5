import EventBus.Config.Load
import EventBus.Proofs.Span

namespace EventBus.Config

namespace Reference

/-- A reference as it stands in a text. -/
def text (r : Reference) : List Char :=
  '$' :: '\x7b' :: r.name ++
    match r.default with
    | none => ['\x7d']
    | some default => ':' :: '-' :: default ++ ['\x7d']

/-- What a text can refer with: what ends a name is not in it, and what ends a default neither. -/
structure WellFormed (r : Reference) : Prop where
  name_ne_nil : r.name ≠ []
  name_plain : ∀ c ∈ r.name, c ≠ '\x7d' ∧ c ≠ ':'
  default_plain : ∀ default ∈ r.default, ∀ c ∈ default, c ≠ '\x7d'

def value? (environment : String → Option String) (r : Reference) : Option (List Char) :=
  match environment (String.ofList r.name) with
  | some value => some value.toList
  | none => r.default

theorem resolve_of_value {environment : String → Option String} {r : Reference}
    {value : List Char} (h : r.value? environment = some value) :
    r.resolve environment = .ok value := by
  unfold value? at h
  unfold resolve
  split at h
  · next heq =>
    obtain rfl := Option.some.inj h
    simp only [heq]
  · next heq => simp only [heq, h]

theorem resolve_of_none {environment : String → Option String} {r : Reference}
    (h : r.value? environment = none) :
    r.resolve environment = .error (String.ofList r.name) := by
  unfold value? at h
  unfold resolve
  split at h
  · cases h
  · next heq => simp only [heq, h]

theorem read?_text_append {r : Reference} (h : r.WellFormed) (after : List Char) :
    read? (r.text ++ after) = some (r, after) := by
  obtain ⟨name, default⟩ := r
  obtain ⟨hne, hplain, hdefault⟩ := h
  have hname : ∀ c ∈ name, isNameChar c = true := by
    intro c hc
    simp [isNameChar, hplain c hc]
  cases default with
  | none =>
    have htake := Span.takeWhile_append_cons (x := '\x7d') hname rfl after
    have hdrop := Span.dropWhile_append_cons (x := '\x7d') hname rfl after
    simp [text, read?, htake, hdrop, hne]
  | some default =>
    have hinner : ∀ c ∈ default, isDefaultChar c = true := by
      intro c hc
      simp [isDefaultChar, hdefault default rfl c hc]
    have htake := Span.takeWhile_append_cons (x := ':') hname rfl
      ('-' :: (default ++ '\x7d' :: after))
    have hdrop := Span.dropWhile_append_cons (x := ':') hname rfl
      ('-' :: (default ++ '\x7d' :: after))
    have htakeInner := Span.takeWhile_append_cons (x := '\x7d') hinner rfl after
    have hdropInner := Span.dropWhile_append_cons (x := '\x7d') hinner rfl after
    simp [text, read?, htake, hdrop, htakeInner, hdropInner, hne]

theorem of_read? {text after : List Char} {r : Reference} (h : read? text = some (r, after)) :
    r.WellFormed ∧ text = r.text ++ after := by
  unfold read? at h
  split at h
  case h_2 => cases h
  case h_1 rest =>
    have hrest := List.takeWhile_append_dropWhile (p := isNameChar) (l := rest)
    have hname : ∀ c ∈ rest.takeWhile isNameChar, c ≠ '\x7d' ∧ c ≠ ':' := by
      intro c hc
      simpa [isNameChar] using Span.of_mem_takeWhile hc
    dsimp only at h
    split at h
    · cases h
    · next hne =>
      split at h
      · next heq =>
        cases h
        rw [heq] at hrest
        exact ⟨⟨hne, hname, by simp⟩, by simp [Reference.text, hrest]⟩
      · next inner heq =>
        rw [heq] at hrest
        have hinner := List.takeWhile_append_dropWhile (p := isDefaultChar) (l := inner)
        split at h
        · next hclose =>
          cases h
          rw [hclose] at hinner
          refine ⟨⟨hne, hname, ?_⟩, by simp [Reference.text, hrest, hinner]⟩
          intro default hdefault c hc
          obtain rfl := Option.some.inj hdefault
          simpa [isDefaultChar] using Span.of_mem_takeWhile hc
        · cases h
      · cases h

/-- What is read at the start of a text is the one reference that stands there. -/
theorem read?_eq_some {text after : List Char} {r : Reference} :
    read? text = some (r, after) ↔ r.WellFormed ∧ text = r.text ++ after := by
  constructor
  · exact of_read?
  · rintro ⟨hwell, rfl⟩
    exact read?_text_append hwell after

end Reference

/-- A reference stands in a text, with what is before and behind it. -/
structure Occurs (text before : List Char) (r : Reference) (after : List Char) : Prop where
  wellFormed : r.WellFormed
  split : text = before ++ (r.text ++ after)

structure Leftmost (text before : List Char) (r : Reference) (after : List Char) : Prop
    extends Occurs text before r after where
  least : ∀ {front other back}, Occurs text front other back → before.length ≤ front.length

theorem not_occurs_nil {before after : List Char} {r : Reference} :
    ¬Occurs [] before r after := by
  rintro ⟨-, hsplit⟩
  simp [Reference.text] at hsplit

theorem Leftmost.of_read? {text after : List Char} {r : Reference}
    (h : Reference.read? text = some (r, after)) : Leftmost text [] r after := by
  obtain ⟨hwell, hsplit⟩ := Reference.of_read? h
  refine ⟨⟨hwell, hsplit⟩, ?_⟩
  intro front other back _
  exact Nat.zero_le front.length

theorem Occurs.of_cons {c : Char} {rest front back : List Char} {r : Reference}
    (hread : Reference.read? (c :: rest) = none) (h : Occurs (c :: rest) front r back) :
    ∃ front', front = c :: front' ∧ Occurs rest front' r back := by
  cases front with
  | nil =>
    have hsome := Reference.read?_eq_some.mpr ⟨h.wellFormed, h.split⟩
    rw [hread] at hsome
    cases hsome
  | cons d front =>
    obtain ⟨rfl, hrest⟩ := List.cons.inj h.split
    exact ⟨front, rfl, h.wellFormed, hrest⟩

theorem Leftmost.cons {c : Char} {rest before after : List Char} {r : Reference}
    (hread : Reference.read? (c :: rest) = none) (h : Leftmost rest before r after) :
    Leftmost (c :: rest) (c :: before) r after := by
  refine ⟨⟨h.wellFormed, congrArg (c :: ·) h.split⟩, ?_⟩
  intro front other back hother
  obtain ⟨front, rfl, hrest⟩ := hother.of_cons hread
  exact Nat.succ_le_succ (h.least hrest)

theorem Leftmost.tail {c : Char} {text before after : List Char} {r : Reference}
    (h : Leftmost text (c :: before) r after) :
    ∃ rest, text = c :: rest ∧ Reference.read? text = none ∧ Leftmost rest before r after := by
  refine ⟨_, h.split, ?_, ⟨h.wellFormed, rfl⟩, ?_⟩
  · cases hread : Reference.read? text with
    | none => rfl
    | some found =>
      have hfirst := h.least (Leftmost.of_read? hread).toOccurs
      simp at hfirst
  · intro front other back hother
    have hmore : Occurs text (c :: front) other back :=
      ⟨hother.wellFormed, h.split.trans (congrArg (c :: ·) hother.split)⟩
    exact Nat.le_of_succ_le_succ (h.least hmore)

/-- The references of a text from left to right, each with what stands between it and the one
before, and what is behind the last. -/
inductive Cut : List Char → List (List Char × Reference) → List Char → Prop where
  | rest {text} (h : ∀ before r after, ¬Occurs text before r after) : Cut text [] text
  | reference {text before r after pieces rest} (h : Leftmost text before r after)
      (hafter : Cut after pieces rest) : Cut text ((before, r) :: pieces) rest

theorem Cut.cons {c : Char} {text rest : List Char} {pieces : List (List Char × Reference)}
    (hread : Reference.read? (c :: text) = none) (h : Cut text pieces rest) :
    ∃ pieces' rest', Cut (c :: text) pieces' rest' := by
  cases h with
  | rest hnone =>
    refine ⟨[], c :: text, .rest ?_⟩
    intro before r after hoccurs
    obtain ⟨before, -, hoccurs⟩ := hoccurs.of_cons hread
    exact hnone before r after hoccurs
  | reference hleft hafter => exact ⟨_, _, .reference (hleft.cons hread) hafter⟩

theorem exists_cut (text : List Char) : ∃ pieces rest, Cut text pieces rest := by
  fun_induction referenced text with
  | case1 => exact ⟨[], [], .rest fun _ _ _ => not_occurs_nil⟩
  | case2 c text r after hread ih =>
    obtain ⟨pieces, rest, hcut⟩ := ih
    exact ⟨([], r) :: pieces, rest, .reference (.of_read? hread) hcut⟩
  | case3 c text hread ih =>
    obtain ⟨pieces, rest, hcut⟩ := ih
    exact hcut.cons hread

theorem Cut.text_eq {text rest : List Char} {pieces : List (List Char × Reference)}
    (h : Cut text pieces rest) :
    text = pieces.flatMap (fun piece => piece.1 ++ piece.2.text) ++ rest := by
  induction h with
  | rest => rfl
  | reference hleft _ ih =>
    rw [hleft.split, List.flatMap_cons, List.append_assoc, ← ih, List.append_assoc]

variable {environment : String → Option String}

theorem substitute_of_read? {text after : List Char} {r : Reference}
    (h : Reference.read? text = some (r, after)) :
    substitute environment text =
      (r.resolve environment).bind fun value =>
        (substitute environment after).map (value ++ ·) := by
  cases text with
  | nil => cases h
  | cons c rest =>
    rw [substitute]
    split
    · next hread =>
      rw [h] at hread
      cases hread
      rfl
    · next hread =>
      rw [h] at hread
      cases hread

theorem substitute_cons {c : Char} {rest : List Char} (h : Reference.read? (c :: rest) = none) :
    substitute environment (c :: rest) = (substitute environment rest).map (c :: ·) := by
  rw [substitute]
  split
  · next hread =>
    rw [h] at hread
    cases hread
  · rfl

theorem substitute_of_not_occurs {text : List Char}
    (h : ∀ before r after, ¬Occurs text before r after) :
    substitute environment text = .ok text := by
  induction text with
  | nil => rw [substitute]
  | cons c rest ih =>
    have hread : Reference.read? (c :: rest) = none := by
      cases hread : Reference.read? (c :: rest) with
      | none => rfl
      | some found => exact absurd (Leftmost.of_read? hread).toOccurs (h _ _ _)
    have hrest : ∀ before r after, ¬Occurs rest before r after := by
      rintro before r after ⟨hwell, rfl⟩
      exact h (c :: before) r after ⟨hwell, rfl⟩
    rw [substitute_cons hread, ih hrest]
    rfl

theorem substitute_of_leftmost {text before after : List Char} {r : Reference}
    (h : Leftmost text before r after) :
    substitute environment text =
      (r.resolve environment).bind fun value =>
        (substitute environment after).map fun rest => before ++ (value ++ rest) := by
  induction before generalizing text with
  | nil => exact substitute_of_read? (Reference.read?_eq_some.mpr ⟨h.wellFormed, h.split⟩)
  | cons c before ih =>
    obtain ⟨rest, rfl, hread, hrest⟩ := h.tail
    rw [substitute_cons hread, ih hrest]
    cases r.resolve environment with
    | error name => rfl
    | ok value => cases substitute environment after <;> rfl

/-- A text with values in place of the references it is cut at. -/
def filled (environment : String → Option String) (pieces : List (List Char × Reference))
    (rest : List Char) : List Char :=
  pieces.flatMap (fun piece => piece.1 ++ (piece.2.value? environment).getD []) ++ rest

theorem substitute_of_values {text rest : List Char} {pieces : List (List Char × Reference)}
    (hcut : Cut text pieces rest)
    (hvalues : ∀ piece ∈ pieces, piece.2.value? environment ≠ none) :
    substitute environment text = .ok (filled environment pieces rest) := by
  induction hcut with
  | rest hnone => exact substitute_of_not_occurs hnone
  | @reference text before r after pieces rest hleft _ ih =>
    obtain ⟨hr, hmore⟩ := List.forall_mem_cons.mp hvalues
    obtain ⟨value, hvalue⟩ := Option.ne_none_iff_exists'.mp hr
    rw [substitute_of_leftmost hleft, Reference.resolve_of_value hvalue, ih hmore]
    simp [Except.bind, Except.map, filled, hvalue]

theorem substitute_of_missing {text before rest : List Char} {r : Reference}
    {pieces front back : List (List Char × Reference)} (hcut : Cut text pieces rest)
    (hsplit : pieces = front ++ (before, r) :: back)
    (hvalues : ∀ piece ∈ front, piece.2.value? environment ≠ none)
    (hr : r.value? environment = none) :
    substitute environment text = .error (String.ofList r.name) := by
  induction front generalizing text pieces with
  | nil =>
    subst hsplit
    cases hcut with
    | reference hleft _ =>
      rw [substitute_of_leftmost hleft, Reference.resolve_of_none hr]
      rfl
  | cons piece front ih =>
    subst hsplit
    obtain ⟨hpiece, hfront⟩ := List.forall_mem_cons.mp hvalues
    obtain ⟨value, hvalue⟩ := Option.ne_none_iff_exists'.mp hpiece
    cases hcut with
    | reference hleft hafter =>
      rw [substitute_of_leftmost hleft, Reference.resolve_of_value hvalue, ih hafter rfl hfront]
      rfl

theorem load_of_missing {text : List Char} {name : String}
    (h : substitute environment text = .error name) (clientId : String) :
    load environment clientId (String.ofList text) = .error (.variableMissing name) := by
  rw [load, String.toList_ofList, h]

/-- A text without references stays as it is. Otherwise the leftmost reference gives way to its
value, what is before it stays and only what is behind it is read again. So over the whole text the
values stand where the references of its cut were, unless one has none: then the first of those is
the error, and no configuration is loaded. -/
theorem substitute_single_pass (environment : String → Option String) (text : List Char) :
    ((∀ before r after, ¬Occurs text before r after) → substitute environment text = .ok text) ∧
    (∀ before r after, Leftmost text before r after →
      (∀ value, r.value? environment = some value →
        substitute environment text =
          (substitute environment after).map fun rest => before ++ (value ++ rest)) ∧
      (r.value? environment = none →
        substitute environment text = .error (String.ofList r.name))) ∧
    (∃ pieces rest, Cut text pieces rest) ∧
    ∀ pieces rest, Cut text pieces rest →
      text = pieces.flatMap (fun piece => piece.1 ++ piece.2.text) ++ rest ∧
      ((∀ piece ∈ pieces, piece.2.value? environment ≠ none) →
        substitute environment text = .ok (filled environment pieces rest)) ∧
      ∀ front before r back, pieces = front ++ (before, r) :: back →
        (∀ piece ∈ front, piece.2.value? environment ≠ none) → r.value? environment = none →
        substitute environment text = .error (String.ofList r.name) ∧
          ∀ clientId, load environment clientId (String.ofList text) =
            .error (.variableMissing (String.ofList r.name)) := by
  refine ⟨substitute_of_not_occurs, ?_, exists_cut text, ?_⟩
  · intro before r after hleft
    rw [substitute_of_leftmost hleft]
    constructor
    · intro value hvalue
      rw [Reference.resolve_of_value hvalue]
      rfl
    · intro hr
      rw [Reference.resolve_of_none hr]
      rfl
  · intro pieces rest hcut
    refine ⟨hcut.text_eq, substitute_of_values hcut, ?_⟩
    intro front before r back hsplit hvalues hr
    have hmissing := substitute_of_missing hcut hsplit hvalues hr
    exact ⟨hmissing, load_of_missing hmissing⟩

/-- A default and a value that is a reference itself, then a variable without either. -/
theorem substitute_single_pass_nested :
    let environment : String → Option String :=
      fun name => if name = "B" then some "$\x7bA\x7d" else none
    let a : Reference := ⟨['A'], some ['b']⟩
    let b : Reference := ⟨['B'], none⟩
    let c : Reference := ⟨['C'], none⟩
    let text := "$\x7bA:-b\x7d/$\x7bB\x7d.".toList
    let missing := "$\x7bB\x7d.$\x7bC\x7d".toList
    ((∀ before r after, ¬Occurs ['.'] before r after) ∧
      substitute environment ['.'] = .ok ['.']) ∧
    (Leftmost missing [] b ".$\x7bC\x7d".toList ∧
      b.value? environment = some "$\x7bA\x7d".toList ∧
      substitute environment missing =
        (substitute environment ".$\x7bC\x7d".toList).map
          fun rest => [] ++ ("$\x7bA\x7d".toList ++ rest)) ∧
    (Leftmost "$\x7bC\x7d".toList [] c [] ∧ c.value? environment = none ∧
      substitute environment "$\x7bC\x7d".toList = .error "C") ∧
    (Cut text [([], a), (['/'], b)] ['.'] ∧
      (∀ piece ∈ [([], a), (['/'], b)], piece.2.value? environment ≠ none) ∧
      substitute environment text = .ok "b/$\x7bA\x7d.".toList) ∧
    Cut missing [([], b), (['.'], c)] [] ∧ load environment "" (String.ofList missing) =
      .error (.variableMissing "C") := by
  intro environment a b c text missing
  have hend : ∀ before r after, ¬Occurs ['.'] before r after := by
    intro before r after hoccurs
    obtain ⟨_, -, hnil⟩ := hoccurs.of_cons (by rfl)
    exact not_occurs_nil hnil
  have hb : Leftmost missing [] b ".$\x7bC\x7d".toList := .of_read? (by rfl)
  have hc : Leftmost "$\x7bC\x7d".toList [] c [] := .of_read? (by rfl)
  have htext : Cut text [([], a), (['/'], b)] ['.'] :=
    .reference (.of_read? (by rfl)) (.reference (.cons (by rfl) (.of_read? (by rfl))) (.rest hend))
  have hmissing : Cut missing [([], b), (['.'], c)] [] :=
    .reference hb (.reference (hc.cons (by rfl)) (.rest fun _ _ _ => not_occurs_nil))
  have hvalues : ∀ piece ∈ [([], a), (['/'], b)], piece.2.value? environment ≠ none := by decide
  have hfront : ∀ piece ∈ [(([] : List Char), b)], piece.2.value? environment ≠ none := by decide
  obtain ⟨hplain, -⟩ := substitute_single_pass environment ['.']
  obtain ⟨-, hleft, -, hcut⟩ := substitute_single_pass environment missing
  obtain ⟨-, hlast, -⟩ := substitute_single_pass environment "$\x7bC\x7d".toList
  obtain ⟨-, -, -, hwhole⟩ := substitute_single_pass environment text
  exact ⟨⟨hend, hplain hend⟩, ⟨hb, rfl, (hleft _ _ _ hb).1 _ rfl⟩,
    ⟨hc, rfl, (hlast _ _ _ hc).2 rfl⟩, ⟨htext, hvalues, (hwhole _ _ htext).2.1 hvalues⟩,
    hmissing, ((hcut _ _ hmissing).2.2 _ _ _ _ rfl hfront rfl).2 ""⟩

end EventBus.Config
