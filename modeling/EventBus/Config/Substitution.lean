namespace EventBus.Config

structure Reference where
  name : List Char
  default : Option (List Char)
  deriving DecidableEq, Repr

namespace Reference

def isNameChar (c : Char) : Bool := c ≠ '\x7d' && c ≠ ':'

def isDefaultChar (c : Char) : Bool := c ≠ '\x7d'

/-- The reference at the start of a text, and what follows it. -/
def read? : List Char → Option (Reference × List Char)
  | '$' :: '\x7b' :: rest =>
    let name := rest.takeWhile isNameChar
    if name = [] then none
    else
      match rest.dropWhile isNameChar with
      | '\x7d' :: after => some (⟨name, none⟩, after)
      | ':' :: '-' :: rest =>
        match rest.dropWhile isDefaultChar with
        | '\x7d' :: after => some (⟨name, some (rest.takeWhile isDefaultChar)⟩, after)
        | _ => none
      | _ => none
  | _ => none

theorem length_dropWhile_le (p : Char → Bool) (l : List Char) :
    (l.dropWhile p).length ≤ l.length :=
  (List.dropWhile_suffix p).length_le

theorem length_lt_of_read? {text after : List Char} {r : Reference}
    (h : read? text = some (r, after)) : after.length < text.length := by
  unfold read? at h
  split at h
  · next rest =>
    have hrest := length_dropWhile_le isNameChar rest
    dsimp only at h
    split at h
    · cases h
    · split at h
      · next heq =>
        cases h
        rw [heq] at hrest
        simp only [List.length_cons] at hrest ⊢
        omega
      · next inner heq =>
        have hinner := length_dropWhile_le isDefaultChar inner
        rw [heq] at hrest
        split at h
        · next heq' =>
          cases h
          rw [heq'] at hinner
          simp only [List.length_cons] at hrest hinner ⊢
          omega
        · cases h
      · cases h
  · cases h

/-- The variable if it is set, else the default; without either, the name that is missing. -/
def resolve (environment : String → Option String) (r : Reference) :
    Except String (List Char) :=
  match environment (String.ofList r.name), r.default with
  | some value, _ => .ok value.toList
  | none, some text => .ok text
  | none, none => .error (String.ofList r.name)

end Reference

/-- Put values for all references, read once from left to right. What is put in is not read again,
and the first one that cannot be resolved is the error. -/
def substitute (environment : String → Option String) (text : List Char) :
    Except String (List Char) :=
  match text with
  | [] => .ok []
  | c :: rest =>
    match _h : Reference.read? (c :: rest) with
    | some (r, after) => do
      let value ← r.resolve environment
      let tail ← substitute environment after
      .ok (value ++ tail)
    | none => do
      let tail ← substitute environment rest
      .ok (c :: tail)
termination_by text.length
decreasing_by
  · exact Reference.length_lt_of_read? _h
  · simp

def referenced (text : List Char) : List String :=
  match text with
  | [] => []
  | c :: rest =>
    match _h : Reference.read? (c :: rest) with
    | some (r, after) => String.ofList r.name :: referenced after
    | none => referenced rest
termination_by text.length
decreasing_by
  · exact Reference.length_lt_of_read? _h
  · simp

end EventBus.Config
