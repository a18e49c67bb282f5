import EventBus.Json.Tree
import EventBus.Proofs.Entries
import EventBus.Proofs.Json.Numeral
import EventBus.Proofs.Json.String

namespace EventBus.Json

mutual

/-- The tree that the text of a value is read as. A double has none of its own. -/
def tree : Json → Tree
  | .null => .null
  | .bool b => .bool b
  | .number (.integer i) => .number i.numeral
  | .number (.real _) => .null
  | .string s => .string (Piece.ofString s)
  | .array items => .array (treeItems items)
  | .object fields => .object (treeFields fields)

def treeItems : List Json → List Tree
  | [] => []
  | item :: rest => tree item :: treeItems rest

def treeFields : List (String × Json) → List (List Piece × Tree)
  | [] => []
  | (key, value) :: rest => (Piece.ofString key, tree value) :: treeFields rest

end

/-- A character that begins a value: neither a blank nor the end of a container. -/
def Opens (c : Char) : Prop := Reader.isBlank c = false ∧ c ≠ ']' ∧ c ≠ '}'

instance (c : Char) : Decidable (Opens c) := inferInstanceAs (Decidable (_ ∧ _))

theorem opens_digit {c : Char} (h : c.isDigit = true) : Opens c := by
  refine ⟨?_, ?_, ?_⟩
  · simp only [Reader.isBlank, Bool.or_eq_false_iff, decide_eq_false_iff_not]
    refine ⟨⟨⟨?_, ?_⟩, ?_⟩, ?_⟩ <;> (rintro rfl; revert h; decide)
  · rintro rfl
    revert h
    decide
  · rintro rfl
    revert h
    decide

theorem digits_cons (n : Nat) :
    ∃ c more, Nat.toDigits 10 n = c :: more ∧ c.isDigit = true := by
  obtain ⟨c, more, h⟩ := List.exists_cons_of_ne_nil (Nat.toDigits_ne_nil (n := n) (b := 10))
  exact ⟨c, more, h, Digits.isDigit_of_mem (h ▸ List.mem_cons_self)⟩

theorem write_opens {json : Json} (h : json.Exact) :
    ∃ c more, json.write = c :: more ∧ Opens c := by
  cases json with
  | null => exact ⟨'n', _, rfl, by decide⟩
  | bool b => cases b <;> exact ⟨_, _, rfl, by decide⟩
  | number n =>
    cases n with
    | real x => exact h.elim
    | integer i =>
      rw [write, Number.write, Integer.write]
      split
      · exact ⟨'-', _, rfl, by decide⟩
      · obtain ⟨c, more, hc, hd⟩ := digits_cons i.value.natAbs
        exact ⟨c, more, hc, opens_digit hd⟩
  | string s => exact ⟨'"', _, rfl, by decide⟩
  | array items => cases items <;> exact ⟨'[', _, rfl, by decide⟩
  | object fields => cases fields <;> exact ⟨'{', _, rfl, by decide⟩

theorem skipBlank_cons {c : Char} (h : Reader.isBlank c = false) (rest : List Char) :
    Reader.skipBlank (c :: rest) = c :: rest := by
  rw [Reader.skipBlank, List.dropWhile_cons_of_neg (by simp [h])]

theorem value_digit {c : Char} (h : c.isDigit = true) (fuel : Nat) (rest : List Char) :
    Reader.value (fuel + 1) (c :: rest) =
      (Reader.numeral false (c :: rest)).map fun r => (.number r.1, r.2) := by
  rw [Reader.value, skipBlank_cons (opens_digit h).1]
  split
  case h_8 =>
    cases Reader.numeral false (c :: rest) <;> rfl
  all_goals
    next heq =>
      obtain ⟨rfl, -⟩ := List.cons.inj heq
      exact absurd h (by decide)

theorem value_integer (i : Integer) {rest : List Char} (hr : Ends rest) (fuel : Nat) :
    Reader.value (fuel + 1) (i.write ++ rest) = some (.number i.numeral, rest) := by
  rw [Integer.write]
  by_cases hneg : i.value < 0
  · simp only [if_pos hneg, List.cons_append, List.nil_append]
    rw [Reader.value, skipBlank_cons (by decide)]
    simp [numeral_toDigits true _ hr, Integer.numeral, hneg]
  · simp only [if_neg hneg, List.nil_append]
    obtain ⟨c, more, hc, hd⟩ := digits_cons i.value.natAbs
    have hn := numeral_toDigits false i.value.natAbs hr
    rw [hc] at hn
    rw [hc, List.cons_append, value_digit hd, ← List.cons_append, hn]
    simp [Integer.numeral, hneg, hc]

theorem value_string (s : String) (fuel : Nat) (rest : List Char) :
    Reader.value (fuel + 1) (quote s ++ rest) = some (.string (Piece.ofString s), rest) := by
  obtain ⟨inside, hq, hs⟩ := string_quote s rest
  rw [hq, Reader.value, skipBlank_cons (by decide)]
  simp [hs]

theorem ends_writeItems (items : List Json) (rest : List Char) :
    Ends (writeItems items ++ rest) := by
  cases items <;> exact ends_cons (by decide)

theorem ends_writeFields (fields : List (String × Json)) (rest : List Char) :
    Ends (writeFields fields ++ rest) := by
  rcases fields with - | ⟨⟨key, value⟩, more⟩ <;> exact ends_cons (by decide)

/-- An array with items is read from behind its bracket, where no blank and no bracket is. -/
theorem value_array {items : List Tree} {c : Char} {text rest : List Char} {fuel : Nat}
    (hc : Opens c) (h : Reader.items fuel (c :: text) = some (items, rest)) :
    Reader.value (fuel + 1) ('[' :: c :: text) = some (.array items, rest) := by
  rw [Reader.value, skipBlank_cons (by decide)]
  simp only [skipBlank_cons hc.1]
  split
  · next heq => exact absurd (List.cons.inj heq).1 hc.2.1
  · simp [h]

theorem value_object {fields : List (List Piece × Tree)} {text rest : List Char} {fuel : Nat}
    (h : Reader.fields fuel ('"' :: text) = some (fields, rest)) :
    Reader.value (fuel + 1) ('{' :: '"' :: text) = some (.object fields, rest) := by
  rw [Reader.value, skipBlank_cons (by decide)]
  simp only [skipBlank_cons (by decide : Reader.isBlank '"' = false)]
  split
  · next heq => exact absurd (List.cons.inj heq).1 (by decide)
  · simp [h]

theorem items_last {fuel : Nat} {input rest : List Char} {item : Tree}
    (h : Reader.value fuel input = some (item, ']' :: rest)) :
    Reader.items (fuel + 1) input = some ([item], rest) := by
  rw [Reader.items, h]
  rfl

theorem items_more {fuel : Nat} {input text rest : List Char} {item : Tree} {more : List Tree}
    (h : Reader.value fuel input = some (item, ',' :: text))
    (hm : Reader.items fuel text = some (more, rest)) :
    Reader.items (fuel + 1) input = some (item :: more, rest) := by
  rw [Reader.items, h]
  simp [skipBlank_cons (by decide : Reader.isBlank ',' = false), hm]

theorem fields_last {fuel : Nat} {key : String} {input rest : List Char} {value : Tree}
    (h : Reader.value fuel input = some (value, '}' :: rest)) :
    Reader.fields (fuel + 1) (quote key ++ ':' :: input) =
      some ([(Piece.ofString key, value)], rest) := by
  obtain ⟨inside, hq, hs⟩ := string_quote key (':' :: input)
  rw [hq, Reader.fields, skipBlank_cons (by decide)]
  simp [skipBlank_cons (by decide : Reader.isBlank ':' = false),
    skipBlank_cons (by decide : Reader.isBlank '}' = false), hs, h]

theorem fields_more {fuel : Nat} {key : String} {input text rest : List Char} {value : Tree}
    {more : List (List Piece × Tree)} (h : Reader.value fuel input = some (value, ',' :: text))
    (hm : Reader.fields fuel text = some (more, rest)) :
    Reader.fields (fuel + 1) (quote key ++ ':' :: input) =
      some ((Piece.ofString key, value) :: more, rest) := by
  obtain ⟨inside, hq, hs⟩ := string_quote key (':' :: input)
  rw [hq, Reader.fields, skipBlank_cons (by decide)]
  simp [skipBlank_cons (by decide : Reader.isBlank ':' = false),
    skipBlank_cons (by decide : Reader.isBlank ',' = false), hs, h, hm]

theorem writeItems_pos (items : List Json) : 0 < (writeItems items).length := by
  cases items <;> simp [writeItems]

theorem writeFields_pos (fields : List (String × Json)) : 0 < (writeFields fields).length := by
  rcases fields with - | ⟨⟨key, value⟩, more⟩ <;> simp [writeFields]

theorem write_pos {json : Json} (h : json.Exact) : 0 < json.write.length := by
  obtain ⟨c, text, hc, -⟩ := write_opens h
  simp [hc]

mutual

/-- The nested calls use up the fuel by two for each character at most, and every value has a
character of its own. -/
theorem value_write : ∀ json : Json, json.Exact → ∀ (rest : List Char), Ends rest →
    ∀ fuel : Nat, 2 * json.write.length ≤ fuel →
    Reader.value fuel (json.write ++ rest) = some (json.tree, rest) := by
  intro json hj rest hr fuel hf
  have hpos := write_pos hj
  obtain ⟨fuel, rfl⟩ : ∃ n, fuel = n + 1 := ⟨fuel - 1, by omega⟩
  match json with
  | .null => rfl
  | .bool true => rfl
  | .bool false => rfl
  | .number (.integer i) => exact value_integer i hr fuel
  | .string s => exact value_string s fuel rest
  | .array [] => rfl
  | .object [] => rfl
  | .array (item :: more) =>
    obtain ⟨c, text, hc, hopens⟩ := write_opens hj.1
    have hitems := items_write (item :: more) (by simp) hj rest fuel (by
      simp only [write, writeItems, List.length_append, List.length_cons] at hf ⊢
      omega)
    simp only [writeItems, List.cons_append, List.tail_cons, hc] at hitems
    simp only [write, List.cons_append, hc]
    exact value_array hopens hitems
  | .object ((key, value) :: more) =>
    have hfields := fields_write ((key, value) :: more) (by simp) hj rest fuel (by
      simp only [write, writeFields, List.length_append, List.length_cons] at hf ⊢
      omega)
    simp only [writeFields, List.cons_append, List.tail_cons, quote] at hfields
    simp only [write, List.cons_append, quote]
    exact value_object hfields

theorem items_write : ∀ items : List Json, items ≠ [] → ExactItems items →
    ∀ (rest : List Char) (fuel : Nat), 2 * (writeItems items).length ≤ fuel + 2 →
    Reader.items fuel ((writeItems items).tail ++ rest) = some (treeItems items, rest) := by
  intro items hne hitems rest fuel hf
  match items with
  | item :: more =>
    have hpos := write_pos hitems.1
    have hmore := writeItems_pos more
    simp only [writeItems, List.length_append, List.length_cons] at hf
    obtain ⟨fuel, rfl⟩ : ∃ n, fuel = n + 1 := ⟨fuel - 1, by omega⟩
    have hitem := value_write item hitems.1 _ (ends_writeItems more rest) fuel (by omega)
    -- Taken before the split, so that the call is one on `more` itself.
    have ih := fun hne => items_write more hne hitems.2 rest fuel (by omega)
    simp only [writeItems, List.cons_append, List.tail_cons, List.append_assoc]
    cases more with
    | nil => exact items_last hitem
    | cons next more => exact items_more hitem (ih (by simp))

theorem fields_write : ∀ fields : List (String × Json), fields ≠ [] → ExactFields fields →
    ∀ (rest : List Char) (fuel : Nat), 2 * (writeFields fields).length ≤ fuel + 2 →
    Reader.fields fuel ((writeFields fields).tail ++ rest) = some (treeFields fields, rest) := by
  intro fields hne hfields rest fuel hf
  match fields with
  | (key, value) :: more =>
    have hpos := write_pos hfields.1
    have hmore := writeFields_pos more
    simp only [writeFields, List.length_append, List.length_cons] at hf
    obtain ⟨fuel, rfl⟩ : ∃ n, fuel = n + 1 := ⟨fuel - 1, by omega⟩
    have hvalue := value_write value hfields.1 _ (ends_writeFields more rest) fuel (by omega)
    have ih := fun hne => fields_write more hne hfields.2 rest fuel (by omega)
    simp only [writeFields, List.cons_append, List.tail_cons, List.append_assoc]
    rcases more with - | ⟨⟨nextKey, next⟩, more⟩
    · exact fields_last hvalue
    · exact fields_more hvalue (ih (by simp))

end

theorem read_write {json : Json} (h : json.Exact) : Tree.read json.write = some json.tree := by
  have hv := value_write json h [] ends_nil (2 * json.write.length + 2) (by omega)
  rw [List.append_nil] at hv
  rw [Tree.read, hv]
  rfl

mutual

theorem json?_tree : ∀ json : Json, json.Exact → json.Canonical → ∀ depth : Nat,
    json.depth ≤ depth → json.tree.json? depth = some json := by
  intro json he hc depth hd
  match json with
  | .null => rfl
  | .bool b => rfl
  | .number (.integer i) => simp [tree, Tree.json?, value?_numeral]
  | .string s => simp [tree, Tree.json?, string?_ofString]
  | .array items =>
    obtain ⟨depth, rfl⟩ : ∃ n, depth = n + 1 := ⟨depth - 1, by simp [Json.depth] at hd; omega⟩
    have hitems := itemsJson?_tree items he hc depth (by
      simp only [Json.depth] at hd
      omega)
    simp [tree, Tree.json?, hitems]
  | .object fields =>
    obtain ⟨depth, rfl⟩ : ∃ n, depth = n + 1 := ⟨depth - 1, by simp [Json.depth] at hd; omega⟩
    have hfields := fieldsJson?_tree fields he hc.2 depth (by
      simp only [Json.depth] at hd
      omega)
    simp [tree, Tree.json?, hfields, ofFields, Entries.ofList_of_ascending hc.1]

theorem itemsJson?_tree : ∀ items : List Json, ExactItems items → CanonicalItems items →
    ∀ depth : Nat, depthItems items ≤ depth →
    itemsJson? depth (treeItems items) = some items := by
  intro items he hc depth hd
  match items with
  | [] => rfl
  | item :: more =>
    have hmax := Nat.max_le.mp hd
    have hitem := json?_tree item he.1 hc.1 depth hmax.1
    have hmore := itemsJson?_tree more he.2 hc.2 depth hmax.2
    simp [treeItems, itemsJson?, hitem, hmore]

theorem fieldsJson?_tree : ∀ fields : List (String × Json), ExactFields fields →
    CanonicalFields fields → ∀ depth : Nat, depthFields fields ≤ depth →
    fieldsJson? depth (treeFields fields) = some fields := by
  intro fields he hc depth hd
  match fields with
  | [] => rfl
  | (key, value) :: more =>
    have hmax := Nat.max_le.mp hd
    have hvalue := json?_tree value he.1 hc.1 depth hmax.1
    have hmore := fieldsJson?_tree more he.2 hc.2 depth hmax.2
    simp [treeFields, fieldsJson?, string?_ofString, hvalue, hmore]

end

theorem ofChars?_write {json : Json} (he : json.Exact) (hc : json.Canonical)
    (hd : json.depth ≤ maxDepth) : ofChars? json.write = some json := by
  rw [ofChars?, read_write he]
  exact json?_tree json he hc maxDepth hd

end EventBus.Json
