import EventBus.Proofs.Json.Members
import EventBus.Proofs.Json.Text

namespace EventBus.Json

open Entries

mutual

/-- The same value, with the members of its objects in some order. -/
inductive Arranged : Json → Json → Prop where
  | null : Arranged .null .null
  | bool (b : Bool) : Arranged (.bool b) (.bool b)
  | number (n : Number) : Arranged (.number n) (.number n)
  | string (s : String) : Arranged (.string s) (.string s)
  | array {items written : List Json} (h : ArrangedItems items written) :
    Arranged (.array items) (.array written)
  | object {fields others written : List (String × Json)} (h : ArrangedFields fields others)
    (hp : others.Perm written) : Arranged (.object fields) (.object written)

inductive ArrangedItems : List Json → List Json → Prop where
  | nil : ArrangedItems [] []
  | cons {item written : Json} {items more : List Json} (h : Arranged item written)
    (hs : ArrangedItems items more) : ArrangedItems (item :: items) (written :: more)

inductive ArrangedFields : List (String × Json) → List (String × Json) → Prop where
  | nil : ArrangedFields [] []
  | cons {key : String} {value written : Json} {fields more : List (String × Json)}
    (h : Arranged value written) (hs : ArrangedFields fields more) :
    ArrangedFields ((key, value) :: fields) ((key, written) :: more)

end

mutual

theorem Arranged.refl : ∀ json : Json, Arranged json json
  | .null => .null
  | .bool b => .bool b
  | .number n => .number n
  | .string s => .string s
  | .array items => .array (ArrangedItems.refl items)
  | .object fields => .object (ArrangedFields.refl fields) (.refl fields)

theorem ArrangedItems.refl : ∀ items : List Json, ArrangedItems items items
  | [] => .nil
  | item :: items => .cons (Arranged.refl item) (ArrangedItems.refl items)

theorem ArrangedFields.refl : ∀ fields : List (String × Json), ArrangedFields fields fields
  | [] => .nil
  | (_, value) :: fields => .cons (Arranged.refl value) (ArrangedFields.refl fields)

end

mutual

theorem Arranged.exact : ∀ {json written : Json}, Arranged json written → json.Exact →
    written.Exact
  | _, _, .null, h => h
  | _, _, .bool _, h => h
  | _, _, .number _, h => h
  | _, _, .string _, h => h
  | _, _, .array hs, h => hs.exact h
  | _, _, .object hs hp, h =>
    exactFields_iff.mpr fun e he => exactFields_iff.mp (hs.exact h) e (hp.mem_iff.mpr he)

theorem ArrangedItems.exact : ∀ {items written : List Json}, ArrangedItems items written →
    ExactItems items → ExactItems written
  | _, _, .nil, h => h
  | _, _, .cons hitem hs, h => ⟨hitem.exact h.1, hs.exact h.2⟩

theorem ArrangedFields.exact : ∀ {fields others : List (String × Json)},
    ArrangedFields fields others → ExactFields fields → ExactFields others
  | _, _, .nil, h => h
  | _, _, .cons hvalue hs, h => ⟨hvalue.exact h.1, hs.exact h.2⟩

end

theorem exists_perm_of_mapM {α : Type u} {β : Type v} {f : α → Option β} {front back : List α}
    {read : List β} (hp : front.Perm back) (h : front.mapM f = some read) :
    ∃ others, back.mapM f = some others ∧ read.Perm others := by
  induction hp generalizing read with
  | nil => exact ⟨read, h, .refl read⟩
  | cons a hp ih =>
    simp only [List.mapM_cons, Option.bind_eq_bind, Option.bind_eq_some_iff, Option.pure_def,
      Option.some.injEq] at h ⊢
    obtain ⟨b, hb, rest, hrest, rfl⟩ := h
    obtain ⟨others, hothers, hperm⟩ := ih hrest
    exact ⟨b :: others, ⟨b, hb, others, hothers, rfl⟩, hperm.cons b⟩
  | swap a c rest =>
    simp only [List.mapM_cons, Option.bind_eq_bind, Option.bind_eq_some_iff, Option.pure_def,
      Option.some.injEq] at h ⊢
    obtain ⟨b, hb, _, ⟨d, hd, rest, hrest, rfl⟩, rfl⟩ := h
    exact ⟨d :: b :: rest, ⟨d, hd, b :: rest, ⟨b, hb, rest, hrest, rfl⟩, rfl⟩, .swap d b rest⟩
  | trans _ _ ihfirst ihsecond =>
    obtain ⟨middle, hmiddle, hfirst⟩ := ihfirst h
    obtain ⟨others, hothers, hsecond⟩ := ihsecond hmiddle
    exact ⟨others, hothers, hfirst.trans hsecond⟩

theorem treeFields_eq_map (fields : List (String × Json)) :
    treeFields fields = fields.map fun e => (Piece.ofString e.1, e.2.tree) := by
  induction fields with
  | nil => rfl
  | cons e fields ih => simp [treeFields, ih]

theorem fieldsJson?_treeFields (depth : Nat) (fields : List (String × Json)) :
    fieldsJson? depth (treeFields fields) =
      fields.mapM fun e => (e.2.tree.json? depth).map fun value => (e.1, value) := by
  induction fields with
  | nil => rfl
  | cons e fields ih =>
    simp only [treeFields, fieldsJson?, string?_ofString, ih, List.mapM_cons, Option.bind_eq_bind,
      Option.bind_some]
    cases e.2.tree.json? depth <;> rfl

mutual

theorem json?_arranged : ∀ {json written : Json}, Arranged json written → json.Exact →
    json.Canonical → ∀ depth : Nat, json.depth ≤ depth → written.tree.json? depth = some json
  | _, _, .null, _, _, _, _ => rfl
  | _, _, .bool _, _, _, _, _ => rfl
  | _, _, .number n, he, hc, depth, hd => json?_tree (.number n) he hc depth hd
  | _, _, .string s, he, hc, depth, hd => json?_tree (.string s) he hc depth hd
  | .array items, .array written, .array hs, he, hc, depth, hd => by
    obtain ⟨depth, rfl⟩ : ∃ n, depth = n + 1 := ⟨depth - 1, by simp [Json.depth] at hd; omega⟩
    have hitems := itemsJson?_arranged hs he hc depth (by
      simp only [Json.depth] at hd
      omega)
    simp [tree, Tree.json?, hitems]
  | .object fields, .object written, .object hs hp, he, hc, depth, hd => by
    obtain ⟨depth, rfl⟩ : ∃ n, depth = n + 1 := ⟨depth - 1, by simp [Json.depth] at hd; omega⟩
    have hfields := fieldsJson?_arranged hs he hc.2 depth (by
      simp only [Json.depth] at hd
      omega)
    rw [fieldsJson?_treeFields] at hfields
    obtain ⟨others, hothers, hperm⟩ := exists_perm_of_mapM hp hfields
    rw [← fieldsJson?_treeFields] at hothers
    simp [tree, Tree.json?, hothers, ofFields, ofList_of_perm hc.1 hperm]

theorem itemsJson?_arranged : ∀ {items written : List Json}, ArrangedItems items written →
    ExactItems items → CanonicalItems items → ∀ depth : Nat, depthItems items ≤ depth →
    itemsJson? depth (treeItems written) = some items
  | _, _, .nil, _, _, _, _ => rfl
  | _, _, .cons hitem hs, he, hc, depth, hd => by
    have hmax := Nat.max_le.mp hd
    have hfirst := json?_arranged hitem he.1 hc.1 depth hmax.1
    have hmore := itemsJson?_arranged hs he.2 hc.2 depth hmax.2
    simp [treeItems, itemsJson?, hfirst, hmore]

theorem fieldsJson?_arranged : ∀ {fields others : List (String × Json)},
    ArrangedFields fields others → ExactFields fields → CanonicalFields fields →
    ∀ depth : Nat, depthFields fields ≤ depth →
    fieldsJson? depth (treeFields others) = some fields
  | _, _, .nil, _, _, _, _ => rfl
  | _, _, .cons hvalue hs, he, hc, depth, hd => by
    have hmax := Nat.max_le.mp hd
    have hfirst := json?_arranged hvalue he.1 hc.1 depth hmax.1
    have hmore := fieldsJson?_arranged hs he.2 hc.2 depth hmax.2
    simp [treeFields, fieldsJson?, string?_ofString, hfirst, hmore]

end

theorem keys_arranged {fields others : List (String × Json)} (h : ArrangedFields fields others) :
    keys others = keys fields := by
  induction others generalizing fields with
  | nil =>
    cases h
    rfl
  | cons e others ih =>
    cases h with
    | cons hvalue hs => exact congrArg (_ :: ·) (ih hs)

theorem find?_arranged {fields others : List (String × Json)} (h : ArrangedFields fields others)
    (key : String) : Option.Rel Arranged (find? key fields) (find? key others) := by
  induction others generalizing fields with
  | nil =>
    cases h
    exact .none
  | cons e others ih =>
    cases h with
    | cons hvalue hs =>
      simp only [find?]
      split
      · exact .some hvalue
      · exact ih hs

/-- However an object is written, what is found under a key is the member, arranged in turn. -/
theorem Arranged.members {fields : List (String × Json)} {json : Json}
    (h : Arranged (.object fields) json) (hascending : Ascending fields) :
    ∃ written, json = .object written ∧ (keys written).Nodup ∧
      ∀ key, Option.Rel Arranged (find? key fields) (find? key written) := by
  cases h with
  | @object _ others written hs hp =>
    have hothers : (keys others).Nodup := by
      rw [keys_arranged hs]
      exact nodup_keys hascending
    refine ⟨written, rfl, (hp.map _).nodup_iff.mp hothers, fun key => ?_⟩
    rw [← find?_of_perm hothers hp key]
    exact find?_arranged hs key

end EventBus.Json
