import EventBus.Proofs.Json.Record
import Mathlib.Data.List.Forall2
import Mathlib.Data.Option.Basic

namespace EventBus.Json

open Entries

namespace Value

/-- The fields of a record: an object by its names, an array by its positions. -/
def slots? (names : List String) : Json → Option (List (Option Json))
  | .object fields => some (names.map fun name => find? name fields)
  | .array items =>
    if items.length ≤ names.length then
      some (items.map some ++ List.replicate (names.length - items.length) none)
    else none
  | _ => none

def time? (json : Json) : Option Timestamp := json.string? >>= Timestamp.readLoose?

def map? (json : Json) : Option (SortedMap Json) := json.object?.map SortedMap.ofList

def nullable (read : Json → Option α) : Json → Option (Option α)
  | .null => some none
  | json => (read json).map some

/-- A field that may be absent or null. -/
def optional (read : Json → Option α) : Option Json → Option (Option α) :=
  EventBus.Record.withDefault none (nullable read)

theorem text_of_optional {slot : Option Json} {text : Option String}
    (h : optional string? slot = some text) : slot >>= string? = text := by
  cases slot with
  | none => exact Option.some.inj h
  | some json =>
    cases json with
    | null => exact Option.some.inj h
    | string s => exact Option.some.inj h
    | bool b => cases h
    | number n => cases h
    | array items => cases h
    | object fields => cases h

end Value

/-- A field of a text and of its value: both empty, or the one is the value of the other. -/
abbrev SlotHolds (depth : Nat) : Option Tree → Option Json → Prop :=
  Option.Rel fun tree json => tree.json? depth = some json

namespace Record

variable {names : List String} {depth : Nat}

theorem place_eq_some {slot : String → Option Tree} {key : String} {value : Tree} {slots : Slots}
    (hnames : names.Nodup) (h : place names key value (names.map slot) = some slots) :
    (key ∈ names → slot key = none) ∧
      slots = names.map fun name => if name = key then some value else slot name := by
  rw [place_map hnames] at h
  split at h
  · cases h
  · next hfree =>
    refine ⟨fun hmem => ?_, (Option.some.inj h).symm⟩
    simpa [hmem] using hfree

/-- Every slot keeps what was in it, and no member of its name follows, or takes the one member of
its name. -/
theorem fromMembers_eq_some {members : List (List Piece × Tree)} {slot : String → Option Tree}
    {slots : Slots} {fields : List (String × Json)} (hnames : names.Nodup)
    (h : fromMembers names members (names.map slot) = some slots)
    (hfields : fieldsJson? depth members = some fields) :
    ∃ found : String → Option Tree, slots = names.map found ∧ ∀ name ∈ names,
      found name = slot name ∧ find? name fields.reverse = none ∨
      slot name = none ∧ ∃ tree json, found name = some tree ∧ tree.json? depth = some json ∧
        find? name fields.reverse = some json := by
  induction members generalizing slot slots fields with
  | nil =>
    obtain rfl := Option.some.inj h
    obtain rfl := Option.some.inj hfields
    exact ⟨slot, rfl, fun name _ => .inl ⟨rfl, rfl⟩⟩
  | cons member members ih =>
    obtain ⟨pieces, tree⟩ := member
    simp only [fromMembers, Option.bind_eq_bind, Option.bind_eq_some_iff] at h
    simp only [fieldsJson?, Option.bind_eq_bind, Option.bind_eq_some_iff, Option.some.injEq]
      at hfields
    obtain ⟨key, hkey, placed, hplaced, hrest⟩ := h
    obtain ⟨other, hother, json, hjson, more, hmore, rfl⟩ := hfields
    obtain rfl := Option.some.inj (hkey.symm.trans hother)
    obtain ⟨hfree, rfl⟩ := place_eq_some hnames hplaced
    obtain ⟨found, rfl, hfound⟩ := ih hrest hmore
    refine ⟨found, rfl, fun name hmem => ?_⟩
    by_cases hname : name = key
    · subst hname
      rcases hfound name hmem with ⟨hkept, hnone⟩ | ⟨htaken, -⟩
      · rw [if_pos rfl] at hkept
        exact .inr ⟨hfree hmem, tree, json, hkept, hjson, by simp [find?, hnone]⟩
      · rw [if_pos rfl] at htaken
        cases htaken
    · have hother := hfound name hmem
      have hlast : find? name [(key, json)] = none := by simp [find?, Ne.symm hname]
      rw [if_neg hname] at hother
      simpa [hlast] using hother

theorem slotHolds_fromMembers {members : List (List Piece × Tree)} {slots : Slots}
    {fields : List (String × Json)} (hnames : names.Nodup)
    (h : fromMembers names members (names.map fun _ => none) = some slots)
    (hfields : fieldsJson? depth members = some fields) :
    List.Forall₂ (SlotHolds depth) slots (names.map fun name => find? name (ofList fields)) := by
  obtain ⟨found, rfl, hfound⟩ := fromMembers_eq_some hnames h hfields
  rw [List.forall₂_map_left_iff, List.forall₂_map_right_iff, List.forall₂_same]
  intro name hmem
  rw [find?_ofList]
  rcases hfound name hmem with ⟨hkept, hnone⟩ | ⟨-, tree, json, hkept, hjson, hsome⟩
  · rw [hkept, hnone]
    exact .none
  · rw [hkept, hsome]
    exact .some hjson

theorem slotHolds_itemsJson? {items : List Tree} {values : List Json}
    (h : itemsJson? depth items = some values) :
    List.Forall₂ (SlotHolds depth) (items.map some) (values.map some) := by
  induction items generalizing values with
  | nil =>
    obtain rfl := Option.some.inj h
    exact .nil
  | cons item items ih =>
    simp only [itemsJson?, Option.bind_eq_bind, Option.bind_eq_some_iff, Option.some.injEq] at h
    obtain ⟨value, hvalue, more, hmore, rfl⟩ := h
    exact .cons (.some hvalue) (ih hmore)

theorem slotHolds_replicate (count : Nat) :
    List.Forall₂ (SlotHolds depth) (List.replicate count none) (List.replicate count none) := by
  induction count with
  | zero => exact .nil
  | succ count ih => exact .cons .none ih

theorem slotHolds_fromItems {items : List Tree} {values : List Json} {slots : Slots}
    (h : fromItems names items = some slots) (hvalues : itemsJson? depth items = some values) :
    ∃ found, Value.slots? names (.array values) = some found ∧
      List.Forall₂ (SlotHolds depth) slots found := by
  have hitems := slotHolds_itemsJson? hvalues
  have hlength : items.length = values.length := by simpa using hitems.length_eq
  simp only [fromItems, Option.ite_none_right_eq_some, Option.some.injEq] at h
  obtain ⟨hfit, rfl⟩ := h
  refine ⟨_, if_pos (hlength ▸ hfit), ?_⟩
  rw [hlength]
  exact List.rel_append hitems (slotHolds_replicate _)

/-- What a text gives for the fields of a record is what its value gives for them. -/
theorem slotHolds_slots? {tree : Tree} {json : Json} {slots : Slots} {inner : Nat}
    (hnames : names.Nodup) (h : slots? names depth tree = some (slots, inner))
    (hjson : tree.json? depth = some json) :
    ∃ found, Value.slots? names json = some found ∧
      List.Forall₂ (SlotHolds inner) slots found := by
  match depth, tree with
  | depth + 1, .object members =>
    obtain ⟨placed, hplaced, heq⟩ := Option.map_eq_some_iff.mp h
    obtain ⟨rfl, rfl⟩ := Prod.mk.inj heq
    obtain ⟨fields, hfields, rfl⟩ := Option.map_eq_some_iff.mp hjson
    exact ⟨_, rfl, slotHolds_fromMembers hnames hplaced hfields⟩
  | depth + 1, .array items =>
    obtain ⟨placed, hplaced, heq⟩ := Option.map_eq_some_iff.mp h
    obtain ⟨rfl, rfl⟩ := Prod.mk.inj heq
    obtain ⟨values, hvalues, rfl⟩ := Option.map_eq_some_iff.mp hjson
    exact slotHolds_fromItems hplaced hvalues

end Record

theorem ne_null_of_json? {tree : Tree} {depth : Nat} {json : Json}
    (h : tree.json? depth = some json) (hne : tree ≠ .null) : json ≠ .null := by
  rintro rfl
  cases tree with
  | null => exact hne rfl
  | bool b => cases h
  | number n | string pieces =>
    obtain ⟨_, -, hvalue⟩ := Option.map_eq_some_iff.mp h
    cases hvalue
  | array items | object fields =>
    cases depth with
    | zero => cases h
    | succ depth =>
      obtain ⟨_, -, hvalue⟩ := Option.map_eq_some_iff.mp h
      cases hvalue

theorem Record.nullable_of_ne_null (read : Tree → Option α) {tree : Tree} (h : tree ≠ .null) :
    Record.nullable read tree = (read tree).map some := by
  cases tree with
  | null => exact absurd rfl h
  | bool | number | string | array | object => rfl

theorem Value.nullable_of_ne_null (read : Json → Option α) {json : Json} (h : json ≠ .null) :
    Value.nullable read json = (read json).map some := by
  cases json with
  | null => exact absurd rfl h
  | bool | number | string | array | object => rfl

/-- What a text within some depth is read as, its value is read as. -/
def Faithful (depth : Nat) (read : Tree → Option α) (readValue : Json → Option α) : Prop :=
  ∀ tree json a, tree.json? depth = some json → read tree = some a → readValue json = some a

namespace Faithful

variable {α : Type} {depth : Nat} {read : Tree → Option α} {readValue : Json → Option α}
  {slot : Option Tree} {value : Option Json} {a : α}

theorem required (h : Faithful depth read readValue) (hslot : SlotHolds depth slot value)
    (ha : Record.required read slot = some a) : Record.required readValue value = some a := by
  cases hslot with
  | none => cases ha
  | some hjson => exact h _ _ a hjson ha

theorem withDefault (h : Faithful depth read readValue) {default : α}
    (hslot : SlotHolds depth slot value)
    (ha : Record.withDefault default read slot = some a) :
    Record.withDefault default readValue value = some a := by
  cases hslot with
  | none => exact ha
  | some hjson => exact h _ _ a hjson ha

theorem nullable (h : Faithful depth read readValue) :
    Faithful depth (Record.nullable read) (Value.nullable readValue) := by
  intro tree json a hjson ha
  by_cases hnull : tree = .null
  · subst hnull
    obtain rfl := Option.some.inj hjson
    exact ha
  · rw [Record.nullable_of_ne_null read hnull] at ha
    rw [Value.nullable_of_ne_null readValue (ne_null_of_json? hjson hnull)]
    obtain ⟨b, hb, rfl⟩ := Option.map_eq_some_iff.mp ha
    rw [h tree json b hjson hb]
    rfl

theorem optional (h : Faithful depth read readValue) {a : Option α}
    (hslot : SlotHolds depth slot value) (ha : Record.optional read slot = some a) :
    Value.optional readValue value = some a :=
  h.nullable.withDefault hslot ha

theorem text (depth : Nat) : Faithful depth Record.text? string? := by
  intro tree json a hjson ha
  cases tree with
  | string pieces =>
    rw [Tree.json?, show Piece.string? pieces = some a from ha] at hjson
    rw [← Option.some.inj hjson]
    rfl
  | null | bool | number | array | object => cases ha

theorem time (depth : Nat) : Faithful depth Record.time? Value.time? := by
  intro tree json a hjson ha
  obtain ⟨text, htext, htime⟩ := Option.bind_eq_some_iff.mp ha
  rw [Value.time?, Faithful.text depth tree json text hjson htext]
  exact htime

theorem json (depth : Nat) : Faithful depth (·.json? depth) some := by
  intro tree json a hjson ha
  exact hjson.symm.trans ha

theorem map (depth : Nat) : Faithful depth (Record.map? depth) Value.map? := by
  intro tree json a hjson ha
  simp only [Record.map?, hjson, Option.bind_eq_bind, Option.bind_some] at ha
  rw [Value.map?, Option.map_eq_bind]
  exact ha

end Faithful
end EventBus.Json
