import EventBus.Json.Reader
import EventBus.Record
import EventBus.Timestamp.Rfc3339

namespace EventBus.Json

/-- What a text gives for each field of a record, by position. A record is an object whose other
members only have to be well formed, or an array that may leave out fields at its end. -/
abbrev Slots := List (Option Tree)

namespace Record

/-- Put a member into its slot. A slot that is taken refuses it. -/
def place (names : List String) (key : String) (value : Tree) (slots : Slots) : Option Slots :=
  match names, slots with
  | name :: names, slot :: slots =>
    if name = key then
      match slot with
      | none => some (some value :: slots)
      | some _ => none
    else (place names key value slots).map (slot :: ·)
  | _, slots => some slots

def fromMembers (names : List String) : List (List Piece × Tree) → Slots → Option Slots
  | [], slots => some slots
  | (key, value) :: rest, slots => do
    let key ← Piece.string? key
    let slots ← place names key value slots
    fromMembers names rest slots

def fromItems (names : List String) (items : List Tree) : Option Slots :=
  if items.length ≤ names.length then
    some (items.map some ++ List.replicate (names.length - items.length) none)
  else none

/-- The fields of a record, and how deep their values may nest. -/
def slots? (names : List String) (depth : Nat) (tree : Tree) : Option (Slots × Nat) :=
  match depth, tree with
  | depth + 1, .object members =>
    (fromMembers names members (names.map fun _ => none)).map (·, depth)
  | depth + 1, .array items => (fromItems names items).map (·, depth)
  | _, _ => none

def text? : Tree → Option String
  | .string pieces => Piece.string? pieces
  | _ => none

def bool? : Tree → Option Bool
  | .bool b => some b
  | _ => none

def natural? (limit : Nat) : Tree → Option Nat
  | .number n =>
    match n.value? with
    | some (.integer i) => if 0 ≤ i.value ∧ i.value < limit then some i.value.toNat else none
    | _ => none
  | _ => none

def time? (tree : Tree) : Option Timestamp := text? tree >>= Timestamp.readLoose?

def map? (depth : Nat) (tree : Tree) : Option (SortedMap Json) := do
  let json ← tree.json? depth
  let fields ← json.object?
  some (SortedMap.ofList fields)

def listOf? (read : Tree → Option α) : Tree → Option (List α)
  | .array items => items.mapM read
  | _ => none

def nullable (read : Tree → Option α) : Tree → Option (Option α)
  | .null => some none
  | tree => (read tree).map some

def optional (read : Tree → Option α) : Option Tree → Option (Option α) :=
  EventBus.Record.withDefault none (nullable read)

def mapOf? (read : Tree → Option α) : Tree → Option (SortedMap α)
  | .object members => do
    let members ← members.mapM fun (key, value) => do
      let key ← Piece.string? key
      let value ← read value
      some (key, value)
    some (SortedMap.ofList members)
  | _ => none

end Record
end EventBus.Json
