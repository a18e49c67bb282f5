import EventBus.Double.Shortest
import EventBus.Entries

namespace EventBus

structure Json.Integer where
  value : Int
  lower : -(2 ^ 63) ≤ value
  upper : value < 2 ^ 64
  deriving DecidableEq, Repr

inductive Json.Number where
  | integer (i : Json.Integer)
  | real (x : Double)
  deriving DecidableEq, Repr

inductive Json where
  | null
  | bool (b : Bool)
  | number (n : Json.Number)
  | string (s : String)
  | array (items : List Json)
  | object (fields : List (String × Json))
  deriving Repr, Inhabited

namespace Json

def maxDepth : Nat := 127

def Integer.ofInt? (i : Int) : Option Integer :=
  if h : -(2 ^ 63) ≤ i ∧ i < 2 ^ 64 then some ⟨i, h.1, h.2⟩ else none

def Integer.ofUInt64 (n : UInt64) : Integer :=
  ⟨n.toNat, by omega, by have := n.toNat_lt; omega⟩

def Integer.ofInt64 (i : Int64) : Integer :=
  ⟨i.toInt, i.le_toInt, by have := i.toInt_lt; omega⟩

def ofInteger (i : Integer) : Json := .number (.integer i)

def ofInt64 (i : Int64) : Json := ofInteger (.ofInt64 i)

def ofUInt64 (n : UInt64) : Json := ofInteger (.ofUInt64 n)

def ofDouble (x : Double) : Json := if x.isFinite then .number (.real x) else .null

/-- Of two values for one key the later one stays. -/
def ofFields (fields : List (String × Json)) : Json := .object (Entries.ofList fields)

/-- A count as a counter of 64 bits shows it, which begins at zero again after `2 ^ 64`. -/
def ofCount (n : Nat) : Json := .ofUInt64 n.toUInt64

/-- A member that is written only when there is something to write. -/
def member? (key : String) (value : Option Json) : List (String × Json) :=
  match value with
  | some value => [(key, value)]
  | none => []

def ofStrings (strings : List String) : Json := .array (strings.map .string)

def string? : Json → Option String
  | .string s => some s
  | _ => none

def object? : Json → Option (Entries Json)
  | .object fields => some fields
  | _ => none

def field? (json : Json) (key : String) : Option Json := json.object? >>= Entries.find? key

mutual

def Canonical : Json → Prop
  | .array items => CanonicalItems items
  | .object fields => Entries.Ascending fields ∧ CanonicalFields fields
  | _ => True

def CanonicalItems : List Json → Prop
  | [] => True
  | item :: rest => Canonical item ∧ CanonicalItems rest

def CanonicalFields : List (String × Json) → Prop
  | [] => True
  | (_, value) :: rest => Canonical value ∧ CanonicalFields rest

end

mutual

def depth : Json → Nat
  | .array items => depthItems items + 1
  | .object fields => depthFields fields + 1
  | _ => 0

def depthItems : List Json → Nat
  | [] => 0
  | item :: rest => max (depth item) (depthItems rest)

def depthFields : List (String × Json) → Nat
  | [] => 0
  | (_, value) :: rest => max (depth value) (depthFields rest)

end

mutual

def Exact : Json → Prop
  | .number (.real _) => False
  | .array items => ExactItems items
  | .object fields => ExactFields fields
  | _ => True

def ExactItems : List Json → Prop
  | [] => True
  | item :: rest => Exact item ∧ ExactItems rest

def ExactFields : List (String × Json) → Prop
  | [] => True
  | (_, value) :: rest => Exact value ∧ ExactFields rest

end
end Json
end EventBus
