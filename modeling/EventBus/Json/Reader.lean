import EventBus.Json.Tree

namespace EventBus.Json

/-- Pairs of surrogates become one character, single ones are refused. -/
def Piece.text? : List Piece → Option (List Char)
  | [] => some []
  | .char c :: rest => do
    let text ← text? rest
    some (c :: text)
  | .unit high :: rest =>
    if 0xD800 ≤ high ∧ high < 0xDC00 then
      match rest with
      | .unit low :: rest =>
        if 0xDC00 ≤ low ∧ low < 0xE000 then do
          let text ← text? rest
          some (Char.ofNat (0x10000 + (high - 0xD800) * 0x400 + (low - 0xDC00)) :: text)
        else none
      | _ => none
    else if 0xDC00 ≤ high ∧ high < 0xE000 then none
    else do
      let text ← text? rest
      some (Char.ofNat high :: text)

namespace Numeral

/-- Take digits into a number while it stays below `2 ^ 64`; how many were left. -/
def gather (acc : Nat) : List Char → Nat × Nat
  | [] => (acc, 0)
  | c :: rest =>
    let next := acc * 10 + (c.toNat - 48)
    if next < 2 ^ 64 then gather next rest else (acc, (c :: rest).length)

def natural (digits : List Char) : Nat :=
  digits.foldl (fun acc c => acc * 10 + (c.toNat - 48)) 0

def power (exponent : Nat) : Double := .ofDecimal false 1 exponent

/-- Multiply or divide by a power of ten. An overflow is refused, an underflow is zero: a
significand below `2 ^ 64` is zero after two steps down. -/
def scale : Nat → Double → Int → Option Double
  | 0, x, _ => some x
  | fuel + 1, x, exponent =>
    if exponent.natAbs ≤ 308 then
      if 0 ≤ exponent then
        let y := x.mul (power exponent.natAbs)
        if y.isFinite then some y else none
      else some (x.div (power exponent.natAbs))
    else if x.isZero then some x
    else if 0 ≤ exponent then none
    else scale fuel (x.div (power 308)) (exponent + 308)

/-- The digits that fit 64 bits are rounded, scaled by a power of ten and rounded again, so the last
digit may differ from the nearest double. -/
def double? (n : Numeral) : Option Double := do
  let (acc, skipped) := gather 0 n.whole
  let (acc, left) := gather acc n.fraction
  let shift : Int := skipped - (n.fraction.length - left : Nat)
  let magnitude ←
    match n.exponent with
    | none => scale 4 (.ofNat acc) shift
    | some (negative, digits) =>
      let e := natural digits
      if 2 ^ 31 ≤ e then if acc = 0 ∨ negative then some (.zero false) else none
      else scale 4 (.ofNat acc) (if negative then shift - e else shift + e)
  some (if n.negative then magnitude.neg else magnitude)

def value? (n : Numeral) : Option Number :=
  match n.fraction, n.exponent with
  | [], none =>
    let magnitude := natural n.whole
    let exact :=
      if n.negative ∧ (magnitude = 0 ∨ 2 ^ 63 < magnitude) then none
      else Integer.ofInt? (if n.negative then -(magnitude : Int) else magnitude)
    match exact with
    | some i => some (.integer i)
    | none => n.double?.map .real
  | _, _ => n.double?.map .real

end Numeral

def Piece.string? (pieces : List Piece) : Option String := (text? pieces).map String.ofList

mutual

/-- The value of a tree that nests at most `depth` levels. Of two members with one key the later
one stays. -/
def Tree.json? (depth : Nat) : Tree → Option Json
  | .null => some .null
  | .bool b => some (.bool b)
  | .number n => n.value?.map .number
  | .string pieces => (Piece.string? pieces).map .string
  | .array items =>
    match depth with
    | 0 => none
    | depth + 1 => (itemsJson? depth items).map .array
  | .object fields =>
    match depth with
    | 0 => none
    | depth + 1 => (fieldsJson? depth fields).map Json.ofFields

def itemsJson? (depth : Nat) : List Tree → Option (List Json)
  | [] => some []
  | item :: rest => do
    let item ← item.json? depth
    let rest ← itemsJson? depth rest
    some (item :: rest)

def fieldsJson? (depth : Nat) : List (List Piece × Tree) → Option (List (String × Json))
  | [] => some []
  | (key, value) :: rest => do
    let key ← Piece.string? key
    let value ← value.json? depth
    let rest ← fieldsJson? depth rest
    some ((key, value) :: rest)

end

def ofChars? (input : List Char) : Option Json := do
  let tree ← Tree.read input
  tree.json? maxDepth

def ofString? (text : String) : Option Json := ofChars? text.toList

end EventBus.Json
