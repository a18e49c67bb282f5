import EventBus.Double

namespace EventBus.Double

structure Decimal where
  coefficient : Nat
  exponent : Int
  deriving DecidableEq, Repr, Inhabited

/-- A fraction of units at four times their resolution, so that the midpoints between neighbouring
doubles are whole numbers. -/
structure Interval where
  low : Nat
  value : Nat
  high : Nat
  closed : Bool
  deriving Repr

/-- The quarter units that round to a significand at a power. Below a full power the neighbour is
half as far away. -/
def interval (significand power : Nat) : Interval :=
  let below := if significand = 2 ^ 52 ∧ 0 < power then 1 else 2
  ⟨(4 * significand - below) * 2 ^ power, 4 * significand * 2 ^ power,
    (4 * significand + 2) * 2 ^ power, significand % 2 = 0⟩

def gridStep (exponent : Int) : Nat × Nat :=
  if 0 ≤ exponent then (4 * one * 10 ^ exponent.toNat, 1) else (4 * one, 10 ^ (-exponent).toNat)

def Interval.holds (i : Interval) (coefficient : Nat) (exponent : Int) : Bool :=
  let (num, den) := gridStep exponent
  let point := coefficient * num
  if i.closed then i.low * den ≤ point && point ≤ i.high * den
  else i.low * den < point && point < i.high * den

/-- The point of the grid `10 ^ exponent` nearest to the value that lies in the interval, if one
does. Only the value's two neighbours on the grid can be nearest. -/
def Interval.nearestOn (i : Interval) (exponent : Int) : Option Decimal :=
  let (num, den) := gridStep exponent
  let lower := i.value * den / num
  let below := i.value * den - lower * num
  let above := (lower + 1) * num - i.value * den
  match i.holds lower exponent, i.holds (lower + 1) exponent with
  | true, true =>
    if below < above ∨ (below = above ∧ lower % 2 = 0) then some ⟨lower, exponent⟩
    else some ⟨lower + 1, exponent⟩
  | true, false => some ⟨lower, exponent⟩
  | false, true => some ⟨lower + 1, exponent⟩
  | false, false => none

def leadingExponent (num den : Nat) : Int :=
  let guess := ((Nat.toDigits 10 num).length : Int) - (Nat.toDigits 10 den).length
  let reached :=
    if 0 ≤ guess then den * 10 ^ guess.toNat ≤ num else den ≤ num * 10 ^ (-guess).toNat
  if reached then guess else guess - 1

def Decimal.trim (d : Decimal) : Nat → Decimal
  | 0 => d
  | fuel + 1 =>
    if d.coefficient ≠ 0 ∧ d.coefficient % 10 = 0 then
      Decimal.trim ⟨d.coefficient / 10, d.exponent + 1⟩ fuel
    else d

/-- The shortest decimal that rounds to a positive double. Seventeen digits always do. -/
def shortest (significand power : Nat) : Decimal :=
  let i := interval significand power
  let lead := leadingExponent i.value (4 * one)
  let found := (List.range 17).findSome? fun (n : Nat) => i.nearestOn (lead - n)
  (found.getD ⟨0, 0⟩).trim 20

structure Layout where
  positional : Int → Bool
  wholeFraction : Bool

namespace Decimal

def digits (d : Decimal) : List Char := Nat.toDigits 10 d.coefficient

def positional (d : Decimal) (wholeFraction : Bool) : List Char :=
  let digits := d.digits
  if 0 ≤ d.exponent then
    digits ++ List.replicate d.exponent.toNat '0' ++ (if wholeFraction then ['.', '0'] else [])
  else
    let fraction := (-d.exponent).toNat
    if fraction < digits.length then
      digits.take (digits.length - fraction) ++ '.' :: digits.drop (digits.length - fraction)
    else '0' :: '.' :: List.replicate (fraction - digits.length) '0' ++ digits

/-- One digit before the point, and the exponent always with its sign. -/
def scientific (d : Decimal) : List Char :=
  let digits := d.digits
  let lead := d.exponent + digits.length - 1
  let exponent := 'e' :: (if lead < 0 then '-' else '+') :: Nat.toDigits 10 lead.natAbs
  match digits with
  | [] => exponent
  | [c] => c :: exponent
  | c :: rest => c :: '.' :: rest ++ exponent

end Decimal

namespace Layout

def decimal (l : Layout) (d : Decimal) : List Char :=
  if l.positional (d.exponent + d.digits.length - 1) then d.positional l.wholeFraction
  else d.scientific

def render (l : Layout) : Double → List Char
  | .nan => ['N', 'a', 'N']
  | .infinite negative => (if negative then ['-'] else []) ++ ['i', 'n', 'f']
  | .finite negative significand power =>
    (if negative then ['-'] else []) ++
      l.decimal (if significand = 0 then ⟨0, 0⟩ else shortest significand power)

def plain : Layout := ⟨fun _ => true, false⟩

end Layout
end EventBus.Double
