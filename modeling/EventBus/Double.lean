-- A power of a whole number is the core library's, whatever else a module imports.
attribute [instance (20000), default_instance 20000] instPowNat

namespace EventBus

/-- A binary floating-point number of 64 bits. A finite one is `significand * 2 ^ power` units, a
unit being `2 ^ -1074`. -/
inductive Double where
  | nan
  | infinite (negative : Bool)
  | finite (negative : Bool) (significand power : Nat)
  deriving DecidableEq, Repr, Inhabited

def roundHalfEven (num den : Nat) : Nat :=
  if 2 * (num % den) < den ∨ (2 * (num % den) = den ∧ num / den % 2 = 0) then num / den
  else num / den + 1

namespace Double

def one : Nat := 2 ^ 1074

/-- The significands a finite double may carry at each power: 53 bits, full above power zero. -/
def Normal : Double → Prop
  | .finite _ significand power =>
    significand < 2 ^ 53 ∧ (2 ^ 52 ≤ significand ∨ power = 0) ∧ power ≤ 2045
  | _ => True

def ofParts (negative : Bool) (significand power : Nat) : Double :=
  let (significand, power) :=
    if significand = 2 ^ 53 then (2 ^ 52, power + 1) else (significand, power)
  if 2045 < power then .infinite negative else .finite negative significand power

/-- The double nearest `num / den` units, of two the one with the even significand. -/
def round (negative : Bool) (num den : Nat) : Double :=
  let power := (num / den).log2 - 52
  ofParts negative (roundHalfEven num (den * 2 ^ power)) power

def zero (negative : Bool) : Double := .finite negative 0 0

def ofNat (n : Nat) : Double := round false (n * one) 1

def ofInt (i : Int) : Double := round (i < 0) (i.natAbs * one) 1

/-- The double nearest `coefficient * 10 ^ exponent`.

Past 400 digits on either side of the point the result is an infinity or zero, whatever the
digits are. -/
def ofDecimal (negative : Bool) (coefficient : Nat) (exponent : Int) : Double :=
  let magnitude := ((Nat.toDigits 10 coefficient).length : Int) + exponent
  if coefficient = 0 ∨ magnitude < -400 then zero negative
  else if 400 < magnitude then .infinite negative
  else if 0 ≤ exponent then round negative (coefficient * 10 ^ exponent.toNat * one) 1
  else round negative (coefficient * one) (10 ^ (-exponent).toNat)

def isNegative : Double → Bool
  | .nan => false
  | .infinite negative => negative
  | .finite negative .. => negative

def isFinite : Double → Bool
  | .finite .. => true
  | _ => false

def units : Double → Nat
  | .finite _ significand power => significand * 2 ^ power
  | _ => 0

/-- The value of a finite double in units, with its sign. -/
def signedUnits (x : Double) : Int :=
  if x.isNegative then -(x.units : Int) else x.units

def isZero (x : Double) : Bool := x.isFinite && x.units == 0

def neg : Double → Double
  | .nan => .nan
  | .infinite negative => .infinite (!negative)
  | .finite negative significand power => .finite (!negative) significand power

def mul : Double → Double → Double
  | .finite n₁ s₁ p₁, .finite n₂ s₂ p₂ =>
    round (n₁ != n₂) (s₁ * 2 ^ p₁ * (s₂ * 2 ^ p₂)) one
  | x, y =>
    if x = .nan ∨ y = .nan ∨ x.isZero ∨ y.isZero then .nan
    else .infinite (x.isNegative != y.isNegative)

def div : Double → Double → Double
  | .finite n₁ s₁ p₁, .finite n₂ s₂ p₂ =>
    if s₂ = 0 then if s₁ = 0 then .nan else .infinite (n₁ != n₂)
    else round (n₁ != n₂) (s₁ * 2 ^ p₁ * one) (s₂ * 2 ^ p₂)
  | .finite n₁ .., .infinite n₂ => zero (n₁ != n₂)
  | .infinite n₁, .finite n₂ .. => .infinite (n₁ != n₂)
  | _, _ => .nan

def lt (x y : Double) : Bool :=
  match x, y with
  | .nan, _ => false
  | _, .nan => false
  | .infinite a, .infinite b => a && !b
  | .infinite a, .finite .. => a
  | .finite .., .infinite b => !b
  | x, y => x.signedUnits < y.signedUnits

def truncate (x : Double) : Nat := x.units / one

end Double
end EventBus
