import EventBus.Double

namespace EventBus

structure Duration where
  nanoseconds : Nat
  bounded : nanoseconds < 2 ^ 64 * 10 ^ 9
  deriving DecidableEq, Repr

namespace Duration

def zero : Duration := ⟨0, by decide⟩

instance : Inhabited Duration := ⟨zero⟩

def ofSeconds (seconds : UInt64) : Duration :=
  ⟨seconds.toNat * 10 ^ 9, by have := seconds.toNat_lt; omega⟩

def ofMilliseconds (milliseconds : UInt64) : Duration :=
  ⟨milliseconds.toNat * 10 ^ 6, by have := milliseconds.toNat_lt; omega⟩

def seconds (d : Duration) : Nat := d.nanoseconds / 10 ^ 9

def subsecond (d : Duration) : Nat := d.nanoseconds % 10 ^ 9

instance : LE Duration := ⟨fun a b => a.nanoseconds ≤ b.nanoseconds⟩

instance (a b : Duration) : Decidable (a ≤ b) :=
  inferInstanceAs (Decidable (a.nanoseconds ≤ b.nanoseconds))

def max (a b : Duration) : Duration := if a ≤ b then b else a

/-- The nearest nanosecond, a half to the even one. Only finite numbers from zero up to below
`2 ^ 64` seconds are durations. -/
def ofDouble? (x : Double) : Option Duration :=
  if x.isFinite && !(x.lt (.zero false)) then
    let nanoseconds := roundHalfEven (x.units * 10 ^ 9) Double.one
    if h : nanoseconds < 2 ^ 64 * 10 ^ 9 then some ⟨nanoseconds, h⟩ else none
  else none

/-- A number of units with what is left of the next smaller ones, as a decimal. -/
def decimalText (units rest width : Nat) : String :=
  let digits := Nat.toDigits 10 rest
  let padded := List.replicate (width - digits.length) '0' ++ digits
  let fraction := (padded.reverse.dropWhile (· = '0')).reverse
  if fraction = [] then toString units
  else String.join [toString units, ".", String.ofList fraction]

def text (d : Duration) : String :=
  let n := d.nanoseconds
  if 10 ^ 9 ≤ n then decimalText (n / 10 ^ 9) (n % 10 ^ 9) 9 ++ "s"
  else if 10 ^ 6 ≤ n then decimalText (n / 10 ^ 6) (n % 10 ^ 6) 6 ++ "ms"
  else if 10 ^ 3 ≤ n then decimalText (n / 10 ^ 3) (n % 10 ^ 3) 3 ++ "µs"
  else toString n ++ "ns"

end Duration
end EventBus
