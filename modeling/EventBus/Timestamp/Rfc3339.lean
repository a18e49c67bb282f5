import EventBus.Text.Blank
import EventBus.Timestamp

namespace EventBus.Timestamp

namespace Reader

def number (least most : Nat) (input : List Char) : Option (Nat × List Char) :=
  let digits := (input.take most).takeWhile Char.isDigit
  if digits.length < least then none
  else some (digits.foldl (fun n c => n * 10 + (c.toNat - 48)) 0, input.drop digits.length)

def exactly (c : Char) : List Char → Option (List Char)
  | [] => none
  | d :: rest => if d = c then some rest else none

def divider : List Char → Option (List Char)
  | 'T' :: rest => some rest
  | 't' :: rest => some rest
  | ' ' :: rest => some rest
  | _ => none

def fraction : List Char → Option (Nat × List Char)
  | '.' :: rest => do
    let (value, after) ← number 1 9 rest
    let count := rest.length - after.length
    some (value * 10 ^ (9 - count), after.dropWhile Char.isDigit)
  | input => some (0, input)

def twoDigits : List Char → Option (Nat × List Char)
  | a :: b :: rest =>
    if a.isDigit && b.isDigit then some ((a.toNat - 48) * 10 + (b.toNat - 48), rest) else none
  | _ => none

def hoursMinutes (colon : List Char → Option (List Char)) (negative : Bool) (input : List Char) :
    Option (Int × List Char) := do
  let (hours, input) ← twoDigits input
  let input ← colon input
  let (minutes, input) ← twoDigits input
  if minutes < 60 then
    let seconds : Int := hours * 3600 + minutes * 60
    some (if negative then -seconds else seconds, input)
  else none

def offset (colon : List Char → Option (List Char)) : List Char → Option (Int × List Char)
  | 'Z' :: rest => some (0, rest)
  | 'z' :: rest => some (0, rest)
  | '+' :: rest => hoursMinutes colon false rest
  | '-' :: rest => hoursMinutes colon true rest
  | '\u2212' :: rest => hoursMinutes colon true rest
  | _ => none

def finish (year : Int) (month day hour minute second nanosecond : Nat) (offset : Int) :
    Option Timestamp :=
  if offset.natAbs < 86400 then
    ofParts? ⟨year, month, day⟩ ⟨hour, minute, second, nanosecond⟩ offset
  else none

def strict (input : List Char) : Option Timestamp := do
  let (year, input) ← number 4 4 input
  let input ← exactly '-' input
  let (month, input) ← number 2 2 input
  let input ← exactly '-' input
  let (day, input) ← number 2 2 input
  let input ← divider input
  let (hour, input) ← number 2 2 input
  let input ← exactly ':' input
  let (minute, input) ← number 2 2 input
  let input ← exactly ':' input
  let (second, input) ← number 2 2 input
  let (nanosecond, input) ← fraction input
  let (offset, input) ← offset (exactly ':') input
  if input = [] then finish year month day hour minute second nanosecond offset else none

def signedYear (input : List Char) : Option (Int × List Char) :=
  match input with
  | '-' :: rest => (number 1 rest.length rest).map fun (n, rest) => (-(n : Int), rest)
  | '+' :: rest => (number 1 rest.length rest).map fun (n, rest) => ((n : Int), rest)
  | input => (number 1 4 input).map fun (n, rest) => ((n : Int), rest)

def looseColon (input : List Char) : Option (List Char) :=
  some (input.dropWhile fun c => c = ':' || Text.isBlank c)

def looseOffset (input : List Char) : Option (Int × List Char) :=
  match input with
  | a :: b :: c :: rest =>
    if a.toUpper = 'U' ∧ b.toUpper = 'T' ∧ c.toUpper = 'C' then some (0, rest)
    else offset looseColon input
  | _ => offset looseColon input

def loose (input : List Char) : Option Timestamp := do
  let (year, input) ← signedYear (Text.trimStart input)
  let input ← exactly '-' (Text.trimStart input)
  let (month, input) ← number 1 2 (Text.trimStart input)
  let input ← exactly '-' (Text.trimStart input)
  let (day, input) ← number 1 2 (Text.trimStart input)
  let input ← divider input
  let (hour, input) ← number 1 2 (Text.trimStart input)
  let input ← exactly ':' (Text.trimStart input)
  let (minute, input) ← number 1 2 (Text.trimStart input)
  let input ← exactly ':' (Text.trimStart input)
  let (second, input) ← number 1 2 (Text.trimStart input)
  let (nanosecond, input) ← fraction input
  let (offset, input) ← looseOffset (Text.trimStart input)
  if Text.trimStart input = [] then
    finish year month day hour minute second nanosecond offset
  else none

end Reader

def read? (text : String) : Option Timestamp := Reader.strict text.toList

/-- Blanks between the parts, fewer digits, a signed year, an offset without colon and the name
`UTC` are accepted, too. -/
def readLoose? (text : String) : Option Timestamp := Reader.loose text.toList

def padded (width n : Nat) : List Char :=
  let digits := Nat.toDigits 10 n
  List.replicate (width - digits.length) '0' ++ digits

def writeYear (year : Int) : List Char :=
  if 0 ≤ year ∧ year ≤ 9999 then padded 4 year.toNat
  else (if year < 0 then '-' else '+') :: padded 4 year.natAbs

/-- The fewest of 0, 3, 6 or 9 digits that are exact. -/
def writeFraction (nanoseconds : Nat) : List Char :=
  if nanoseconds = 0 then []
  else if nanoseconds % 10 ^ 6 = 0 then '.' :: padded 3 (nanoseconds / 10 ^ 6)
  else if nanoseconds % 10 ^ 3 = 0 then '.' :: padded 6 (nanoseconds / 10 ^ 3)
  else '.' :: padded 9 nanoseconds

inductive Zone where
  | letter
  | zeroOffset
  deriving DecidableEq, Repr

def Zone.text : Zone → List Char
  | .letter => ['Z']
  | .zeroOffset => ['+', '0', '0', ':', '0', '0']

def write (zone : Zone) (t : Timestamp) : List Char :=
  let d := t.date
  let c := t.clock
  writeYear d.year ++ '-' :: padded 2 d.month ++ '-' :: padded 2 d.day ++ 'T' :: padded 2 c.hour ++
    ':' :: padded 2 c.minute ++ ':' :: padded 2 c.second ++ writeFraction c.nanosecond ++ zone.text

def text (t : Timestamp) : String := String.ofList (t.write .letter)

def textWithOffset (t : Timestamp) : String := String.ofList (t.write .zeroOffset)

end EventBus.Timestamp
