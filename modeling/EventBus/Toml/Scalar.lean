import EventBus.Calendar
import EventBus.Json.Reader
import EventBus.Toml

namespace EventBus.Toml.Scalar

def isBlank (c : Char) : Bool := c = ' ' || c = '\t'

def skipBlank (input : List Char) : List Char := input.dropWhile isBlank

def isText (c : Char) : Bool := c = '\t' || (0x20 ≤ c.toNat && c.toNat ≠ 0x7f)

def newline? : List Char → Option (List Char)
  | '\n' :: rest => some rest
  | '\r' :: '\n' :: rest => some rest
  | _ => none

def skipFiller (comment : Bool) : List Char → List Char
  | '\n' :: rest => skipFiller false rest
  | '\r' :: '\n' :: rest => skipFiller false rest
  | c :: rest =>
    if comment then if isText c then skipFiller true rest else c :: rest
    else if isBlank c then skipFiller false rest
    else if c = '#' then skipFiller true rest
    else c :: rest
  | [] => []

def lineEnd? (input : List Char) : Option (List Char) :=
  let rest :=
    match skipBlank input with
    | '#' :: comment => comment.dropWhile isText
    | rest => rest
  if rest = [] then some [] else newline? rest

def hexNumber : Nat → Nat → List Char → Option (Nat × List Char)
  | 0, value, input => some (value, input)
  | count + 1, value, c :: rest => do
    let digit ← Json.Reader.hexValue? c
    hexNumber count (value * 16 + digit) rest
  | _ + 1, _, [] => none

def character? (count : Nat) (input : List Char) : Option (Char × List Char) := do
  let (value, rest) ← hexNumber count 0 input
  if value.isValidChar then some (Char.ofNat value, rest) else none

def escape : List Char → Option (Char × List Char)
  | '"' :: rest => some ('"', rest)
  | '\\' :: rest => some ('\\', rest)
  | 'b' :: rest => some ('\x08', rest)
  | 'f' :: rest => some ('\x0c', rest)
  | 'n' :: rest => some ('\n', rest)
  | 'r' :: rest => some ('\r', rest)
  | 't' :: rest => some ('\t', rest)
  | 'u' :: rest => character? 4 rest
  | 'U' :: rest => character? 8 rest
  | _ => none

def basic : Nat → List Char → Option (List Char × List Char)
  | 0, _ => none
  | _ + 1, [] => none
  | fuel + 1, c :: rest =>
    if c = '"' then some ([], rest)
    else if c = '\\' then do
      let (c, rest) ← escape rest
      let (text, rest) ← basic fuel rest
      some (c :: text, rest)
    else if isText c then do
      let (text, rest) ← basic fuel rest
      some (c :: text, rest)
    else none

def literal : List Char → Option (List Char × List Char)
  | [] => none
  | c :: rest =>
    if c = '\x27' then some ([], rest)
    else if isText c then do
      let (text, rest) ← literal rest
      some (c :: text, rest)
    else none

def quotes (quote : Char) (input : List Char) : Nat := (input.takeWhile (· = quote)).length

/-- A backslash before the end of a line swallows all white space up to the next character. -/
def continuation? (input : List Char) : Option (List Char) := do
  let rest ← newline? (skipBlank input)
  some (rest.drop (blankLength rest))
where
  blankLength : List Char → Nat
    | '\r' :: '\n' :: rest => blankLength rest + 2
    | c :: rest => if isBlank c || c = '\n' then blankLength rest + 1 else 0
    | [] => 0

/-- The rest of a string over several lines. Up to two quotes may stand right before its end. Only
a string in double quotes has escapes. -/
def multiline (quote : Char) : Nat → List Char → Option (List Char × List Char)
  | 0, _ => none
  | _ + 1, [] => none
  | fuel + 1, c :: rest =>
    let push (c : Char) (rest : List Char) : Option (List Char × List Char) := do
      let (text, rest) ← multiline quote fuel rest
      some (c :: text, rest)
    let run := quotes quote (c :: rest)
    if 3 ≤ run then
      let inner := min (run - 3) 2
      some (List.replicate inner quote, (c :: rest).drop (inner + 3))
    else if quote = '"' ∧ c = '\\' then
      match continuation? rest with
      | some rest => multiline quote fuel rest
      | none => do
        let (c, rest) ← escape rest
        push c rest
    else
      match newline? (c :: rest) with
      | some rest => push '\n' rest
      | none => if isText c then push c rest else none

/-- A string value after its first quote. The end of a line right after an opening of three quotes
does not count. -/
def string (quote : Char) (rest : List Char) : Option (List Char × List Char) :=
  let fuel := rest.length + 1
  if 2 ≤ quotes quote rest then
    let body := rest.drop 2
    multiline quote fuel ((newline? body).getD body)
  else if quote = '"' then basic fuel rest
  else literal rest

def digits (isDigit : Char → Bool) : List Char → Option (List Char × List Char)
  | '_' :: _ => none
  | c :: rest => if isDigit c then (more rest).map fun (ds, rest) => (c :: ds, rest) else none
  | [] => none
where
  more : List Char → Option (List Char × List Char)
    | '_' :: c :: rest =>
      if isDigit c then (more rest).map fun (ds, rest) => (c :: ds, rest) else none
    | ['_'] => none
    | c :: rest =>
      if isDigit c then (more rest).map fun (ds, rest) => (c :: ds, rest)
      else some ([], c :: rest)
    | [] => some ([], [])

def decimal : List Char → Option (List Char × List Char) := digits Char.isDigit

def whole : List Char → Option (List Char × List Char)
  | '0' :: rest => some (['0'], rest)
  | input => decimal input

def integer? (i : Int) : Option Toml :=
  if -(2 ^ 63) ≤ i ∧ i < 2 ^ 63 then some (.integer (Int64.ofInt i)) else none

def radix (base : Nat) (isDigit : Char → Bool) (input : List Char) :
    Option (Toml × List Char) := do
  let (ds, rest) ← digits isDigit input
  let value := ds.foldl (fun n c => n * base + (Json.Reader.hexValue? c).getD 0) 0
  let i ← integer? value
  some (i, rest)

def fraction : List Char → Option (Option (List Char) × List Char)
  | '.' :: rest => (decimal rest).map fun (ds, rest) => (some ds, rest)
  | input => some (none, input)

def exponent : List Char → Option (Option Int × List Char)
  | c :: rest =>
    if c = 'e' ∨ c = 'E' then
      let (negative, rest) :=
        match rest with
        | '+' :: rest => (false, rest)
        | '-' :: rest => (true, rest)
        | rest => (false, rest)
      (decimal rest).map fun (ds, rest) =>
        let e : Int := Json.Numeral.natural ds
        (some (if negative then -e else e), rest)
    else some (none, c :: rest)
  | [] => some (none, [])

/-- A decimal number. A float too large for a double is refused, unless it is negative. -/
def numeral (negative : Bool) (input : List Char) : Option (Toml × List Char) := do
  let (ds, rest) ← whole input
  let (places, rest) ← fraction rest
  let (power, rest) ← exponent rest
  if places.isNone ∧ power.isNone then
    let n : Int := Json.Numeral.natural ds
    let i ← integer? (if negative then -n else n)
    some (i, rest)
  else
    let places := places.getD []
    let x := Double.ofDecimal negative (Json.Numeral.natural (ds ++ places))
      (power.getD 0 - places.length)
    if x = .infinite false then none else some (.real x, rest)

def signed (negative : Bool) : List Char → Option (Toml × List Char)
  | 'i' :: 'n' :: 'f' :: rest => some (.real (.infinite negative), rest)
  | 'n' :: 'a' :: 'n' :: rest => some (.real .nan, rest)
  | input => numeral negative input

def number : List Char → Option (Toml × List Char)
  | '0' :: 'x' :: rest => radix 16 (fun c => (Json.Reader.hexValue? c).isSome) rest
  | '0' :: 'o' :: rest => radix 8 (fun c => '0' ≤ c && c ≤ '7') rest
  | '0' :: 'b' :: rest => radix 2 (fun c => c = '0' || c = '1') rest
  | '+' :: rest => signed false rest
  | '-' :: rest => signed true rest
  | input => signed false input

def field (count : Nat) (input : List Char) : Option (Nat × List Char × List Char) :=
  let ds := input.take count
  if ds.length = count ∧ ds.all Char.isDigit then
    some (Json.Numeral.natural ds, ds, input.drop count)
  else none

def after? (c : Char) : List Char → Option (List Char)
  | [] => none
  | d :: rest => if d = c then some rest else none

def date (input : List Char) : Option (List Char × List Char) := do
  let (year, yearText, rest) ← field 4 input
  let rest ← after? '-' rest
  let (month, monthText, rest) ← field 2 rest
  let rest ← after? '-' rest
  let (day, dayText, rest) ← field 2 rest
  if (Date.mk year month day).Valid then
    some (yearText ++ '-' :: monthText ++ '-' :: dayText, rest)
  else none

/-- Nine digits of a second count, and zeros at their end are left out. -/
def subsecond : List Char → List Char × List Char
  | '.' :: c :: rest =>
    if c.isDigit then
      let ds := (c :: rest).takeWhile Char.isDigit
      let kept := ((ds.take 9).reverse.dropWhile (· = '0')).reverse
      (if kept = [] then [] else '.' :: kept, (c :: rest).dropWhile Char.isDigit)
    else ([], '.' :: c :: rest)
  | input => ([], input)

def time (input : List Char) : Option (List Char × List Char) := do
  let (hour, hourText, rest) ← field 2 input
  let rest ← after? ':' rest
  let (minute, minuteText, rest) ← field 2 rest
  let rest ← after? ':' rest
  let (second, secondText, rest) ← field 2 rest
  if hour < 24 ∧ minute < 60 ∧ second ≤ 60 then
    let (fractionText, rest) := subsecond rest
    some (hourText ++ ':' :: minuteText ++ ':' :: secondText ++ fractionText, rest)
  else none

def shift (sign : Char) (input : List Char) : Option (List Char × List Char) := do
  let (hour, hourText, rest) ← field 2 input
  let rest ← after? ':' rest
  let (minute, minuteText, rest) ← field 2 rest
  if hour < 24 ∧ minute < 60 then
    let sign := if hour = 0 ∧ minute = 0 then '+' else sign
    some (sign :: hourText ++ ':' :: minuteText, rest)
  else none

def offset (input : List Char) : List Char × List Char :=
  match input with
  | 'Z' :: rest => (['Z'], rest)
  | 'z' :: rest => (['Z'], rest)
  | '+' :: rest => (shift '+' rest).getD ([], input)
  | '-' :: rest => (shift '-' rest).getD ([], input)
  | _ => ([], input)

def timeOfDate (input : List Char) : Option (List Char × List Char) :=
  match input with
  | c :: rest =>
    if c = 'T' ∨ c = 't' ∨ c = ' ' then do
      let (timeText, rest) ← time rest
      let (offsetText, rest) := offset rest
      some ('T' :: timeText ++ offsetText, rest)
    else none
  | [] => none

def dateTime (input : List Char) : Option (Toml × List Char) :=
  match date input with
  | some (dateText, rest) =>
    let (timeText, rest) := (timeOfDate rest).getD ([], rest)
    some (.dateTime (String.ofList (dateText ++ timeText)), rest)
  | none => do
    let (timeText, rest) ← time input
    some (.dateTime (String.ofList timeText), rest)

end EventBus.Toml.Scalar
