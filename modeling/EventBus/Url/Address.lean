namespace EventBus.Url

abbrev Address := List Nat

namespace Address

def size : Nat := 8

def hexValue? (c : Char) : Option Nat :=
  if '0' ≤ c ∧ c ≤ '9' then some (c.toNat - 48)
  else if 'a' ≤ c ∧ c ≤ 'f' then some (c.toNat - 87)
  else if 'A' ≤ c ∧ c ≤ 'F' then some (c.toNat - 55)
  else none

def piece? (text : List Char) : Option Nat :=
  if 1 ≤ text.length ∧ text.length ≤ 4 then
    text.foldlM (fun n c => (hexValue? c).map (n * 16 + ·)) 0
  else none

def octet? (text : List Char) : Option Nat :=
  if text = ['0'] then some 0
  else if text = [] ∨ text.head? = some '0' ∨ 3 < text.length ∨ !text.all Char.isDigit then none
  else
    let n := text.foldl (fun n c => n * 10 + (c.toNat - 48)) 0
    if n < 256 then some n else none

def split (separator : Char) (text : List Char) : List (List Char) :=
  text.splitOn separator

def dotted? (text : List Char) : Option (List Nat) := do
  let octets ← (split '.' text).mapM octet?
  match octets with
  | [a, b, c, d] => some [a * 256 + b, c * 256 + d]
  | _ => none

def pieces? (atEnd : Bool) (text : List Char) : Option (List Nat) :=
  if text = [] then some []
  else go (split ':' text)
where
  go : List (List Char) → Option (List Nat)
    | [] => some []
    | [last] => if atEnd && last.contains '.' then dotted? last else (piece? last).map ([·])
    | piece :: rest => do
      let n ← piece? piece
      let more ← go rest
      some (n :: more)

def sides? : List Char → Option (List Char × List Char)
  | ':' :: ':' :: rest => some ([], rest)
  | c :: rest => (sides? rest).map fun (left, right) => (c :: left, right)
  | [] => none

def read? (text : List Char) : Option Address :=
  match sides? text with
  | none => do
    let all ← pieces? true text
    if all.length = size then some all else none
  | some (left, right) => do
    let front ← pieces? false left
    let back ← pieces? true right
    if front.length + back.length < size then
      some (front ++ List.replicate (size - front.length - back.length) 0 ++ back)
    else none

def zeros (numbers : List Nat) : Nat := (numbers.takeWhile (· = 0)).length

/-- Where the longest run of zeros starts, the first of equals, and its length. -/
def longestRun (numbers : Address) : Nat × Nat :=
  (List.range numbers.length).foldl (fun best i =>
    let length := zeros (numbers.drop i)
    if best.2 < length then (i, length) else best) (0, 0)

def join (numbers : List Nat) : List Char :=
  [':'].intercalate (numbers.map fun n => Nat.toDigits 16 n)

def text (numbers : Address) : List Char :=
  let (start, length) := longestRun numbers
  if length < 2 then join numbers
  else join (numbers.take start) ++ [':', ':'] ++ join (numbers.drop (start + length))

end Address
end EventBus.Url
