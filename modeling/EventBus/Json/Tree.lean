import EventBus.Json.Basic

namespace EventBus.Json

inductive Piece where
  | char (c : Char)
  | unit (code : Nat)
  deriving DecidableEq, Repr

structure Numeral where
  negative : Bool
  whole : List Char
  fraction : List Char
  exponent : Option (Bool × List Char)
  deriving DecidableEq, Repr

/-- A text as it is written, of which the grammar alone was checked: what nobody asks for may nest
as deep as it likes, hold a number no double reaches or half of a surrogate pair. -/
inductive Tree where
  | null
  | bool (b : Bool)
  | number (n : Numeral)
  | string (s : List Piece)
  | array (items : List Tree)
  | object (fields : List (List Piece × Tree))
  deriving Repr, Inhabited

namespace Reader

def isBlank (c : Char) : Bool := c = ' ' || c = '\n' || c = '\t' || c = '\r'

def skipBlank (input : List Char) : List Char := input.dropWhile isBlank

def hexValue? (c : Char) : Option Nat :=
  if '0' ≤ c ∧ c ≤ '9' then some (c.toNat - 48)
  else if 'a' ≤ c ∧ c ≤ 'f' then some (c.toNat - 87)
  else if 'A' ≤ c ∧ c ≤ 'F' then some (c.toNat - 55)
  else none

def escape? (c : Char) : Option Char :=
  if c = '"' ∨ c = '\\' ∨ c = '/' then some c
  else if c = 'b' then some '\x08'
  else if c = 'f' then some '\x0c'
  else if c = 'n' then some '\n'
  else if c = 'r' then some '\r'
  else if c = 't' then some '\t'
  else none

/-- The rest of a string after its opening quote. Control characters must be escaped. -/
def string : List Char → Option (List Piece × List Char)
  | [] => none
  | '"' :: rest => some ([], rest)
  | '\\' :: 'u' :: a :: b :: c :: d :: rest => do
    let a ← hexValue? a
    let b ← hexValue? b
    let c ← hexValue? c
    let d ← hexValue? d
    let (pieces, rest) ← string rest
    some (.unit (((a * 16 + b) * 16 + c) * 16 + d) :: pieces, rest)
  | '\\' :: c :: rest => do
    let c ← escape? c
    let (pieces, rest) ← string rest
    some (.char c :: pieces, rest)
  | c :: rest =>
    if c.toNat < 0x20 then none
    else do
      let (pieces, rest) ← string rest
      some (.char c :: pieces, rest)

def digits (input : List Char) : List Char × List Char :=
  (input.takeWhile Char.isDigit, input.dropWhile Char.isDigit)

def whole (input : List Char) : Option (List Char × List Char) :=
  match digits input with
  | ([], _) => none
  | ('0' :: _ :: _, _) => none
  | found => some found

def fraction : List Char → Option (List Char × List Char)
  | '.' :: rest =>
    match digits rest with
    | ([], _) => none
    | found => some found
  | input => some ([], input)

def exponentDigits (negative : Bool) (input : List Char) :
    Option (Option (Bool × List Char) × List Char) :=
  match digits input with
  | ([], _) => none
  | (found, rest) => some (some (negative, found), rest)

def exponent : List Char → Option (Option (Bool × List Char) × List Char)
  | c :: rest =>
    if c = 'e' ∨ c = 'E' then
      match rest with
      | '+' :: rest => exponentDigits false rest
      | '-' :: rest => exponentDigits true rest
      | rest => exponentDigits false rest
    else some (none, c :: rest)
  | [] => some (none, [])

def numeral (negative : Bool) (input : List Char) : Option (Numeral × List Char) := do
  let (whole, rest) ← whole input
  let (fraction, rest) ← fraction rest
  let (exponent, rest) ← exponent rest
  some (⟨negative, whole, fraction, exponent⟩, rest)

mutual

/-- One value after optional blanks. The fuel bounds the number of nested calls. -/
def value : Nat → List Char → Option (Tree × List Char)
  | 0, _ => none
  | fuel + 1, input =>
    match skipBlank input with
    | 'n' :: 'u' :: 'l' :: 'l' :: rest => some (.null, rest)
    | 't' :: 'r' :: 'u' :: 'e' :: rest => some (.bool true, rest)
    | 'f' :: 'a' :: 'l' :: 's' :: 'e' :: rest => some (.bool false, rest)
    | '"' :: rest => do
      let (pieces, rest) ← string rest
      some (.string pieces, rest)
    | '[' :: rest =>
      match skipBlank rest with
      | ']' :: rest => some (.array [], rest)
      | rest => do
        let (items, rest) ← items fuel rest
        some (.array items, rest)
    | '{' :: rest =>
      match skipBlank rest with
      | '}' :: rest => some (.object [], rest)
      | rest => do
        let (fields, rest) ← fields fuel rest
        some (.object fields, rest)
    | '-' :: rest => do
      let (n, rest) ← numeral true rest
      some (.number n, rest)
    | rest => do
      let (n, rest) ← numeral false rest
      some (.number n, rest)

def items : Nat → List Char → Option (List Tree × List Char)
  | 0, _ => none
  | fuel + 1, input => do
    let (item, rest) ← value fuel input
    match skipBlank rest with
    | ']' :: rest => some ([item], rest)
    | ',' :: rest =>
      let (more, rest) ← items fuel rest
      some (item :: more, rest)
    | _ => none

def fields : Nat → List Char → Option (List (List Piece × Tree) × List Char)
  | 0, _ => none
  | fuel + 1, input =>
    match skipBlank input with
    | '"' :: rest => do
      let (key, rest) ← string rest
      match skipBlank rest with
      | ':' :: rest =>
        let (value, rest) ← value fuel rest
        match skipBlank rest with
        | '}' :: rest => some ([(key, value)], rest)
        | ',' :: rest =>
          let (more, rest) ← fields fuel rest
          some ((key, value) :: more, rest)
        | _ => none
      | _ => none
    | _ => none

end
end Reader

/-- A whole text that holds one value. Each level of nesting takes two calls and one character. -/
def Tree.read (input : List Char) : Option Tree := do
  let (tree, rest) ← Reader.value (2 * input.length + 2) input
  if Reader.skipBlank rest = [] then some tree else none

end EventBus.Json
