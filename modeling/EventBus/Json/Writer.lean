import EventBus.Json.Basic

namespace EventBus.Json

def hexDigit (n : Nat) : Char := if n < 10 then Char.ofNat (48 + n) else Char.ofNat (87 + n)

/-- Quotes, backslashes and control characters are escaped, everything else stands for itself. -/
def escape (c : Char) : List Char :=
  if c = '"' then ['\\', '"']
  else if c = '\\' then ['\\', '\\']
  else if c = '\n' then ['\\', 'n']
  else if c = '\r' then ['\\', 'r']
  else if c = '\t' then ['\\', 't']
  else if c = '\x08' then ['\\', 'b']
  else if c = '\x0c' then ['\\', 'f']
  else if c.toNat < 0x20 then
    ['\\', 'u', '0', '0', hexDigit (c.toNat / 16), hexDigit (c.toNat % 16)]
  else [c]

def quote (s : String) : List Char := '"' :: s.toList.flatMap escape ++ ['"']

/-- From `1e-5` up to below `1e16` positional with a fraction, otherwise with an exponent. -/
def doubleLayout : Double.Layout := ⟨fun lead => -5 ≤ lead && lead < 16, true⟩

def Integer.write (i : Integer) : List Char :=
  (if i.value < 0 then ['-'] else []) ++ Nat.toDigits 10 i.value.natAbs

def Number.write : Number → List Char
  | .integer i => i.write
  | .real x => doubleLayout.render x

mutual

def write : Json → List Char
  | .null => ['n', 'u', 'l', 'l']
  | .bool true => ['t', 'r', 'u', 'e']
  | .bool false => ['f', 'a', 'l', 's', 'e']
  | .number n => n.write
  | .string s => quote s
  | .array [] => ['[', ']']
  | .array (item :: rest) => '[' :: write item ++ writeItems rest
  | .object [] => ['{', '}']
  | .object ((key, value) :: rest) => '{' :: quote key ++ ':' :: write value ++ writeFields rest

def writeItems : List Json → List Char
  | [] => [']']
  | item :: rest => ',' :: write item ++ writeItems rest

def writeFields : List (String × Json) → List Char
  | [] => ['}']
  | (key, value) :: rest => ',' :: quote key ++ ':' :: write value ++ writeFields rest

end

def compact (json : Json) : String := String.ofList json.write

def newline (indent : Nat) : List Char := '\n' :: List.replicate (2 * indent) ' '

mutual

def writePretty (indent : Nat) : Json → List Char
  | .array (item :: rest) =>
    '[' :: newline (indent + 1) ++ writePretty (indent + 1) item ++ writePrettyItems indent rest
  | .object ((key, value) :: rest) =>
    '{' :: newline (indent + 1) ++ quote key ++ ':' :: ' ' :: writePretty (indent + 1) value ++
      writePrettyFields indent rest
  | json => write json

def writePrettyItems (indent : Nat) : List Json → List Char
  | [] => newline indent ++ [']']
  | item :: rest =>
    ',' :: newline (indent + 1) ++ writePretty (indent + 1) item ++ writePrettyItems indent rest

def writePrettyFields (indent : Nat) : List (String × Json) → List Char
  | [] => newline indent ++ ['}']
  | (key, value) :: rest =>
    ',' :: newline (indent + 1) ++ quote key ++ ':' :: ' ' :: writePretty (indent + 1) value ++
      writePrettyFields indent rest

end

def pretty (json : Json) : String := String.ofList (json.writePretty 0)

end EventBus.Json
