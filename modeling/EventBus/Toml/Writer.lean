import EventBus.Double.Shortest
import EventBus.Json.Writer
import EventBus.Toml

namespace EventBus.Toml

namespace Quoting

def longestRun (mark : Char) (text : List Char) : Nat :=
  (text.foldl (fun (longest, run) c =>
    if c = mark then (max longest (run + 1), run + 1) else (longest, 0)) (0, 0)).1

def isCountable (text : List Char) : Bool :=
  longestRun '"' text < 256 && longestRun '\x27' text < 256

def isControl (c : Char) : Bool := (c.toNat < 0x20 && c ≠ '\t' && c ≠ '\n') || c.toNat = 0x7f

inductive Form where
  | basic
  | literal
  | basicLines
  | literalLines
  deriving DecidableEq, Repr

def form (text : List Char) : Form :=
  let double := longestRun '"' text
  let single := longestRun '\x27' text
  let control := text.any isControl
  let escape := control || text.contains '\\'
  let lines := text.contains '\n'
  if !escape && double = 0 && !lines then .basic
  else if !control && single = 0 && !lines then .literal
  else if !escape && double ≤ 2 then .basicLines
  else if !control && single ≤ 2 then .literalLines
  else if lines then .basicLines
  else .basic

def hexDigit (n : Nat) : Char := (Json.hexDigit n).toUpper

def unicode (c : Char) : List Char :=
  ['\\', 'u', hexDigit (c.toNat / 4096), hexDigit (c.toNat / 256 % 16),
    hexDigit (c.toNat / 16 % 16), hexDigit (c.toNat % 16)]

def escaped (lines : Bool) (c : Char) : List Char :=
  match c with
  | '\x08' => ['\\', 'b']
  | '\t' => ['\\', 't']
  | '\n' => if lines then ['\n'] else ['\\', 'n']
  | '\x0c' => ['\\', 'f']
  | '\r' => ['\\', 'r']
  | '\\' => ['\\', '\\']
  | c => if isControl c then unicode c else [c]

/-- A text between double quotes. So many of them may follow each other unescaped. -/
def escapeAll (lines : Bool) (allowed run : Nat) : List Char → List Char
  | [] => []
  | '"' :: rest =>
    if run < allowed then '"' :: escapeAll lines allowed (run + 1) rest
    else '\\' :: '"' :: escapeAll lines allowed 0 rest
  | c :: rest => escaped lines c ++ escapeAll lines allowed 0 rest

def opening (text : List Char) : List Char := if text.contains '\n' then ['\n'] else []

def write (f : Form) (text : List Char) : List Char :=
  let three (c : Char) := List.replicate 3 c
  match f with
  | .basic => '"' :: escapeAll false 0 0 text ++ ['"']
  | .literal => '\x27' :: text ++ ['\x27']
  | .basicLines => three '"' ++ opening text ++ escapeAll true 2 0 text ++ three '"'
  | .literalLines => three '\x27' ++ opening text ++ text ++ three '\x27'

def isBare (c : Char) : Bool := c.isAlphanum || c = '-' || c = '_'

def keyForm (text : List Char) : Form :=
  let control := text.any fun c => isControl c || c = '\n'
  if !control && !text.contains '\\' && !text.contains '"' then .basic
  else if !control && !text.contains '\x27' then .literal
  else .basic

end Quoting

def quoted (text : String) : String :=
  String.ofList (Quoting.write (Quoting.form text.toList) text.toList)

def keyText (key : String) : String :=
  if key ≠ "" && key.toList.all Quoting.isBare then key
  else String.ofList (Quoting.write (Quoting.keyForm key.toList) key.toList)

def pathText (path : List String) : String := ".".intercalate (path.map keyText)

/-- A float has a fraction and no exponent, whatever its size. -/
def floatLayout : Double.Layout := ⟨fun _ => true, true⟩

def realText (x : Double) : String :=
  match x with
  | .nan => "nan"
  | x => String.ofList (floatLayout.render x)

mutual

def valueText : Toml → String
  | .string s => quoted s
  | .integer i => toString i.toInt
  | .real x => realText x
  | .bool b => if b then "true" else "false"
  | .dateTime text => text
  | .array [] => "[]"
  | .array [item] => String.join ["[", valueText item, "]"]
  | .array (first :: second :: rest) =>
    String.join ["[", itemLine first, itemLine second, itemLines rest, "\n]"]
  | .table [] => "\x7b\x7d"
  | .table ((key, value) :: rest) =>
    String.join ["\x7b ", keyText key, " = ", valueText value, memberTexts rest, " \x7d"]

def itemLine (item : Toml) : String := String.join ["\n    ", valueText item, ","]

def itemLines : List Toml → String
  | [] => ""
  | item :: rest => itemLine item ++ itemLines rest

def memberTexts : List (String × Toml) → String
  | [] => ""
  | (key, value) :: rest =>
    String.join [", ", keyText key, " = ", valueText value, memberTexts rest]

end

mutual

/-- Whether a form can be found for all strings of a value. Keys need no counting. -/
def isWritable : Toml → Bool
  | .string s => Quoting.isCountable s.toList
  | .array items => areWritable items
  | .table members => membersWritable members
  | .integer _ | .real _ | .bool _ | .dateTime _ => true

def areWritable : List Toml → Bool
  | [] => true
  | item :: rest => isWritable item && areWritable rest

def membersWritable : List (String × Toml) → Bool
  | [] => true
  | (_, value) :: rest => isWritable value && membersWritable rest

end

def isTable : Toml → Bool
  | .table _ => true
  | _ => false

def isSection : Toml → Bool
  | .table _ => true
  | .array items => !items.isEmpty && items.all isTable
  | _ => false

def lines (members : List (String × Toml)) : String :=
  String.join (members.map fun (key, value) =>
    if isSection value then "" else String.join [keyText key, " = ", valueText value, "\n"])

mutual

def sectionTexts (path : List String) : Toml → List String
  | .table members =>
    let body := lines members
    let shown := members.isEmpty || body ≠ ""
    (if shown then [String.join ["[", pathText path, "]\n", body]] else []) ++
      sectionsOf path members
  | .array items => if isSection (.array items) then entryTexts path items else []
  | _ => []

def sectionsOf (path : List String) : List (String × Toml) → List String
  | [] => []
  | (key, value) :: rest => sectionTexts (path ++ [key]) value ++ sectionsOf path rest

def entryTexts (path : List String) : List Toml → List String
  | [] => []
  | item :: rest => entryText path item ++ entryTexts path rest

def entryText (path : List String) : Toml → List String
  | .table members =>
    String.join ["[[", pathText path, "]]\n", lines members] :: sectionsOf path members
  | _ => []

end

def documentText (members : List (String × Toml)) : String :=
  let body := lines members
  "\n".intercalate ((if body = "" then [] else [body]) ++ sectionsOf [] members)

end EventBus.Toml
