import EventBus.Utf8

namespace EventBus.Text.Plain

inductive Progress where
  | text
  | escape
  | marks
  | control
  | header
  | string
  | command
  deriving DecidableEq, Repr

def escapeCharacter : Char := '\x1b'

def isAscii (c : Char) : Bool := c.toNat < 0x80

def isBlankControl (c : Char) : Bool := c = '\t' || c = '\n' || c = '\x0c' || c = '\r'

def isShown (c : Char) : Bool :=
  isBlankControl c || (0x20 ≤ c.toNat && c.toNat ≠ 0x7f)

def holdsTerminator (c : Char) : Bool := (Utf8.encode [c]).contains 0x9c

/-- What a character leads to, and whether it is shown. White space within the shorter sequences
is. -/
def step (p : Progress) (c : Char) : Progress × Bool :=
  let n := c.toNat
  let isMark := 0x20 ≤ n && n ≤ 0x2f
  if c = escapeCharacter then (.escape, false)
  else if n = 0x18 ∨ n = 0x1a then (.text, false)
  else
    match p with
    | .text => (.text, isShown c)
    | .escape =>
      if isMark then (.marks, false)
      else if c = '[' then (.control, false)
      else if c = ']' then (.command, false)
      else if c = 'P' then (.header, false)
      else if c = 'X' ∨ c = '^' ∨ c = '_' then (.string, false)
      else if 0x30 ≤ n ∧ n ≤ 0x7e then (.text, false)
      else (.escape, isBlankControl c)
    | .marks => if 0x30 ≤ n ∧ n ≤ 0x7e then (.text, false) else (.marks, isBlankControl c)
    | .control => if 0x40 ≤ n ∧ n ≤ 0x7e then (.text, false) else (.control, isBlankControl c)
    | .header => (if 0x40 ≤ n ∧ n ≤ 0x7e then .string else .header, false)
    | .string => (if !isAscii c && holdsTerminator c then .text else .string, false)
    | .command => (if n = 7 then .text else .command, false)

/-- Once something is shown, all is shown up to the next character that would not be. Then a
sequence that white space came into goes on, unless a letter of another script came too. -/
def strip (p : Progress) (showing : Bool) : List Char → List Char
  | [] => []
  | c :: rest =>
    let (next, shown) := if showing && isShown c then (p, true) else step p c
    if shown then c :: strip (if isAscii c then next else .text) true rest
    else strip next false rest

end Plain

def plain (text : String) : String := String.ofList (Plain.strip .text true text.toList)

end EventBus.Text
