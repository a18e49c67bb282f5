import EventBus.Log
import EventBus.Text.Alphanumeric
import EventBus.Text.Blank

namespace EventBus.Log

structure FieldMatch where
  name : String
  value : Option String := none
  deriving DecidableEq, Repr

def FieldMatch.read (text : List Char) : FieldMatch where
  name := String.ofList (text.takeWhile (· ≠ '='))
  value :=
    match text.dropWhile (· ≠ '=') with
    | [] => none
    | _ :: value => some (String.ofList (value.takeWhile (· ≠ '=')))

structure Directive where
  target : Option String := none
  span : Option String := none
  fields : List FieldMatch := []
  limit : Option Level := some .trace
  deriving DecidableEq, Repr

namespace Directive

def number? (text : List Char) : Option Nat :=
  let digits := match text with
    | '+' :: rest => rest
    | _ => text
  if digits ≠ [] ∧ digits.all Char.isDigit then
    some (digits.foldl (fun n c => n * 10 + (c.toNat - '0'.toNat)) 0)
  else none

def limit? (text : List Char) : Option (Option Level) :=
  match number? text, (String.ofList text).toLower with
  | some 0, _ | none, "off" => some none
  | some 1, _ | none, "error" => some (some .error)
  | some 2, _ | none, "warn" => some (some .warn)
  | some 3, _ | none, "info" => some (some .info)
  | some 4, _ | none, "debug" => some (some .debug)
  | some 5, _ | none, "trace" => some (some .trace)
  | _, _ => none

def readLimit? (d : Directive) (text : List Char) : Option Directive :=
  match text with
  | ['='] => some d
  | '=' :: level => (limit? level).map fun limit => { d with limit }
  | rest => if rest.all Text.isBlank then some d else none

/-- What stands behind the bracket that opens a span. Before a field the name may be left out. -/
def readSpan? (d : Directive) (text : List Char) : Option Directive :=
  let isName (c : Char) : Bool := c ≠ ']' && c ≠ '\x7b'
  let name := text.takeWhile isName
  let named := { d with span := some (String.ofList name) }
  match text.dropWhile isName with
  | ']' :: rest => named.readLimit? rest
  | '\x7b' :: rest =>
    let d := if name = [] then d else named
    match rest.takeWhile (· ≠ '\x7d'), rest.dropWhile (· ≠ '\x7d') with
    | [], _ => none
    | field, '\x7d' :: ']' :: rest =>
      { d with fields := [FieldMatch.read field] }.readLimit? rest
    | _, _ => none
  | _ => none

def opensTarget (c : Char) : Bool :=
  Text.isAlphanumeric c || c = '-' || c = ':' || c = '_'

def read? (word : List Char) : Option Directive :=
  match word with
  | '[' :: rest => readSpan? {} rest
  | c :: _ =>
    if opensTarget c then
      let isName (c : Char) : Bool := c ≠ '=' && c ≠ '['
      let name := word.takeWhile isName
      let d : Directive := { target := some (String.ofList name) }
      match word.dropWhile isName with
      | [] => some ((limit? name).elim d fun limit => { limit })
      | '[' :: rest => d.readSpan? rest
      | rest => d.readLimit? rest
    else none
  | [] => none

/-- Blanks before a word count as a part of its target, which then is the start of no path. Such a
word can have no level. -/
def ofWord? (word : String) : Option Directive :=
  let text := word.toList
  if text.head?.any Text.isBlank then
    if text.contains '=' then none
    else (read? (Text.trimStart text)).map fun d => { d with target := some word }
  else read? text

/-- Whether a word says something about a part, and about what is noted there. What a field holds
is not looked at: a word that asks for a value is about nothing. -/
def concerns (d : Directive) (part : Part) (fields : List String) : Bool :=
  (d.target.all fun target => target.toList.isPrefixOf part.path.toList) &&
    d.fields.all fun field => field.value.isNone && fields.contains field.name

def isOfSpans (d : Directive) : Bool := d.span.isSome || !d.fields.isEmpty

def opens (d : Directive) (span : Span) : Bool :=
  d.isOfSpans && (d.span.all (· = span.name)) && d.concerns span.part span.fields

def isAbout (d : Directive) (line : Line) : Bool :=
  d.span.isNone && (d.fields.all (·.value.isNone)) &&
    if line.ofSpan then { d with fields := [] }.concerns line.part []
    else d.concerns line.part ("message" :: line.fields)

def moreSpecific (a b : Directive) : Bool :=
  let key (d : Directive) := d.target.elim 0 (·.utf8ByteSize + 1)
  let names (d : Directive) : List String := d.fields.map FieldMatch.name
  if key a ≠ key b then key b < key a
  else if a.fields.length ≠ b.fields.length then b.fields.length < a.fields.length
  else decide (names b < names a)

end Directive
end EventBus.Log
