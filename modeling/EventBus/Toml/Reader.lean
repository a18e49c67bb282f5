import EventBus.Toml.Draft
import EventBus.Toml.Scalar

namespace EventBus.Toml

namespace Reader
open Scalar

def isBare (c : Char) : Bool := c.isAlphanum || c = '-' || c = '_'

def simpleKey : List Char → Option (String × List Char)
  | [] => none
  | c :: rest =>
    let found :=
      if c = '"' then basic (rest.length + 1) rest
      else if c = '\x27' then literal rest
      else
        match (c :: rest).takeWhile isBare with
        | [] => none
        | bare => some (bare, (c :: rest).dropWhile isBare)
    found.map fun (text, rest) => (String.ofList text, rest)

def keyParts : Nat → List Char → Option (List String × List Char)
  | 0, _ => none
  | fuel + 1, input => do
    let (part, rest) ← simpleKey (skipBlank input)
    match skipBlank rest with
    | '.' :: rest =>
      let (parts, rest) ← keyParts fuel rest
      some (part :: parts, rest)
    | rest => some ([part], rest)

def key (input : List Char) : Option (List String × String × List Char) := do
  let (parts, rest) ← keyParts (input.length + 1) input
  if parts.length < nestingLimit then
    let last ← parts.getLast?
    some (parts.dropLast, last, rest)
  else none

mutual

def value : Nat → Nat → List Char → Option (Toml × List Char)
  | 0, _, _ => none
  | fuel + 1, depth, input =>
    match input with
    | [] => none
    | c :: rest =>
      if c = '"' ∨ c = '\x27' then
        (Scalar.string c rest).map fun (text, rest) => (.string (String.ofList text), rest)
      else if c = '[' then
        match depth with
        | 0 => none
        | depth + 1 => (items fuel depth rest).map fun (items, rest) => (.array items, rest)
      else if c = '{' then
        match depth, skipBlank rest with
        | 0, _ => none
        | _ + 1, '}' :: rest => some (.table [], rest)
        | depth + 1, rest =>
          (pairs fuel depth [] rest).map fun (members, rest) =>
            (.table (finishMembers members), rest)
      else
        match input with
        | 't' :: 'r' :: 'u' :: 'e' :: rest => some (.bool true, rest)
        | 'f' :: 'a' :: 'l' :: 's' :: 'e' :: rest => some (.bool false, rest)
        | _ => Scalar.dateTime input <|> Scalar.number input

def items : Nat → Nat → List Char → Option (List Toml × List Char)
  | 0, _, _ => none
  | fuel + 1, depth, input =>
    match skipFiller false input with
    | ']' :: rest => some ([], rest)
    | rest => do
      let (item, rest) ← value fuel depth rest
      match skipFiller false rest with
      | ']' :: rest => some ([item], rest)
      | ',' :: rest =>
        let (more, rest) ← items fuel depth rest
        some (item :: more, rest)
      | _ => none

def pairs : Nat → Nat → Members → List Char → Option (Members × List Char)
  | 0, _, _, _ => none
  | fuel + 1, depth, members, input => do
    let (path, last, rest) ← key input
    let rest ← after? '=' rest
    let (v, rest) ← value fuel depth (skipBlank rest)
    let members ← members.define [] path last v
    match skipBlank rest with
    | '}' :: rest => some (members, rest)
    | ',' :: rest => pairs fuel depth members rest
    | _ => none

end

def header (members : Members) (input : List Char) :
    Option (List String × Members × List Char) := do
  match input with
  | '[' :: rest =>
    let (path, last, rest) ← key rest
    let rest ← after? ']' rest >>= after? ']' >>= lineEnd?
    let members ← members.appendTable path last
    some (path ++ [last], members, rest)
  | rest =>
    let (path, last, rest) ← key rest
    let rest ← after? ']' rest >>= lineEnd?
    let members ← members.openTable path last
    some (path ++ [last], members, rest)

def lines : Nat → List String → Members → List Char → Option Members
  | 0, _, _, _ => none
  | fuel + 1, current, members, input =>
    match skipFiller false input with
    | [] => some members
    | '[' :: rest => do
      let (opened, members, rest) ← header members rest
      lines fuel opened members rest
    | rest => do
      let (path, last, rest) ← key rest
      let rest ← after? '=' rest
      let (v, rest) ← value (2 * rest.length + 2) (nestingLimit - 1) (skipBlank rest)
      let rest ← lineEnd? rest
      let members ← members.define current path last v
      lines fuel current members rest

end Reader

/-- The table that a document is. A byte order mark may come first. -/
def read? (text : String) : Option Toml :=
  let input :=
    match text.toList with
    | '\ufeff' :: rest => rest
    | input => input
  (Reader.lines (input.length + 1) [] [] input).map fun members => .table (finishMembers members)

end EventBus.Toml
