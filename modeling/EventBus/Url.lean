import EventBus.Url.Address
import EventBus.Url.Percent

namespace EventBus

/-- What a URL says up to its host and port. User name and password are kept percent-encoded. -/
structure Url where
  scheme : String
  username : String
  password : Option String
  host : String
  port : Option UInt16
  deriving DecidableEq, Repr

namespace Url

/-- Blanks and controls at the ends do not count, and ends of lines and tabs nowhere. -/
def clean (text : List Char) : List Char :=
  let outer (c : Char) : Bool := c ≤ ' '
  let trimmed := ((text.dropWhile outer).reverse.dropWhile outer).reverse
  trimmed.filter fun c => c ≠ '\t' && c ≠ '\n' && c ≠ '\r'

def isSchemeChar (c : Char) : Bool := c.isAlphanum || c = '+' || c = '-' || c = '.'

def scheme? (text : List Char) : Option (List Char × List Char) :=
  match text.takeWhile isSchemeChar, text.dropWhile isSchemeChar with
  | c :: name, ':' :: rest =>
    if c.isAlpha then some ((c :: name).map Char.toLower, rest) else none
  | _, _ => none

def endsAuthority (c : Char) : Bool := c = '/' || c = '?' || c = '#'

def splitUser (authority : List Char) : Option (List Char) × List Char :=
  let reversed := authority.reverse
  match reversed.dropWhile (· ≠ '@') with
  | [] => (none, authority)
  | _ :: user => (some user.reverse, (reversed.takeWhile (· ≠ '@')).reverse)

def userReserved : List Char :=
  [' ', '"', '#', '<', '>', '?', '\x60', '\x7b', '\x7d', '/', ':', ';', '=', '@', '[', '\\', ']',
    '^', '|']

def hostForbidden : List Char :=
  ['\x00', '\t', '\n', '\r', ' ', '#', '/', ':', '<', '>', '?', '@', '[', '\\', ']', '^', '|']

/-- The host ends before the first colon that is not in brackets. -/
def splitHost (inBrackets : Bool) : List Char → List Char × List Char
  | [] => ([], [])
  | c :: rest =>
    if c = ':' && !inBrackets then ([], c :: rest)
    else
      let inBrackets := c = '[' || (inBrackets && c ≠ ']')
      let (host, after) := splitHost inBrackets rest
      (c :: host, after)

def host? (text : List Char) : Option (List Char) :=
  match text with
  | [] => none
  | '[' :: rest =>
    if rest.getLast? = some ']' then
      (Address.read? rest.dropLast).map fun a => '[' :: Address.text a ++ [']']
    else none
  | name =>
    if name.any hostForbidden.contains then none
    else some (Percent.encode (fun _ => false) name)

def port? : List Char → Option (Option UInt16)
  | [] => some none
  | _ :: rest =>
    let digits := rest.takeWhile Char.isDigit
    let n := digits.foldl (fun n c => n * 10 + (c.toNat - 48)) 0
    match rest.dropWhile Char.isDigit with
    | [] | '\\' :: _ =>
      if n < UInt16.size then some (if digits = [] then none else some n.toUInt16) else none
    | _ => none

def credentials (user : List Char) : String × Option String :=
  let encoded (text : List Char) : String :=
    String.ofList (Percent.encode userReserved.contains text)
  let name := user.takeWhile (· ≠ ':')
  match user.dropWhile (· ≠ ':') with
  | [] | [_] => (encoded name, none)
  | _ :: password => (encoded name, some (encoded password))

def read? (text : String) : Option Url := do
  let (scheme, rest) ← scheme? (clean text.toList)
  match rest with
  | '/' :: '/' :: rest =>
    let (user, address) := splitUser (rest.takeWhile fun c => !endsAuthority c)
    let (username, password) := credentials (user.getD [])
    let (hostText, portText) := splitHost false address
    let host ← host? hostText
    let port ← port? portText
    some ⟨String.ofList scheme, username, password, String.ofList host, port⟩
  | _ => none

end Url
end EventBus
