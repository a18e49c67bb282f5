import EventBus.Entries
import EventBus.Toml

namespace EventBus.Toml

/-- How a table came about, which decides who may still add to it. A header opens a table once, and
dotted keys only extend tables that dotted keys made. -/
inductive Origin where
  | dottedKey
  | longerHeader
  | header
  deriving DecidableEq, Repr

inductive Item where
  | value (v : Toml)
  | table (origin : Origin) (members : List (String × Item))
  | tables (elements : List (List (String × Item)))
  deriving Inhabited

abbrev Members := List (String × Item)

namespace Members

/-- Change the table at a path, and make the tables on the way that are missing. Of a list of
tables the path goes through the latest. -/
def alter (dotted : Bool) (change : Origin → Members → Option Members) (origin : Origin) :
    List String → Members → Option Members
  | [], members => change origin members
  | key :: path, members =>
    match Entries.find? key members with
    | none => do
      let origin := if dotted then Origin.dottedKey else .longerHeader
      let inner ← alter dotted change origin path []
      some (Entries.insert key (.table origin inner) members)
    | some (.value _) => none
    | some (.table origin inner) =>
      if dotted ∧ origin = .header then none
      else do
        let inner ← alter dotted change origin path inner
        some (Entries.insert key (.table origin inner) members)
    | some (.tables []) => none
    | some (.tables (latest :: earlier)) => do
      let latest ← alter dotted change .header path latest
      some (Entries.insert key (.tables (latest :: earlier)) members)

/-- Set a key below the table at a path. No key is set twice. -/
def define (table : List String) (path : List String) (key : String) (value : Toml)
    (members : Members) : Option Members :=
  alter false (fun _ members => alter true set .header path members) .header table members
where
  set (origin : Origin) (members : Members) : Option Members :=
    if (path = [] ∨ origin = .dottedKey) ∧ !Entries.contains key members then
      some (Entries.insert key (.value value) members)
    else none

/-- A header opens a table that is new or was only implied by longer headers. -/
def openTable (path : List String) (key : String) : Members → Option Members :=
  alter false (fun _ members =>
    match Entries.find? key members with
    | none => some (Entries.insert key (.table .header []) members)
    | some (.table .longerHeader inner) => some (Entries.insert key (.table .header inner) members)
    | some _ => none) .header path

/-- A header in double brackets opens one more table of a list. -/
def appendTable (path : List String) (key : String) : Members → Option Members :=
  alter false (fun _ members =>
    match Entries.find? key members with
    | none => some (Entries.insert key (.tables [[]]) members)
    | some (.tables elements) => some (Entries.insert key (.tables ([] :: elements)) members)
    | some _ => none) .header path

end Members

mutual

def Item.finish : Item → Toml
  | .value v => v
  | .table _ members => .table (finishMembers members)
  | .tables elements => .array (finishElements elements).reverse

def finishMembers : List (String × Item) → List (String × Toml)
  | [] => []
  | (key, item) :: rest => (key, item.finish) :: finishMembers rest

def finishElements : List (List (String × Item)) → List Toml
  | [] => []
  | members :: rest => .table (finishMembers members) :: finishElements rest

end
end EventBus.Toml
