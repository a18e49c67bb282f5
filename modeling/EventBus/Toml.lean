import EventBus.Double

namespace EventBus

inductive Toml where
  | string (s : String)
  | integer (i : Int64)
  | real (x : Double)
  | bool (b : Bool)
  | dateTime (text : String)
  | array (items : List Toml)
  | table (members : List (String × Toml))
  deriving Repr, Inhabited

namespace Toml

/-- Values nest fewer levels than this, and a dotted key has fewer parts. -/
def nestingLimit : Nat := 80

/-- A date-time is read as a table with its text under this key. -/
def dateTimeKey : String := "$__toml_private_datetime"

def members? : Toml → Option (List (String × Toml))
  | .table members => some members
  | .dateTime text => some [(dateTimeKey, .string text)]
  | _ => none

end Toml
end EventBus
