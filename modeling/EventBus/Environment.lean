import EventBus.Topic.Prefix

namespace EventBus.Environment

/-- Every variable is an entry `NAME=VALUE`, and a name is what stands before an equals sign of one.
So a name may hold such a sign itself: its value is what follows in the variable's value. -/
def lookUp (entries : List (String × String)) (name : String) : Option String :=
  entries.findSome? fun (key, value) =>
    (Topic.dropStart? (name.toList ++ ['=']) (key.toList ++ '=' :: value.toList)).map String.ofList

end EventBus.Environment
