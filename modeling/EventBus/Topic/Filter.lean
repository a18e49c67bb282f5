import EventBus.Topic

namespace EventBus.Topic

inductive FilterError where
  | empty
  | multiLevelNotLast
  | partialWildcard (wildcard : Char)
  deriving DecidableEq, Repr

def FilterError.message : FilterError → String
  | .empty => "topic filter cannot be empty"
  | .multiLevelNotLast => "'#' is only valid as the last segment"
  | .partialWildcard wildcard => s!"'{wildcard}' must occupy an entire segment"

def segmentFault (segment : List Char) (isLast : Bool) : Option FilterError :=
  if '#' ∈ segment then
    if segment ≠ multiLevel then some (.partialWildcard '#')
    else if isLast then none
    else some .multiLevelNotLast
  else if '+' ∈ segment ∧ segment ≠ singleLevel then some (.partialWildcard '+')
  else none

def segmentsFault : List (List Char) → Option FilterError
  | [] => none
  | segment :: rest => segmentFault segment rest.isEmpty <|> segmentsFault rest

def filterFault (filter : String) : Option FilterError :=
  if filter = "" then some .empty else segmentsFault (segments filter)

def validateFilter (filter : String) : Except FilterError Unit :=
  match filterFault filter with
  | some error => .error error
  | none => .ok ()

end EventBus.Topic
