namespace EventBus.Topic

def segmentsOf : List Char → List (List Char)
  | [] => [[]]
  | c :: rest =>
    if c = '/' then [] :: segmentsOf rest
    else
      match segmentsOf rest with
      | [] => [[c]]
      | segment :: more => (c :: segment) :: more

def segments (text : String) : List (List Char) := segmentsOf text.toList

def singleLevel : List Char := ['+']

def multiLevel : List Char := ['#']

/-- Whether filter segments select topic segments. Reaching `#` accepts whatever is left. -/
def segmentsMatch : List (List Char) → List (List Char) → Bool
  | topic, [] => topic.isEmpty
  | [], segment :: _ => segment = multiLevel
  | part :: topic, segment :: filter =>
    segment = multiLevel ||
      ((segment = singleLevel || part = segment) && segmentsMatch topic filter)

def matchesFilter (topic filter : String) : Bool := segmentsMatch (segments topic) (segments filter)

/-- The topic of an event whose sender names none: `alerts.raised` goes to `alerts/raised`. -/
def ofEventType (eventType : String) : String :=
  if eventType = "" then "events/unknown"
  else String.ofList (eventType.toList.map fun c => if c = '.' then '/' else c)

end EventBus.Topic
