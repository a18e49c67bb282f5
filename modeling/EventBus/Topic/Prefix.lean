import EventBus.Entries
import EventBus.Topic

namespace EventBus.Topic

def trimEndSlashes (text : List Char) : List Char :=
  (text.reverse.dropWhile (· = '/')).reverse

def trimStartSlashes (text : List Char) : List Char := text.dropWhile (· = '/')

/-- The topic under a base, with one slash between the two. An empty base leaves the topic
untouched. -/
def addPrefix (base topic : String) : String :=
  if base = "" then topic
  else String.ofList (trimEndSlashes base.toList ++ '/' :: trimStartSlashes topic.toList)

def dropStart? : List Char → List Char → Option (List Char)
  | [], text => some text
  | _ :: _, [] => none
  | c :: start, d :: text => if c = d then dropStart? start text else none

/-- The topic below a base. A topic outside it passes through. -/
def stripPrefix (base topic : String) : String :=
  if base = "" then topic
  else
    match dropStart? (trimEndSlashes base.toList ++ ['/']) topic.toList with
    | some rest => String.ofList rest
    | none => topic

/-- The filters to ask the broker for: under the base, each once, in ascending order. -/
def plan (base : String) (topics : List String) : List String :=
  Entries.keys (Entries.ofList (topics.map fun topic => (addPrefix base topic, ())))

end EventBus.Topic
