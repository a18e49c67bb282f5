import EventBus.Json.Writer
import EventBus.Text.Quoted

namespace EventBus.Json

mutual

def shown : Json → String
  | .null => "Null"
  | .bool b => "Bool(" ++ (if b then "true" else "false") ++ ")"
  | .number n => "Number(" ++ String.ofList n.write ++ ")"
  | .string s => "String(" ++ Text.quoted s ++ ")"
  | .array items => "Array [" ++ ", ".intercalate (shownItems items) ++ "]"
  | .object fields => "Object \x7b" ++ ", ".intercalate (shownFields fields) ++ "\x7d"

def shownItems : List Json → List String
  | [] => []
  | item :: rest => shown item :: shownItems rest

def shownFields : List (String × Json) → List String
  | [] => []
  | (key, value) :: rest => (Text.quoted key ++ ": " ++ shown value) :: shownFields rest

end
end Json

def Text.quotedList (texts : List String) : String :=
  "[" ++ ", ".intercalate (texts.map Text.quoted) ++ "]"

def SortedMap.shown (m : SortedMap Json) : String :=
  "\x7b" ++ ", ".intercalate (Json.shownFields m.entries) ++ "\x7d"

end EventBus
