import EventBus.Log.Directive

namespace EventBus.Log

abbrev Filter := List Directive

namespace Filter

def upTo (level : Level) : Filter := [{ limit := some level }]

/-- Words stand between commas. Those that cannot be read are passed over, and without any other
the errors are left. -/
def ofText (text : String) : Filter :=
  match ((text.splitOn ",").filter (· ≠ "")).filterMap Directive.ofWord? with
  | [] => upTo .error
  | words => words

def decisive? (filter : Filter) (line : Line) : Option Directive :=
  (filter.filter (·.isAbout line)).foldl (fun best d =>
    if best.any (·.moreSpecific d) then best else some d) none

def opens (filter : Filter) (line : Line) : Bool :=
  line.span.any fun span => filter.any fun d =>
    d.opens span && (line.ofSpan || d.limit.any (·.shows line.level))

def shows (filter : Filter) (line : Line) : Bool :=
  filter.opens line || (filter.decisive? line).any fun d => d.limit.any (·.shows line.level)

end Filter

structure Settings where
  filter : Filter := .upTo .info
  format : Format := .json
  spans : Bool := false
  deriving DecidableEq, Repr

namespace Settings

def ofEnvironment (environment : String → Option String) : Settings where
  filter :=
    match environment "RUST_LOG" with
    | some text => .ofText text
    | none => .upTo (.ofName ((environment "LOG_LEVEL").getD "INFO"))
  format := .ofName ((environment "LOG_FORMAT").getD "json")
  spans := (environment "LOG_SPANS").any (·.toLower = "true")

def shows (s : Settings) (line : Line) : Bool :=
  (s.spans || !line.ofSpan) && s.filter.shows line

end Settings
end EventBus.Log
