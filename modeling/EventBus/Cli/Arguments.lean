import EventBus.Config

namespace EventBus.Cli

inductive Command where
  | listen
  | publish
  | config
  deriving DecidableEq, Repr

inductive Page where
  | program
  | command (c : Command)
  | help
  deriving DecidableEq, Repr

inductive Stop where
  | help (page : Page)
  | version
  | misuse
  deriving DecidableEq, Repr

structure Flag where
  long : String
  short : Option Char := none
  value : Option String := none
  repeatable : Bool := false
  required : Bool := false
  about : String := ""
  accepts : String → Bool := fun _ => true

/-- Values by the names of their flags, in order. A flag without a value has an empty one. -/
abbrev Given := List (String × String)

namespace Command

def name : Command → String
  | .listen => "listen"
  | .publish => "publish"
  | .config => "config"

def all : List Command := [.listen, .publish, .config]

def about : Command → String
  | .listen => "Subscribe and log matching events until interrupted"
  | .publish => "Publish one JSON object"
  | .config => "Validate the configuration"

end Command

/-- A whole number from 0 to 255, with or without a sign. -/
def byte? (text : String) : Option Nat :=
  let digits (cs : List Char) : Option Nat :=
    if cs ≠ [] ∧ cs.all Char.isDigit then
      some (cs.foldl (fun n c => n * 10 + (c.toNat - '0'.toNat)) 0)
    else none
  let value :=
    match text.toList with
    | '+' :: cs => digits cs
    | '-' :: cs => (digits cs).filter (· = 0)
    | cs => digits cs
  value.filter (· < 256)

def programFlags : List Flag :=
  [{ long := "config", short := some 'c', value := some "FILE", about := "Configuration file path"
     accepts := (· ≠ "") },
    { long := "broker", value := some "BROKER"
      about := "Broker URL overriding the [mqtt] section, e.g. mqtt://localhost:1883" }]

def Command.flags : Command → List Flag
  | .listen =>
    [{ long := "topic", value := some "FILTER", repeatable := true
       about := "Extra topic filter handled by the \x60log\x60 handler (repeatable)" }]
  | .publish =>
    [{ long := "topic", value := some "TOPIC", required := true },
      { long := "payload", value := some "PAYLOAD", required := true
        about := "JSON object to send" },
      { long := "qos", value := some "QOS", about := "[default: 1]"
        accepts := fun text => (byte? text).isSome },
      { long := "retain" },
      { long := "correlation-id", value := some "CORRELATION_ID" }]
  | .config => [{ long := "show", about := "Print the resolved configuration" }]

inductive Shape where
  | separator
  | long (name : String) (value : Option String)
  | short (letters : List Char)
  | operand
  deriving DecidableEq, Repr

def Shape.of (argument : String) : Shape :=
  match argument.toList with
  | ['-', '-'] => .separator
  | '-' :: '-' :: rest =>
    let name := String.ofList (rest.takeWhile (· ≠ '='))
    match rest.dropWhile (· ≠ '=') with
    | _ :: value => .long name (some (String.ofList value))
    | [] => .long name none
  | '-' :: c :: rest => .short (c :: rest)
  | _ => .operand

def take (flag : Flag) (value : String) (given : Given) : Except Stop Given :=
  if !flag.accepts value then .error .misuse
  else if !flag.repeatable && given.any (·.1 = flag.long) then .error .misuse
  else .ok (given ++ [(flag.long, value)])

/-- A flag whose value is an argument of its own, once that is there. The value is looked at when
the next flag comes, or at the end: until then a help flag goes before a fault of it. -/
structure Pending where
  flag : Flag
  value : Option String := none

def settle (pending : Option Pending) (given : Given) : Except Stop Given :=
  match pending with
  | none => .ok given
  | some ⟨flag, some value⟩ => take flag value given
  | some ⟨_, none⟩ => .error .misuse

/-- Letters behind one dash: flags without values, then at most one with a value. What is left
behind that one is its value. -/
def readLetters (page : Page) (flags : List Flag) (given : Given) :
    List Char → Except Stop (Given × Option Pending)
  | [] => .ok (given, none)
  | c :: rest =>
    if c = 'h' then .error (.help page)
    else if c = 'V' ∧ page = .program then .error .version
    else
      match flags.find? (·.short = some c) with
      | none => .error .misuse
      | some flag =>
        if flag.value.isSome then
          match rest with
          | [] => .ok (given, some { flag })
          | '=' :: value | value => (take flag (String.ofList value) given).map (·, none)
        else
          match take flag "" given with
          | .error stop => .error stop
          | .ok given => readLetters page flags given rest

def readLong (page : Page) (flags : List Flag) (given : Given) (name : String)
    (attached : Option String) : Except Stop (Given × Option Pending) :=
  if name = "help" ∧ attached = none then .error (.help page)
  else if name = "version" ∧ attached = none ∧ page = .program then .error .version
  else
    match flags.find? (·.long = name), attached with
    | none, _ => .error .misuse
    | some flag, some value =>
      if flag.value.isSome then (take flag value given).map (·, none) else .error .misuse
    | some flag, none =>
      if flag.value.isSome then .ok (given, some { flag })
      else (take flag "" given).map (·, none)

structure Flags where
  given : Given
  pending : Option Pending
  rest : List String

def readFlags (page : Page) (flags : List Flag) (given : Given) (pending : Option Pending) :
    List String → Except Stop Flags
  | [] => .ok ⟨given, pending, []⟩
  | argument :: rest =>
    match Shape.of argument, pending with
    | .operand, some ⟨flag, none⟩ =>
      readFlags page flags given (some ⟨flag, some argument⟩) rest
    | .operand, _ => .ok ⟨given, pending, argument :: rest⟩
    | .separator, _ => if rest = [] then .ok ⟨given, pending, []⟩ else .error .misuse
    | .short letters, _ => do
      let given ← settle pending given
      match readLetters page flags given letters with
      | .error stop => .error stop
      | .ok (given, pending) => readFlags page flags given pending rest
    | .long name attached, _ => do
      let given ← settle pending given
      match readLong page flags given name attached with
      | .error stop => .error stop
      | .ok (given, pending) => readFlags page flags given pending rest

structure Invocation where
  file : Option String
  broker : Option String
  command : Command
  given : Given

def Given.first? (given : Given) (name : String) : Option String :=
  (given.find? (·.1 = name)).map (·.2)

def Given.values (given : Given) (name : String) : List String :=
  (given.filter (·.1 = name)).map (·.2)

def pageOf : List String → Except Stop Page
  | [] => .ok .program
  | ["help"] => .ok .help
  | [name] =>
    match Command.all.find? (·.name = name) with
    | some command => .ok (.command command)
    | none => .error .misuse
  | _ => .error .misuse

def brokerVariable : String := "EVENTBUS_BROKER_URL"

def Command.read (command : Command) (arguments : List String) : Except Stop Given := do
  let flags ← readFlags (.command command) command.flags [] none arguments
  if flags.rest ≠ [] then .error .misuse
  else
    let given ← settle flags.pending flags.given
    if command.flags.any fun o => o.required && (given.first? o.long).isNone then .error .misuse
    else .ok given

def Invocation.read (environment : String → Option String) (arguments : List String) :
    Except Stop Invocation := do
  let flags ← readFlags .program programFlags [] none arguments
  match flags.rest with
  | [] => .error .misuse
  | "help" :: names => do
    let page ← pageOf names
    .error (.help page)
  | name :: rest =>
    match Command.all.find? (·.name = name) with
    | none => .error .misuse
    | some command => do
      let given ← command.read rest
      let outer ← settle flags.pending flags.given
      .ok {
        file := outer.first? "config"
        broker := outer.first? "broker" <|> environment brokerVariable
        command
        given }

end EventBus.Cli
