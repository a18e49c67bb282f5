import EventBus.Cli.Arguments
import EventBus.Text.Plain

namespace EventBus.Cli

abbrev Table := List (String × String)

def Table.width (table : Table) : Nat := (table.map (·.1.length)).foldl max 0

def blanks (count : Nat) : String := String.ofList (List.replicate count ' ')

def bold (text : String) : String := String.join ["\x1b[1m", text, "\x1b[0m"]

def Table.lines (table : Table) : List String :=
  table.map fun (entry, about) =>
    String.join ["  ", bold entry, blanks (table.width - entry.length + 2),
      ("\n" ++ blanks (table.width + 4)).intercalate (about.splitOn "\n")]

def Flag.call (flag : Flag) : String :=
  match flag.value with
  | some name => String.join ["--", flag.long, " <", name, ">"]
  | none => "--" ++ flag.long

def Flag.entry (flag : Flag) : String :=
  match flag.short with
  | some c => String.ofList ['-', c, ',', ' '] ++ flag.call
  | none => "    " ++ flag.call

def helpEntry : String × String := ("-h, --help", "Print help")

def versionEntry : String × String := ("-V, --version", "Print version")

def Flag.table (flags : List Flag) : Table := flags.map fun flag => (flag.entry, flag.about)

def Command.usage (command : Command) : String :=
  String.join (["Usage: eventbus ", command.name, " [OPTIONS]"] ++
    (command.flags.filter (·.required)).map fun flag => " " ++ flag.call)

def Page.text (environment : String → Option String) (page : Page) : String :=
  "\n".intercalate <| match page with
  | .program =>
    let shown (flag : Flag) : Flag :=
      if flag.long = "broker" then
        let value := (environment brokerVariable).getD ""
        { flag with
          about := String.join [flag.about, " [env: ", brokerVariable, "=", value, "]"] }
      else flag
    ["Publish and listen for JSON events over MQTT", "", "Usage: eventbus [OPTIONS] <COMMAND>", "",
      "Commands:"] ++
    Table.lines (Command.all.map (fun c => (c.name, c.about)) ++
      [("help", "Print this message or the help of the given subcommand(s)")]) ++
    ["", "Options:"] ++
    Table.lines (Flag.table (programFlags.map shown) ++ [helpEntry, versionEntry])
  | .command c =>
    [c.about, "", c.usage, "", "Options:"] ++ Table.lines (Flag.table c.flags ++ [helpEntry])
  | .help =>
    ["Print this message or the help of the given subcommand(s)", "",
      "Usage: eventbus help [COMMAND]...", "", "Arguments:",
      "  [COMMAND]...  Print help for the subcommand(s)"]

def Page.lines (environment : String → Option String) (page : Page) : List String :=
  (Text.plain (page.text environment)).splitOn "\n"

end EventBus.Cli
