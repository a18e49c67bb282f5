import EventBus.Cli
import EventBus.Files
import EventBus.Id
import EventBus.Log.Text
import Std.Time.DateTime.Timestamp

namespace EventBus.Cli

def present : IO Timestamp := do
  let now ← Std.Time.Timestamp.now
  let nanoseconds := now.toNanosecondsSinceUnixEpoch.val
  return ⟨nanoseconds / 10 ^ 9, (nanoseconds % 10 ^ 9).toNat, by omega⟩

def randomBytes (count : USize) : IO (List UInt8) := do
  return (← IO.getRandomBytes count).toList

def wanted : List String := [brokerVariable, "LOG_FORMAT", "LOG_LEVEL", "LOG_SPANS", "RUST_LOG"]

def environmentOf (names : List String) : IO (String → Option String) := do
  let values ← names.mapM fun name => return (name, ← IO.getEnv name)
  return fun name => (values.lookup name).join

def reasonOf : IO.Error → String
  | .noFileOrDirectory .. => Files.Fault.notFound.message
  | .inappropriateType _ _ detail =>
    if detail = "not a directory" then Files.Fault.notDirectory.message
    else Files.Fault.isDirectory.message
  | .invalidArgument (some _) .. => Files.Fault.nameTooLong.message
  | .permissionDenied .. => "Permission denied (os error 13)"
  | error => error.toString

def contentOf (path : String) : IO (Except String Connection.FileContent) := do
  if path.contains '\x00' then return .error Files.Fault.nul.message
  match ← (IO.FS.readBinFile path).toBaseIO with
  | .ok bytes => return .ok bytes.toList
  | .error error => return .error (reasonOf error)

def readerOf (paths : List String) : IO Connection.FileReader := do
  let contents ← paths.mapM fun path => return (path, ← contentOf path)
  return fun path => (contents.lookup path).getD (.error Files.Fault.notFound.message)

def hostOf (paths names : List String) : IO Host := do
  return {
    environment := ← environmentOf (wanted ++ names)
    files := ← readerOf paths
    network := .absent
    stamp := ⟨Id.unique (← randomBytes 16), ← present⟩
    clientId := Id.client (← randomBytes 4)
    subscriptionId := Id.subscription (← randomBytes 4) }

def namesIn (content : Except String Connection.FileContent) : List String :=
  match content with
  | .ok bytes => Config.referenced (Utf8.decodeLossy bytes)
  | .error _ => []

def filesOf (config : Config) : List String :=
  config.broker.elim [] fun s => [s.caCerts, s.certFile, s.keyFile].filterMap id

def lookAround (arguments : List String) : IO Host := do
  let host ← hostOf [] []
  match Invocation.read host.environment arguments with
  | .error _ => return host
  | .ok invocation =>
    let path := invocation.file.getD standardFile
    let names := namesIn (← contentOf path)
    let host ← hostOf [path] names
    match (load host invocation.file invocation.broker).2 with
    | .error _ => return host
    | .ok config => hostOf (path :: filesOf config) names

def print (host : Host) (report : Report) : IO Unit := do
  let format := (Log.Settings.ofEnvironment host.environment).format
  for line in report.shown host do
    IO.println (line.text format (← present))
  for line in report.output do
    IO.println line

def awaitEnd : IO Unit := do
  let input ← IO.getStdin
  repeat
    if (← input.getLine).isEmpty then break

end EventBus.Cli

open EventBus Cli in
def main (arguments : List String) : IO UInt32 := do
  let host ← lookAround arguments
  match begin host arguments with
  | .over report =>
    print host report
    if report.exit = 2 then IO.eprintln "For more information, try '--help'."
    return report.exit
  | .listening report world =>
    print host report
    awaitEnd
    print host { lines := farewell world }
    return report.exit
