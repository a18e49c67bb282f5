import EventBus.Cli.Help
import EventBus.Config.Document
import EventBus.Config.Load
import EventBus.Config.Url
import EventBus.Error
import EventBus.Files
import EventBus.Log.Filter
import EventBus.World

namespace EventBus.Cli

structure Host where
  environment : String → Option String
  files : Connection.FileReader
  network : Connection.Network
  stamp : Event.Stamp
  clientId : String
  subscriptionId : String

structure Report where
  exit : UInt32 := 0
  lines : List Log.Line := []
  output : List String := []

inductive Failure where
  | failed (error : Error)
  /-- A bound is passed that nothing asks about before. The program ends at once. -/
  | aborted
  deriving DecidableEq, Repr

/-- A part of the program that says something whether it fails or not. -/
abbrev Told (α : Type u) := List Log.Line × Except Failure α

def Told.andThen (first : Told α) (next : α → Told β) : Told β :=
  match first.2 with
  | .error error => (first.1, .error error)
  | .ok value =>
    let second := next value
    (first.1 ++ second.1, second.2)

def standardFile : String := "eventbus.toml"

def readFile (host : Host) (path : String) : Except ConfigError Config :=
  match host.files path with
  | .error reason => .error (.unreadable reason)
  | .ok bytes =>
    match Utf8.decode bytes with
    | .error _ => .error (.unreadable "stream did not contain valid UTF-8")
    | .ok text => Config.load host.environment host.clientId (String.ofList text)

def chosenFile (host : Host) (named : Option String) : Option String :=
  match named, host.files standardFile with
  | some path, _ => some path
  | none, .ok _ => some standardFile
  | none, .error reason =>
    if reason = Files.Fault.notFound.message then none else some standardFile

/-- A broker that is named replaces the settings of the file, all but client id and base topic. -/
def withBroker (host : Host) (url : Option String) (config : Config) : Except ConfigError Config :=
  match url with
  | none => .ok config
  | some url =>
    match BrokerSettings.ofUrl host.clientId url with
    | .error error => .error error
    | .ok settings =>
      let settings := match config.broker with
        | none => settings
        | some existing =>
          { settings with topicPrefix := existing.topicPrefix, clientId := existing.clientId }
      .ok { config with broker := some settings }

def load (host : Host) (file url : Option String) : List Log.Line × Except Error Config :=
  let (lines, config) := match chosenFile host file with
    | some path =>
      ([Log.info .program ("Loading configuration from: " ++ path)], readFile host path)
    | none => ([], Config.load host.environment host.clientId "")
  (lines, (config >>= withBroker host url).mapError .config)

def sessionSpan (part : Log.Part) : Log.Span :=
  ⟨part, "mqtt_session", .info, ["role", "client_id"]⟩

def optionLines (s : BrokerSettings) : List Log.Line :=
  if s.useTls && s.caCerts.isNone && s.certFile.isSome then
    [Log.warn .options (String.join ["Client certificate configured without ca_certs; ",
      "using default TLS roots without client auth"])]
  else []

def messageOf (given : Given) : Except Error Message :=
  let level := ((given.first? "qos") >>= byte?).getD Qos.standard.level
  match Qos.ofLevel? level with
  | none => .error (.invalidInput (Qos.invalidLevelMessage level))
  | some qos =>
    match Json.ofString? ((given.first? "payload").getD "") with
    | none => .error (.invalidInput "payload is not valid JSON")
    | some (.object fields) =>
      .ok {
        topic := (given.first? "topic").getD ""
        payload := SortedMap.ofList fields
        qos
        retain := (given.first? "retain").isSome
        correlationId := given.first? "correlation-id" }
    | some _ => .error (.invalidInput "payload must be a JSON object")

def publisherStopped : Log.Line := Log.info .publisher "MQTT publisher event loop stopped"

def connectLines (settings : BrokerSettings) (connected : Except Connection.Error Unit) :
    List Log.Line :=
  let span := sessionSpan .publisher
  let failed := Log.error .publisher "Failed to connect to MQTT broker" ["host", "port", "error"]
  let lines := match connected with
    | .ok () =>
      span.opened :: span.around [Log.info .connection "MQTT connection established"] ++
        [Log.info .publisher "Connected to MQTT broker" ["host", "port"]]
    | .error (.notReached reason) =>
      span.opened :: span.around [Log.error .connection ("MQTT event loop error: " ++ reason),
        publisherStopped] ++ [span.closed, failed]
    | .error (.timedOut _) => [span.opened, failed, span.closed]
    | .error _ => []
  Log.info .publisher "Connecting to MQTT broker" ["host", "port", "client_id"] ::
    optionLines settings ++ lines

def disconnectLines : List Log.Line :=
  let span := sessionSpan .publisher
  span.around [Log.info .publisher "Shutdown signal received, closing publisher session",
    publisherStopped] ++ [span.closed, Log.info .publisher "Disconnected from MQTT broker"]

def resultLines (result : PublishResult) : List String :=
  let member (key value : String) := String.join ["  \"", key, "\": ", value]
  let text (s : String) := String.ofList (Json.string s).write
  let members :=
    [member "success" (if result.success then "true" else "false")] ++
    (result.messageId.map fun id => member "message_id" (text id)).toList ++
    (result.error.map fun error => member "error" (text error)).toList
  "\x7b" :: (",\n".intercalate members).splitOn "\n" ++ ["\x7d"]

def publish (host : Host) (config : Config) (given : Given) :
    List Log.Line × List String × Option Error :=
  match config.broker with
  | none => ([], [], some (.invalidInput "publish needs an [mqtt] section or --broker"))
  | some settings =>
    match messageOf given with
    | .error error => ([], [], some error)
    | .ok message =>
      let (_, publisher, connected) :=
        ({ settings } : Publisher).connect host.network host.files none
      let lines := connectLines settings connected
      match connected with
      | .error error => (lines, [], some (.transport (.connection error)))
      | .ok () =>
        let (_, result) := publisher.publish host.stamp.time host.stamp.id message
        (lines ++ disconnectLines, resultLines result,
          if result.success then none
          else some (.invalidInput (result.error.getD "publish failed")))

def checkConfig (config : Config) (printed : Bool) : Told (List String) :=
  match config.validate with
  | .error fault => ([], .error (.failed (.config (.invalid fault))))
  | .ok () =>
    let lines := [Log.info .program "Configuration is valid"]
    if !printed then (lines, .ok [])
    else
      match config.shown with
      | .ok text => (lines, .ok (text.splitOn "\n"))
      | .error .nothing =>
        (lines, .error (.failed (.invalidInput "cannot render config: unsupported unit type")))
      | .error .tooManyQuotes => (lines, .error .aborted)

structure LogHandler where
  deriving DecidableEq, Repr

def catalog : Catalog LogHandler := SortedMap.empty.insert "log" {}

def registered : Log.Line :=
  Log.info .registry "Registered subscription" ["subscription_id", "topics", "enabled"]

def registrationLines (registry : Registry LogHandler) :
    List (Subscription LogHandler) → List Log.Line
  | [] => []
  | s :: rest =>
    match registry.register s with
    | .ok registry => registered :: registrationLines registry rest
    | .error (.duplicateId _) =>
      Log.warn .registry "Duplicate subscription id rejected" ["subscription_id"] ::
        Log.warn .declarations "Subscription from config already registered, skipping"
          ["subscription_id"] ::
        registrationLines registry rest
    | .error _ => []

def subscribeAll (host : Host) (config : Config) (topics : List String)
    (service : Service LogHandler) : Told (Service LogHandler) :=
  let lines := registrationLines service.registry
    ((catalog.resolve config.subscriptions).toOption.getD [])
  match registerSpecs Service.register catalog service config.subscriptions with
  | (_, .error error) => (lines, .error (.failed (.subscription error)))
  | (service, .ok _) =>
    let lines := lines ++ [Log.info .declarations "Registered subscriptions from config" ["count"]]
    if topics = [] then (lines, .ok service)
    else
      match service.register { id := host.subscriptionId, topics, handler := {} } with
      | .error error => (lines, .error (.failed (.subscription error)))
      | .ok service => (lines ++ [registered], .ok service)

def startLines (service : Service LogHandler) : List Log.Line :=
  (match service.broker with
    | none => [Log.warn .service "No MQTT config provided, external events won't be received"]
    | some _ =>
      (if service.registry.topics = [] then
        [Log.info .service
          "No topics registered yet, MQTT subscriber will pick up later subscriptions"]
      else []) ++
      [(sessionSpan .subscriber).opened,
        Log.info .subscriber "MQTT subscriber started" ["host", "port", "topics"]]) ++
    [Log.info .service "Subscription service started" ["subscriptions"]]

def listen (host : Host) (config : Config) (given : Given) : Told (World LogHandler) :=
  let warned := if config.broker.isNone then
      [Log.warn .program
        "No [mqtt] section or --broker given, only local events will be dispatched"]
    else []
  if Dispatcher.mostPermits < config.service.maxHandlers.toNat then (warned, .error .aborted)
  else
    let service : Service LogHandler := .new config.service config.broker []
    Told.andThen (warned, .ok service) fun service =>
      Told.andThen (subscribeAll host config (given.values "topic") service) fun service =>
        let settings := config.broker.getD (.standard host.clientId)
        (startLines service, .ok {
          network := host.network
          files := host.files
          stamp := host.stamp
          sink := Service.sink
          behave := fun _ _ _ => .done
          publisher := { settings }
          subscriber := { subscriber := { settings } }
          service := service.start })

def listenerStopped : List Log.Line :=
  let span := sessionSpan .subscriber
  span.around [Log.info .subscriber "MQTT subscriber listener stopped"] ++ [span.closed]

def listenerLines (s : Subscriber) : List Log.Line :=
  let say := (sessionSpan .subscriber).around
  let failed :=
    optionLines s.settings ++ [Log.warn .subscriber "MQTT subscriber connection failed" ["error"]]
  let policy := Connection.RetryPolicy.ofSettings s.settings
  let retries := (List.range s.attempts.toNat).flatMap fun k =>
    failed ++ [Log.info .subscriber (String.join ["Subscriber reconnection attempt ",
      toString (k + 1), "/", policy.limitText, " in ", policy.delay.text])]
  if s.running then say retries
  else
    say (retries ++ failed ++ [Log.error .subscriber (String.join ["Max reconnection attempts (",
      toString policy.maxAttempts.toNat, ") exceeded, MQTT subscriber giving up"])]) ++
      listenerStopped

def stopLines (service : Service LogHandler) : List Log.Line :=
  let subscriber := match service.subscriber with
    | none => []
    | some s =>
      (match s.running, s.phase with
        | true, .waiting _ =>
          (sessionSpan .subscriber).around [Log.info .subscriber
            "Shutdown signal received during reconnection delay, stopping"] ++ listenerStopped
        | true, _ => listenerStopped
        | false, _ => []) ++ [Log.info .subscriber "MQTT subscriber stopped"]
  subscriber ++ [Log.info .service "Subscription service stopped",
    Log.info .program "Listener stopped" ["stats"]]

def version : String := "0.1.0"

inductive Run where
  | over (report : Report)
  | listening (report : Report) (world : World LogHandler)

def Failure.report (lines : List Log.Line) (output : List String) : Failure → Report
  | .failed error =>
    ⟨1, lines ++ [Log.error .program ("Command failed: " ++ error.message)], output⟩
  | .aborted => ⟨101, lines, output⟩

def begin (host : Host) (arguments : List String) : Run :=
  match Invocation.read host.environment arguments with
  | .error .misuse => .over { exit := 2 }
  | .error .version => .over { output := ["eventbus " ++ version] }
  | .error (.help page) => .over { output := page.lines host.environment }
  | .ok invocation =>
    match load host invocation.file invocation.broker with
    | (lines, .error error) =>
      .over ⟨1, lines ++
        [Log.error .program ("Failed to load configuration: " ++ error.message)], []⟩
    | (loading, .ok config) =>
      match invocation.command with
      | .publish =>
        match publish host config invocation.given with
        | (lines, output, none) => .over { lines := loading ++ lines, output }
        | (lines, output, some error) =>
          .over ((Failure.failed error).report (loading ++ lines) output)
      | .config =>
        match checkConfig config (invocation.given.first? "show").isSome with
        | (lines, .ok output) => .over { lines := loading ++ lines, output }
        | (lines, .error failure) => .over (failure.report (loading ++ lines) [])
      | .listen =>
        match listen host config invocation.given with
        | (lines, .ok world) => .listening { lines := loading ++ lines } world
        | (lines, .error failure) => .over (failure.report (loading ++ lines) [])

def farewell (world : World LogHandler) : List Log.Line :=
  let world := (world.wait fun _ => false).1
  (world.service.subscriber.map listenerLines).getD [] ++
    Log.info .program "Received SIGTERM, shutting down gracefully..." :: stopLines world.service

/-- The report of a run. One that listens is left alone for a while and then asked to stop. -/
def Run.finish : Run → Report
  | .over report => report
  | .listening report world => { report with lines := report.lines ++ farewell world }

def Report.shown (host : Host) (report : Report) : List Log.Line :=
  report.lines.filter (Log.Settings.ofEnvironment host.environment).shows

def Report.records (host : Host) (report : Report) : List Log.Line :=
  match (Log.Settings.ofEnvironment host.environment).format with
  | .json => report.shown host
  | .pretty | .compact => []

end EventBus.Cli
