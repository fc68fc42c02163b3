import StompBroker.Disk.Storage
import StompBroker.Http.SocketAddress
import StompBroker.Launch.Arguments
import StompBroker.Service.State
import StompBroker.Settings.Load
import StompBroker.Token.Cache
import StompBroker.Token.RemoteCache

/-!
# Starting and stopping the service

To start is to read the settings, open the log and the database, find the cache of live tokens and
take an address to listen on. A step that fails is a `StartProblem` and ends the launch, but what
the steps before it wrote to the log and to the database remains.

`Invocation.perform` does what a command line asks for: it starts the service and stops it again, as
if somebody had told it to stop as soon as it listens.
-/

set_option autoImplicit false

namespace StompBroker

/-- Why an address cannot be listened on. -/
inductive BindProblem where
  /-- Somebody else listens there. -/
  | inUse
  /-- The address is that of another machine. -/
  | notLocal
  deriving DecidableEq, Repr

/-- The wording of the problem. -/
def BindProblem.message : BindProblem → String
  | inUse => "Address already in use (os error 98)"
  | notLocal => "Cannot assign requested address (os error 99)"

/-- Why the service does not start. -/
inductive StartProblem where
  | failure (cause : Failure)
  | logFolder (cause : FolderProblem)
  | database (cause : ConnectProblem)
  | cache (address : String) (causes : List String)
  | malformedAddress (text : String)
  | bind (address : SocketAddress) (cause : BindProblem)
  deriving Repr

namespace StartProblem

/-- The wording of the problem. -/
def message : StartProblem → String
  | failure cause => cause.message
  | logFolder cause => cause.message
  | database cause => cause.message
  | cache address _ => "Failed to connect to Redis at " ++ address
  | malformedAddress text => "Invalid bind address '" ++ text ++ "'"
  | bind address _ => "Failed to bind to " ++ address.text

/-- The wording of its causes, from the outside in. -/
def causes : StartProblem → List String
  | failure _ | logFolder _ => []
  | database cause => cause.causes
  | cache _ causes => causes
  | malformedAddress _ => ["invalid socket address syntax"]
  | bind _ cause => [cause.message]

/-- A problem as it is told: several causes are numbered. -/
def text (problem : StartProblem) : String :=
  let causes := match problem.causes with
    | [] => ""
    | [cause] => "\n\nCaused by:\n    " ++ cause
    | causes => "\n\nCaused by:" ++ String.join (causes.zipIdx.map fun (cause, place) ↦
        "\n    " ++ toString place ++ ": " ++ cause)
  "Error: " ++ problem.message ++ causes ++ "\n"

end StartProblem

/-- What the service finds around it. -/
structure Surroundings where
  /-- The environment. -/
  environment : List (String × String) := []
  /-- Where others listen. -/
  taken : List SocketAddress := []
  /-- The server that keeps track of live tokens answers. -/
  cacheAnswers : Bool := false
  clock : Clock := ⟨0⟩
  /-- The salt for the first password. -/
  salt : Bytes := []
  deriving Repr

/-- How far a launch is. -/
structure Launch where
  storage : Storage
  log : Option LogOutput := none
  /-- The service listens. -/
  started : Bool := false
  deriving Repr

/-- A step of a launch. -/
abbrev LaunchStep := ExceptT StartProblem (StateM Launch)

namespace Launch

/-- Writes a record to the log, if there is one. -/
def write (record : LogRecord) (launch : Launch) : Launch :=
  { launch with log := launch.log.map fun log ↦ log.write record }

/-- Logs a record. -/
def note (record : LogRecord) : LaunchStep Unit := modify (write record)

/-- The settings file unless another one is named. -/
def usualConfig : String := "config/msgsrv.yaml"

/-- Reads the settings, and puts those of the command line over them. -/
def readSettings (surroundings : Surroundings) (options : LaunchOptions) : LaunchStep Settings := do
  let path := Path.ofText (options.config.getD usualConfig)
  match Settings.load ((← get).storage.files.content? path) surroundings.environment with
  | .error cause => throw (.failure cause)
  | .ok settings =>
    return { settings with
      database.path := options.databasePath.getD settings.database.path
      cacheUrl := options.cacheUrl.or settings.cacheUrl
      log.level := options.logLevel.getD settings.log.level }

/-- What the service says about itself. -/
def info : ServiceInfo :=
  { description := "Real-time Notification Service - STOMP over WebSocket" }

/-- Starts the log, with the banner unless it is to be plain. -/
def openLog (surroundings : Surroundings) (settings : Settings) (plain : Bool) :
    LaunchStep Unit := do
  let plan := LogPlan.ofSettings info.name settings.log (!plain) surroundings.environment
  let launch ← get
  match plan.start surroundings.environment launch.storage.files with
  | .error cause => throw (.logFolder cause)
  | .ok (log, files) =>
    set { launch with log := some log, storage.files := files }
    if !plain then info.banner.forM note

/-- Executes a statement. -/
def execute {α : Type} (connection : Connection) (statement : Statement α) :
    LaunchStep (α × Connection) := do
  let launch ← get
  match connection.execute launch.storage statement with
  | (.error cause, _, _) => throw (.failure cause)
  | (.ok value, connection, storage) =>
    set { launch with storage := storage }
    return (value, connection)

/-- Opens the database, with all tables and the first user. -/
def openDatabase (surroundings : Surroundings) (settings : Settings) : LaunchStep Tables := do
  let launch ← get
  match launch.storage.connect settings.database.path with
  | .error cause => throw (.database cause)
  | .ok (connection, storage) =>
    set { launch with storage := storage }
    note
      { target := "common::sqlite"
        message := "SQLite database connected: " ++ settings.database.path }
    note { target := "msgsrv::schema", level := .debug, message := "Init msgsrv tables" }
    let (_, connection) ← execute connection fun tables ↦ .ok ((), tables.prepare)
    let seed := Service.seedUsers surroundings.clock surroundings.salt
    let (isNew, connection) ← execute connection seed
    if isNew then
      note
        { target := "msgsrv::schema"
          message := "Seeded default user '" ++ Service.adminName ++ "'" }
    return connection.tables

/-- Finds the server that keeps track of live tokens, if there is to be one. -/
def findCache (surroundings : Surroundings) (settings : Settings) : LaunchStep Unit :=
  match settings.cacheUrl with
  | none =>
    note
      { target := "msgsrv", level := .warn
        message := "Redis.Url not set, tokens are cached in process memory" }
  | some address =>
    match ({ address } : CacheServer).problem? surroundings.cacheAnswers with
    | some causes => throw (.cache address causes)
    | none => note { target := "msgsrv", message := "Token cache: Redis at " ++ address }

/-- Puts the service together. -/
def assemble (surroundings : Surroundings) (settings : Settings) (tables : Tables) :
    LaunchStep (Service LivenessCache) := do
  let service := Service.start settings surroundings.clock ({} : LivenessCache)
  let service := { service with database.tables := tables }
  note
    { target := "msgsrv::app_state", message := "Application state initialized"
      fields :=
        [("issuer", .string settings.name),
          ("request_transactions", .bool service.database.hasTransactions),
          ("rate_limit", .bool settings.rate.enabled)] }
  return service

/-- What keeps the service from listening on an address. -/
def bindProblem? (surroundings : Surroundings) (address : SocketAddress) : Option BindProblem :=
  if surroundings.taken.contains address then some .inUse
  else if address.isLocal then none
  else some .notLocal

/-- Takes the address. -/
def listen (surroundings : Surroundings) (address : SocketAddress) : LaunchStep Unit := do
  match bindProblem? surroundings address with
  | some cause => throw (.bind address cause)
  | none =>
    note { target := "msgsrv::worker", message := "Background worker started" }
    note { target := "msgsrv", message := "API server listening on http://" ++ address.text }
    note
      { target := "msgsrv"
        message := "WebSocket endpoint: ws://" ++ address.text ++ "/ws" }
    modify fun launch ↦ { launch with started := true }

/-- Starts the service. -/
def start (surroundings : Surroundings) (options : LaunchOptions) :
    LaunchStep (Service LivenessCache) := do
  let settings ← readSettings surroundings options
  openLog surroundings settings options.plain
  let tables ← openDatabase surroundings settings
  findCache surroundings settings
  let text := options.bindAddress.getD settings.bindAddress
  match SocketAddress.ofText? text with
  | none => throw (.malformedAddress text)
  | some address =>
    let service ← assemble surroundings settings tables
    listen surroundings address
    return service

/-- Stops the service. -/
def stop (service : Service LivenessCache) : LaunchStep Unit := do
  note { target := "common::shutdown", message := "Shutdown signal received" }
  note
    { target := "msgsrv", message := "WebSocket sessions closed"
      fields := [("sessions", .ofNat service.broker.registry.size)] }
  note { target := "msgsrv::worker", message := "Background worker stopped" }
  note { target := "msgsrv", message := "msgsrv stopped" }

end Launch

/-- What can be seen of a command that was performed. -/
structure LaunchOutcome where
  exitCode : Nat := 0
  /-- The service did listen. -/
  started : Bool := false
  errorText : String := ""
  /-- The lines on the console. -/
  console : List Json := []

/-- Performs what a command line asks for. -/
def Invocation.perform (surroundings : Surroundings) (words : List String) (storage : Storage) :
    LaunchOutcome × Storage :=
  match Invocation.read surroundings.environment words with
  | .error problem =>
    ({ exitCode := 2, errorText := "error: " ++ problem.message ++ "\n" }, storage)
  | .ok .help => ({ console := (helpLines surroundings.environment).map .string }, storage)
  | .ok .version => ({ console := [.string versionText] }, storage)
  | .ok (.run options) =>
    let (result, launch) :=
      (do Launch.stop (← Launch.start surroundings options) : LaunchStep Unit).run.run { storage }
    let failure := match result with
      | .ok _ => none
      | .error problem => some problem
    ({ exitCode := failure.elim 0 fun _ ↦ 1
       started := launch.started
       errorText := failure.elim "" StartProblem.text
       console := launch.log.elim [] LogOutput.console }, launch.storage)

end StompBroker
