import StompBroker.Json.Value
import StompBroker.Number.Bounds
import StompBroker.Settings.Basic

/-!
# Settings as a tree

Settings are written as a tree of named sections. `Settings.toTree` writes all of them out and
`Settings.ofTree?` reads them; what is missing keeps its preset value, what has no meaning is passed
over, and a value of the wrong kind spoils the whole. A section may also be a list of its values in
order. `overlay` puts one tree over another: sections merge, and everything else is replaced.
-/

set_option autoImplicit false

namespace StompBroker

namespace Settings

mutual

/-- The second tree over the first. -/
def overlay : Json → Json → Json
  | .object lower, .object upper => .object (overlayMembers lower upper)
  | _, upper => upper

/-- The second members over the first. -/
def overlayMembers (lower : List (String × Json)) :
    List (String × Json) → List (String × Json)
  | [] => lower
  | (name, value) :: rest =>
    let merged :=
      match lower.lookup name with
      | some kept => overlay kept value
      | none => value
    overlayMembers (Json.insertMember name merged lower) rest

end

/-- The values of a section by name; a list gives them in order. -/
def section? (names : List String) : Json → Option (List (String × Json))
  | .object members => some members
  | .array values => if values.length ≤ names.length then some (names.zip values) else none
  | _ => none

/-- The value of a name, or the preset one without it. -/
def valueOr {α : Type} (members : List (String × Json)) (name : String) (preset : α)
    (read : Json → Option α) : Option α :=
  match members.lookup name with
  | none => some preset
  | some value => read value

/-- A natural number of at most `greatest`. -/
def readNat (greatest : Nat) (value : Json) : Option Nat := value.nat?.filter (· ≤ greatest)

/-- A number with or without a fraction. -/
def readReal : Json → Option Float
  | .number (.real value) => some value
  | .number (.natural value) => if value ≤ maxUnsigned64 then some (Float.ofNat value) else none
  | .number (.negative magnitude) =>
    if magnitude ≤ maxSigned64 + 1 then some (-(Float.ofNat magnitude)) else none
  | _ => none

/-- A value that may be left open by null. -/
def readOptional {α : Type} (read : Json → Option α) : Json → Option (Option α)
  | .null => some none
  | value => (read value).map some

/-- A list of values of one kind. -/
def readList {α : Type} (read : Json → Option α) : Json → Option (List α)
  | .array values => values.mapM read
  | _ => none

/-- A list of texts. -/
def readTexts : Json → Option (List String) := readList Json.string?

/-- The section on the address. -/
def readServer (tree : Json) : Option ServerSettings := do
  let members ← section? ["Host", "Port"] tree
  return {
    host := ← valueOr members "Host" ({} : ServerSettings).host Json.string?
    port := ← valueOr members "Port" ({} : ServerSettings).port (readNat maxUnsigned16) }

/-- The section on tokens. -/
def readToken (tree : Json) : Option TokenSettings := do
  let members ← section? ["TokenExpired", "SecretKey"] tree
  return {
    lifetime := ← valueOr members "TokenExpired" ({} : TokenSettings).lifetime
      (readNat maxUnsigned64)
    secret := ← valueOr members "SecretKey" none (readOptional Json.string?) }

/-- A rule on who may use a path. -/
def readRule (tree : Json) : Option AccessRule := do
  let members ← section? ["PathPrefix", "Methods", "Users"] tree
  return {
    pathStart := ← (← members.lookup "PathPrefix").string?
    methods := ← valueOr members "Methods" [] readTexts
    users := ← readTexts (← members.lookup "Users") }

/-- The section on access. -/
def readAccess (tree : Json) : Option AccessSettings := do
  let members ← section? ["IgnorePathPrefixes", "Rules"] tree
  return {
    openStarts := ← valueOr members "IgnorePathPrefixes" [] readTexts
    rules := ← valueOr members "Rules" [] (readList readRule) }

/-- The section on the database. -/
def readDatabase (tree : Json) : Option DatabaseSettings := do
  let members ← section? ["Path", "ConcurrentWriteTransactions"] tree
  return {
    path := ← valueOr members "Path" ({} : DatabaseSettings).path Json.string?
    transactions := ← valueOr members "ConcurrentWriteTransactions" none
      (readOptional Json.bool?) }

/-- The section on the cache. -/
def readCacheUrl (tree : Json) : Option (Option String) := do
  valueOr (← section? ["Url"] tree) "Url" none (readOptional Json.string?)

/-- The section on the rate limit. -/
def readRate (tree : Json) : Option RateSettings := do
  let members ← section?
    ["Enabled", "Capacity", "RefillPerSecond", "IdleSeconds", "SweepIntervalSeconds"] tree
  let preset : RateSettings := {}
  return {
    enabled := ← valueOr members "Enabled" preset.enabled Json.bool?
    capacity := ← valueOr members "Capacity" preset.capacity (readNat maxUnsigned32)
    refillPerSecond := ← valueOr members "RefillPerSecond" preset.refillPerSecond readReal
    idleSeconds := ← valueOr members "IdleSeconds" preset.idleSeconds (readNat maxUnsigned64)
    sweepSeconds := ← valueOr members "SweepIntervalSeconds" preset.sweepSeconds
      (readNat maxUnsigned64) }

/-- The section on the broker. -/
def readBroker (tree : Json) : Option BrokerSettings := do
  let members ← section? ["ConnectTimeoutSeconds", "WriteTimeoutMillis", "MaxFrameBytes"] tree
  let preset : BrokerSettings := {}
  return {
    connectSeconds := ← valueOr members "ConnectTimeoutSeconds" preset.connectSeconds
      (readNat maxUnsigned64)
    writeMillis := ← valueOr members "WriteTimeoutMillis" preset.writeMillis
      (readNat maxUnsigned64)
    maxFrameBytes := ← valueOr members "MaxFrameBytes" preset.maxFrameBytes
      (readNat maxUnsigned64) }

/-- The section on the background worker. -/
def readQueueCapacity (tree : Json) : Option Nat := do
  valueOr (← section? ["QueueCapacity"] tree) "QueueCapacity" ({} : Settings).queueCapacity
    (readNat maxUnsigned64)

/-- The section on the log. -/
def readLog (tree : Json) : Option LogSettings := do
  let members ← section? ["Level", "Dir", "Json"] tree
  return {
    level := ← valueOr members "Level" ({} : LogSettings).level Json.string?
    directory := ← valueOr members "Dir" none (readOptional Json.string?)
    json := ← valueOr members "Json" ({} : LogSettings).json Json.bool? }

/-- The sections in order. -/
def sectionNames : List String :=
  ["Name", "Server", "Auth", "Casbin", "Database", "Redis", "RateLimit", "Broker", "Worker", "Log"]

/-- The settings that a tree stands for. -/
def ofTree? (tree : Json) : Option Settings := do
  let members ← section? sectionNames tree
  return {
    name := ← valueOr members "Name" ({} : Settings).name Json.string?
    server := ← valueOr members "Server" {} readServer
    token := ← valueOr members "Auth" {} readToken
    access := ← valueOr members "Casbin" {} readAccess
    database := ← valueOr members "Database" {} readDatabase
    cacheUrl := ← valueOr members "Redis" none readCacheUrl
    rate := ← valueOr members "RateLimit" {} readRate
    broker := ← valueOr members "Broker" {} readBroker
    queueCapacity := ← valueOr members "Worker" ({} : Settings).queueCapacity readQueueCapacity
    log := ← valueOr members "Log" {} readLog }

/-- A rule as a tree. -/
def ruleTree (rule : AccessRule) : Json :=
  .ofMembers
    [("PathPrefix", .string rule.pathStart), ("Methods", .array (rule.methods.map .string)),
      ("Users", .array (rule.users.map .string))]

/-- All settings as a tree. -/
def toTree (settings : Settings) : Json :=
  .ofMembers
    [("Name", .string settings.name),
      ("Server", .ofMembers
        [("Host", .string settings.server.host), ("Port", .ofNat settings.server.port)]),
      ("Auth", .ofMembers
        [("TokenExpired", .ofNat settings.token.lifetime),
          ("SecretKey", Json.ofOption .string settings.token.secret)]),
      ("Casbin", .ofMembers
        [("IgnorePathPrefixes", .array (settings.access.openStarts.map .string)),
          ("Rules", .array (settings.access.rules.map ruleTree))]),
      ("Database", .ofMembers
        [("Path", .string settings.database.path),
          ("ConcurrentWriteTransactions", Json.ofOption .bool settings.database.transactions)]),
      ("Redis", .ofMembers [("Url", Json.ofOption .string settings.cacheUrl)]),
      ("RateLimit", .ofMembers
        [("Enabled", .bool settings.rate.enabled), ("Capacity", .ofNat settings.rate.capacity),
          ("RefillPerSecond", .number (.real settings.rate.refillPerSecond)),
          ("IdleSeconds", .ofNat settings.rate.idleSeconds),
          ("SweepIntervalSeconds", .ofNat settings.rate.sweepSeconds)]),
      ("Broker", .ofMembers
        [("ConnectTimeoutSeconds", .ofNat settings.broker.connectSeconds),
          ("WriteTimeoutMillis", .ofNat settings.broker.writeMillis),
          ("MaxFrameBytes", .ofNat settings.broker.maxFrameBytes)]),
      ("Worker", .ofMembers [("QueueCapacity", .ofNat settings.queueCapacity)]),
      ("Log", .ofMembers
        [("Level", .string settings.log.level),
          ("Dir", Json.ofOption .string settings.log.directory),
          ("Json", .bool settings.log.json)])]

end Settings

end StompBroker
