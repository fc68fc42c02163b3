import StompBroker.Failure
import StompBroker.Text.Blank

/-!
# Settings

Everything about the service that can be set, section by section, with the values that hold when
nothing is set. `Settings.validate` names the first setting that cannot work: settings that pass
have a name, tokens that last, a rate limit that lets something through, a queue with room for a
job, and frames of a useful size.
-/

set_option autoImplicit false

namespace StompBroker

/-- Where the service listens. -/
structure ServerSettings where
  host : String := "0.0.0.0"
  port : Nat := 6010
  deriving Repr

/-- How tokens are issued. -/
structure TokenSettings where
  /-- How long a token lasts, in seconds. -/
  lifetime : Nat := 7200
  /-- The signing key, unless it follows from the name of the service. -/
  secret : Option String := none
  deriving Repr

/-- Who may use the paths that start in a certain way. -/
structure AccessRule where
  pathStart : String
  /-- The methods that the rule is about; none stands for all. -/
  methods : List String := []
  users : List String
  deriving DecidableEq, Repr

/-- Which paths need a token, and whose. -/
structure AccessSettings where
  /-- Paths that start with one of these need no token. -/
  openStarts : List String := []
  rules : List AccessRule := []
  deriving DecidableEq, Repr

/-- Where the service keeps its data. -/
structure DatabaseSettings where
  path : String := "data/herald.db"
  /-- Whether requests run in transactions; unless it is set, the database decides. -/
  transactions : Option Bool := none
  deriving Repr

/-- How many requests a client may make. -/
structure RateSettings where
  enabled : Bool := true
  capacity : Nat := 20
  refillPerSecond : Float := 10
  /-- A client that is idle for so many seconds is forgotten. -/
  idleSeconds : Nat := 600
  sweepSeconds : Nat := 60
  deriving Repr

/-- How long the broker waits, and how much it takes. -/
structure BrokerSettings where
  connectSeconds : Nat := 10
  writeMillis : Nat := 5000
  maxFrameBytes : Nat := 1048576
  deriving Repr

/-- What is logged, and where to. -/
structure LogSettings where
  level : String := "info"
  directory : Option String := none
  json : Bool := false
  deriving Repr

/-- All settings of the service. -/
structure Settings where
  /-- The name of the service, which is also the issuer of its tokens. -/
  name : String := "herald"
  server : ServerSettings := {}
  token : TokenSettings := {}
  access : AccessSettings := {}
  database : DatabaseSettings := {}
  /-- The server that keeps track of live tokens, if it is not the service itself. -/
  cacheUrl : Option String := none
  rate : RateSettings := {}
  broker : BrokerSettings := {}
  /-- How many background jobs may wait. -/
  queueCapacity : Nat := 1024
  log : LogSettings := {}
  deriving Repr

namespace Settings

/-- The least size of the largest frame. -/
def leastFrameBytes : Nat := 64

/-- The first setting that cannot work. -/
def problem? (settings : Settings) : Option (String × String) :=
  if Text.allBlank settings.name then some ("Name", "must not be empty")
  else if settings.token.lifetime = 0 then some ("Auth.TokenExpired", "must be positive")
  else if settings.rate.capacity = 0 then some ("RateLimit.Capacity", "must be positive")
  else if !(settings.rate.refillPerSecond.isFinite && 0 < settings.rate.refillPerSecond) then
    some ("RateLimit.RefillPerSecond", "must be positive")
  else if settings.queueCapacity = 0 then some ("Worker.QueueCapacity", "must be positive")
  else if settings.broker.maxFrameBytes < leastFrameBytes then
    some ("Broker.MaxFrameBytes", "must be at least 64")
  else none

/-- The settings can work. -/
def validate (settings : Settings) : Except Failure Unit :=
  match settings.problem? with
  | none => .ok ()
  | some (field, reason) => .error (.invalidSetting field reason)

/-- The address that the service listens on. -/
def bindAddress (settings : Settings) : String :=
  settings.server.host ++ ":" ++ toString settings.server.port

/-- How long a connection has for its handshake, in milliseconds. -/
def connectMillis (settings : Settings) : Nat := settings.broker.connectSeconds * 1000

end Settings

end StompBroker
