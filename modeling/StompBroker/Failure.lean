import StompBroker.Text.Decimal

/-!
# Failures

One type names every cause for which the service refuses something. `Failure.message` words it for
people, `Failure.status` is the answer over HTTP, `Failure.code` is a stable identifier for
monitoring, and `Failure.category` decides how loudly it is logged. `Failure.envelopeCode` is the
code that a response carries; clients tell from it whether to ask for a new token.
-/

set_option autoImplicit false

namespace StompBroker

/-- Why a token is refused. -/
inductive TokenError where
  /-- The signature or the issuer is wrong, or the token was revoked. -/
  | invalid
  | malformed
  | expired
  | notYetValid
  deriving DecidableEq, Repr

namespace TokenError

/-- The wording of the reason. -/
def message : TokenError → String
  | invalid => "invalid"
  | malformed => "malformed"
  | expired => "expired"
  | notYetValid => "not-yet-valid"

end TokenError

/-- Why the service refuses something. -/
inductive Failure where
  | configuration (reason : String)
  | invalidSetting (field reason : String)
  | token (cause : TokenError)
  | unauthorized (reason : String)
  | badCredentials
  | forbidden (reason : String)
  | tooManyRequests
  | protocol (detail : String)
  | unknownAppDestination (destination : String)
  | sessionNotFound (session : String)
  | deliveryFailed (reason : String)
  | database (reason : String)
  | query (reason : String)
  | remoteCache (reason : String)
  | commitFailed (reason : String)
  | badRequest (reason : String)
  | validation (reason : String)
  | notFound (resource : String)
  | io (reason : String)
  | serialization (reason : String)
  | serviceUnavailable (reason : String)
  | panic (payload : String)
  | internal (reason : String)
  | other (reason : String)
  deriving DecidableEq, Repr

/-- What a failure concerns. -/
inductive Category where
  | configuration
  | database
  | network
  | validation
  | notFound
  | permission
  | resourceExhausted
  | protocol
  | connection
  | internal
  | unknown
  deriving DecidableEq, Repr

/-- How important a log event is, the most important first. -/
inductive Level where
  | error
  | warn
  | info
  | debug
  | trace
  deriving DecidableEq, Repr

namespace Level

/-- The name of a level. -/
def text : Level → String
  | error => "ERROR"
  | warn => "WARN"
  | info => "INFO"
  | debug => "DEBUG"
  | trace => "TRACE"

/-- All levels, the most important first. -/
def all : List Level := [error, warn, info, debug, trace]

/-- The level of that name. -/
def ofText? (name : String) : Option Level := all.find? fun level ↦ level.text == name

/-- How much is logged at a level. -/
def verbosity : Level → Nat
  | error => 1
  | warn => 2
  | info => 3
  | debug => 4
  | trace => 5

end Level

namespace Category

/-- The level that failures of a category are logged at. -/
def level : Category → Level
  | internal | database | unknown => .error
  | network | connection | protocol => .warn
  | validation | notFound => .info
  | configuration | permission | resourceExhausted => .warn

/-- The name of a category. -/
def name : Category → String
  | configuration => "Configuration"
  | database => "Database"
  | network => "Network"
  | validation => "Validation"
  | notFound => "NotFound"
  | permission => "Permission"
  | resourceExhausted => "ResourceExhausted"
  | protocol => "Protocol"
  | connection => "Connection"
  | internal => "Internal"
  | unknown => "Unknown"

end Category

namespace Failure

/-- A text that should have been an integer. -/
def ofInteger (cause : Text.IntegerError) : Failure :=
  .validation ("Invalid integer: " ++ cause.message)

/-- The wording of a failure. -/
def message : Failure → String
  | configuration reason => "Configuration error: " ++ reason
  | invalidSetting field reason => "Invalid configuration: " ++ field ++ ": " ++ reason
  | token cause => "Token " ++ cause.message
  | unauthorized reason => "Unauthorized: " ++ reason
  | badCredentials => "Invalid username or password"
  | forbidden reason => "Forbidden: " ++ reason
  | tooManyRequests => "Too many requests"
  | protocol detail => "STOMP protocol error: " ++ detail
  | unknownAppDestination destination => "Unknown app destination: " ++ destination
  | sessionNotFound session => "Session not found: " ++ session
  | deliveryFailed reason => "Delivery failed: " ++ reason
  | database reason => "Database error: " ++ reason
  | query reason => "SQLite error: " ++ reason
  | remoteCache reason => "Redis error: " ++ reason
  | commitFailed reason => "Transaction commit failed: " ++ reason
  | badRequest reason => "Bad request: " ++ reason
  | validation reason => "Validation failed: " ++ reason
  | notFound resource => "Not found: " ++ resource
  | io reason => "IO error: " ++ reason
  | serialization reason => "Serialization error: " ++ reason
  | serviceUnavailable reason => "Service unavailable: " ++ reason
  | panic payload => "Request handler panicked: " ++ payload
  | internal reason => "Internal error: " ++ reason
  | other reason => reason

/-- The status that answers a request. -/
def status : Failure → Nat
  | badRequest _ | validation _ | protocol _ => 400
  | token _ | unauthorized _ | badCredentials => 401
  | forbidden _ => 403
  | notFound _ | sessionNotFound _ | unknownAppDestination _ => 404
  | tooManyRequests => 429
  | serviceUnavailable _ | remoteCache _ => 503
  | configuration _ | invalidSetting _ _ | deliveryFailed _ | database _ | query _
  | commitFailed _ | io _ | serialization _ | panic _ | internal _ | other _ => 500

/-- The code that a response carries. -/
def envelopeCode : Failure → String
  | token _ => "A0230"
  | badCredentials => "A0210"
  | failure => if 500 ≤ failure.status then "B0001" else "A"

/-- The same request may succeed later. -/
def isRetryable : Failure → Bool
  | serviceUnavailable _ | remoteCache _ | tooManyRequests => true
  | _ => false

/-- Who asks is not known. -/
def isAuthenticationFailure : Failure → Bool
  | token _ | unauthorized _ | badCredentials => true
  | _ => false

/-- The stable identifier of a failure. -/
def code : Failure → String
  | configuration _ => "CONFIGURATION_ERROR"
  | invalidSetting _ _ => "INVALID_CONFIG"
  | token .invalid => "AUTH_TOKEN_INVALID"
  | token .malformed => "AUTH_TOKEN_MALFORMED"
  | token .expired => "AUTH_TOKEN_EXPIRED"
  | token .notYetValid => "AUTH_TOKEN_NOT_YET_VALID"
  | unauthorized _ => "UNAUTHORIZED"
  | badCredentials => "BAD_CREDENTIALS"
  | forbidden _ => "AUTH_FORBIDDEN"
  | tooManyRequests => "RATELIMIT_EXCEEDED"
  | protocol _ => "STOMP_PROTOCOL"
  | unknownAppDestination _ => "BROKER_UNKNOWN_APP_DESTINATION"
  | sessionNotFound _ => "BROKER_SESSION_NOT_FOUND"
  | deliveryFailed _ => "BROKER_DELIVERY_FAILED"
  | database _ => "DATABASE_ERROR"
  | query _ => "SQLITE_ERROR"
  | remoteCache _ => "REDIS_ERROR"
  | commitFailed _ => "DB_COMMIT_FAILURE"
  | badRequest _ => "BAD_REQUEST"
  | validation _ => "VALIDATION_ERROR"
  | notFound _ => "NOT_FOUND"
  | io _ => "IO_ERROR"
  | serialization _ => "SERIALIZATION_ERROR"
  | serviceUnavailable _ => "SERVICE_UNAVAILABLE"
  | panic _ => "PANIC"
  | internal _ => "INTERNAL_ERROR"
  | other _ => "OTHER_ERROR"

/-- The name of the kind of failure. -/
def name : Failure → String
  | configuration _ => "Configuration"
  | invalidSetting _ _ => "InvalidConfig"
  | token .invalid => "Token.Invalid"
  | token .malformed => "Token.Malformed"
  | token .expired => "Token.Expired"
  | token .notYetValid => "Token.NotYetValid"
  | unauthorized _ => "Unauthorized"
  | badCredentials => "BadCredentials"
  | forbidden _ => "Forbidden"
  | tooManyRequests => "RateLimitExceeded"
  | protocol _ => "StompProtocol"
  | unknownAppDestination _ => "UnknownAppDestination"
  | sessionNotFound _ => "SessionNotFound"
  | deliveryFailed _ => "DeliveryFailed"
  | database _ => "Database"
  | query _ => "Sqlite"
  | remoteCache _ => "Redis"
  | commitFailed _ => "CommitFailed"
  | badRequest _ => "BadRequest"
  | validation _ => "Validation"
  | notFound _ => "NotFound"
  | io _ => "Io"
  | serialization _ => "Serialization"
  | serviceUnavailable _ => "ServiceUnavailable"
  | panic _ => "Panic"
  | internal _ => "Internal"
  | other _ => "Other"

/-- A failure of every kind, about a field and for a reason where there is room for them. -/
def examples (field reason : String) : List Failure :=
  [configuration reason, invalidSetting field reason, token .invalid, token .malformed,
    token .expired, token .notYetValid, unauthorized reason, badCredentials, forbidden reason,
    tooManyRequests, protocol reason, unknownAppDestination reason, sessionNotFound reason,
    deliveryFailed reason, database reason, query reason, remoteCache reason, commitFailed reason,
    badRequest reason, validation reason, notFound reason, io reason, serialization reason,
    serviceUnavailable reason, panic reason, internal reason, other reason]

/-- The failure of the kind of that name. -/
def ofName? (name field reason : String) : Option Failure :=
  (examples field reason).find? fun failure ↦ failure.name == name

/-- What a failure concerns. -/
def category : Failure → Category
  | configuration _ | invalidSetting _ _ => .configuration
  | token _ | unauthorized _ | badCredentials | forbidden _ => .permission
  | tooManyRequests => .resourceExhausted
  | protocol _ | unknownAppDestination _ => .protocol
  | sessionNotFound _ | deliveryFailed _ => .connection
  | database _ | query _ | commitFailed _ => .database
  | remoteCache _ | serviceUnavailable _ => .network
  | badRequest _ | validation _ => .validation
  | notFound _ => .notFound
  | io _ | serialization _ | panic _ | internal _ => .internal
  | other _ => .unknown

/-- The level that a failure is logged at. -/
def level (failure : Failure) : Level := failure.category.level

end Failure

end StompBroker
