import StompBroker.Failure
import StompBroker.Http.Request
import StompBroker.Json.Reader
import StompBroker.Json.Writer
import StompBroker.Text.Fitting

/-!
# The log of requests

Every request is logged with its status once it is answered: one that may change something for
everybody who operates the service, and all of them, with JSON bodies, for those who look closer.

Of a body nothing secret is logged. `redact` replaces every member whose name sounds secret, at any
depth, and `logged` cuts what is left to a size; a body that is not JSON is logged as it is.
-/

set_option autoImplicit false

namespace StompBroker

/-- One event of a log. -/
structure LogEvent where
  level : Level
  message : String
  fields : List (String × String) := []
  deriving DecidableEq, Repr

namespace RequestLog

/-- The words that make the name of a member sound secret. -/
def secretWords : List String := ["password", "token", "api_key", "secret", "authorization"]

/-- A character in lower case, as far as letters of ASCII come of it: the sign for kelvin becomes
one, and so does the capital i with a dot, followed by the dot. -/
def lowerChar (c : Char) : List Char :=
  if c = '\u212a' then ['k'] else if c = '\u0130' then ['i', '\u0307'] else [c.toLower]

/-- The name of a member sounds secret. -/
def isSecret (name : String) : Bool :=
  let lowered := name.toList.flatMap lowerChar
  secretWords.any fun word ↦ Text.occurs word.toList lowered

/-- What stands for a secret. -/
def concealed : Json := .string "***REDACTED***"

mutual

/-- A document without its secrets. -/
def redact : Json → Json
  | .array elements => .array (redactElements elements)
  | .object members => .object (redactMembers members)
  | .null => .null
  | .bool value => .bool value
  | .number value => .number value
  | .string value => .string value

/-- The elements without their secrets. -/
def redactElements : List Json → List Json
  | [] => []
  | element :: rest => redact element :: redactElements rest

/-- The members without their secrets. -/
def redactMembers : List (String × Json) → List (String × Json)
  | [] => []
  | (name, value) :: rest =>
    (name, if isSecret name then concealed else redact value) :: redactMembers rest

end

/-- A body without its secrets. -/
def redactText (body : String) : String :=
  match Json.ofText? body with
  | some document => (redact document).text
  | none => body

/-- How many octets of a body are logged. -/
def bodyLimit : Nat := 500

/-- What is logged of a body. -/
def logged (body : Bytes) : String :=
  match Utf8.decode? body with
  | some text => Text.shortened bodyLimit (redactText text)
  | none => "<binary data>"

/-- A request with this method may change something. -/
def isModifying (method : String) : Bool := ["POST", "PUT", "PATCH", "DELETE"].contains method

/-- The body of a request is logged at this level. -/
def readsBody (level : Level) (request : Request) : Bool :=
  Level.debug.verbosity ≤ level.verbosity && isModifying request.method &&
    Text.contains "application/json" ((request.headerText? "content-type").getD "")

/-- The events about an answered request that are logged at a level. -/
def events (level : Level) (request : Request) (status : Nat) : List LogEvent :=
  let fields := [("method", request.method), ("path", request.path), ("status", toString status)]
  let brief := if isModifying request.method then [LogEvent.mk .info "HTTP request" fields] else []
  let detailed :=
    if readsBody level request then
      [LogEvent.mk .debug "HTTP request (detailed)"
        (fields ++ [("request_body", logged request.body)])]
    else if isModifying request.method then []
    else [LogEvent.mk .debug "HTTP request" fields]
  (brief ++ detailed).filter fun event ↦ event.level.verbosity ≤ level.verbosity

end RequestLog

end StompBroker
