import StompBroker.Http.Request
import StompBroker.Settings.Basic

/-!
# Who may ask for what

Paths under `/api/v1/` need a token, except for those of the login and those that are declared open.
An access rule restricts the paths that start in a certain way to some users: `isAllowed` asks every
rule that is about the request.
-/

set_option autoImplicit false

namespace StompBroker

namespace AccessSettings

/-- Where the paths that need a token start. -/
def guardedStart : String := "/api/v1/"

/-- Where the paths of the login start. -/
def loginStarts : List String := ["/api/v1/auth/login", "/api/v1/auth/captcha"]

/-- A request for the path needs a token. -/
def requiresToken (settings : AccessSettings) (path : String) : Bool :=
  Text.startsWith guardedStart path &&
    !(loginStarts.any fun start ↦ Text.startsWith start path) &&
    !(settings.openStarts.any fun start ↦ !start.isEmpty && Text.startsWith start path)

end AccessSettings

/-- The rule is about the method and the path. -/
def AccessRule.concerns (rule : AccessRule) (method path : String) : Bool :=
  Text.startsWith rule.pathStart path &&
    (rule.methods.isEmpty ||
      rule.methods.any fun listed ↦ Request.lower listed == Request.lower method)

/-- Every rule about the request lists the user. -/
def AccessSettings.isAllowed (settings : AccessSettings) (method path username : String) : Bool :=
  (settings.rules.filter fun rule ↦ rule.concerns method path).all fun rule ↦
    rule.users.contains username

end StompBroker
