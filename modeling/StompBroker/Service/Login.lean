import StompBroker.Service.Handler

/-!
# Logging in and out

A login is granted to a user of the table whose password verifies and whose account is enabled, and
its answer holds a new token. Whether the name or the password was wrong is not told. A logout ends
all tokens of the user at once.
-/

set_option autoImplicit false

namespace StompBroker

namespace Login

/-- What the body of a login must hold. -/
def shape : Json.Shape :=
  .record [("username", .required, .text), ("password", .required, .text)]

/-- The user that a token is for. -/
def principal (id : Int) (username : String) : Principal := ⟨id.toNat, username⟩

/-- The answer to a login that is granted. -/
def granted (token : String) (lifetime : Nat) : Envelope :=
  .ok (.object [("accessToken", .string token), ("tokenType", .string "Bearer"),
    ("expiresIn", .ofNat lifetime)])

/-- Whether the user may log in with the password. -/
def check (password : String) (user : User) : Except Failure Unit := do
  if !(← verifyPassword user.password password) then throw .badCredentials
  if user.status ≠ User.enabled then throw (.unauthorized "Account disabled")

variable {σ : Type} [LivenessStore σ]

/-- Grants a login. -/
def grant (id : Int) (username : String) (service : Service σ) :
    Except Failure Envelope × Service σ :=
  let (result, cache) :=
    service.auth.issue service.clock (principal id username) service.cache
  (result.map (granted · service.auth.ttlSeconds), { service with cache := cache })

/-- Answers a login with a name and a password. -/
def logIn (context : Context) (username password : String) (service : Service σ) :
    Except Failure Envelope × Service σ :=
  if username.isEmpty || password.isEmpty then (.error .badCredentials, service)
  else
    match context.execute (Tables.findUser username) service with
    | (.error failure, service) => (.error failure, service)
    | (.ok none, service) => (.error .badCredentials, service)
    | (.ok (some (id, user)), service) =>
      match check password user with
      | .error failure => (.error failure, service)
      | .ok () => grant id username service

/-- The endpoint for logins. -/
def endpoint : Handler σ :=
  .reading shape fun context body service ↦
    logIn context (Text.trim (body.textOf "username")) (body.textOf "password") service

/-- Answers a logout of a user. -/
def logOut (principal : Principal) (service : Service σ) : Except Failure Envelope × Service σ :=
  let (result, cache) := service.auth.revoke service.clock principal.username service.cache
  (result.map fun _ ↦ .empty, { service with cache := cache })

/-- The endpoint for logouts. -/
def endpointOut : Handler σ := fun context _ service ↦
  Handler.reply (Handler.known logOut context service)

end Login

end StompBroker
