import StompBroker.Service.Handler

/-!
# The layers around the handlers

A request passes through several layers before a handler sees it, and its response passes through
the same layers on the way back. Each layer is a function of what it surrounds: `logged` writes the
log of requests, `limited` counts the requests of a client, `authenticated` finds out who asks and
whether that user may, `recorded` submits the entry about an authenticated request, and
`inTransaction` puts the handler into a transaction that is stored if and only if the request
succeeds. `guarded` is all of them. A request has no response where the limiter breaks off.
-/

set_option autoImplicit false

namespace StompBroker

namespace Gate

variable {σ : Type}

/-- Answers a request of which it is known who asks. -/
abbrev Inner (σ : Type) := Option Principal → Service σ → Response × Service σ

/-- The path of the endpoint for sessions, whose requests run in no transaction. -/
def socketPath : String := "/ws"

/-! ### Transactions -/

/-- Ends the transaction of a request without storing anything. -/
def rollback (context : Context) (service : Service σ) : Service σ :=
  match context.transaction with
  | none => service
  | some _ => { service with database := service.database.rollback }.pause

/-- Stores what a request did in its transaction. -/
def commit (context : Context) (service : Service σ) : Service σ :=
  match context.transaction with
  | none => service
  | some _ => { service with database := service.database.commit.2 }.pause

/-- The response to a reply, once the transaction of the request has ended. -/
def conclude (context : Context) (reply : Reply) (service : Service σ) : Response × Service σ :=
  match reply with
  | .panicked reason => (.fail (.panic reason), rollback context service)
  | .response response =>
    (response, if response.isFailure then rollback context service else commit context service)

/-- Runs a handler, in a transaction where the service has them. -/
def inTransaction (handler : Handler σ) (request : Request) : Inner σ := fun principal service ↦
  if request.path == socketPath || !service.database.hasTransactions then
    let context : Context := { principal }
    let (reply, service) := handler context request service
    conclude context reply service
  else
    match service.database.begin with
    | .error failure => (.fail failure, service)
    | .ok (id, database) =>
      let context : Context := { principal, transaction := some id }
      let (reply, service) := handler context request { service with database := database }
      conclude context reply service

/-! ### Who asks -/

/-- The entry about an answered request of a user. -/
def entry (request : Request) (principal : Principal) (status : Nat) (now : Int) : AccessEntry :=
  { username := some principal.username, method := request.method, path := request.path, status
    client := request.client, createTime := now }

/-- Submits an entry about every request of a known user. -/
def recorded (inner : Inner σ) (request : Request) : Inner σ := fun principal service ↦
  let (response, service) := inner principal service
  match principal with
  | none => (response, service)
  | some user =>
    let job := Job.logAccess (entry request user response.status service.clock.millis)
    (response, (service.submit job).2)

/-- Finds out who asks, and refuses those who may not. -/
def authenticated [LivenessStore σ] (inner : Inner σ) (request : Request) (service : Service σ) :
    Response × Service σ :=
  if !service.settings.access.requiresToken request.path then inner none service
  else
    match request.bearerToken? with
    | none => (.fail (.unauthorized "Missing token"), service)
    | some token =>
      match service.auth.validate service.clock token service.cache with
      | (.error failure, cache) => (.fail failure, { service with cache := cache })
      | (.ok claims, cache) =>
        let service := { service with cache := cache }
        if service.settings.access.isAllowed request.method request.path claims.username then
          inner (some claims.principal) service
        else (.fail (.forbidden request.path), service)

/-! ### How often, and the log -/

/-- Refuses the requests of a client that makes too many. Where the limiter breaks off, so does the
request, and there is no response. -/
def limited (inner : Request → Service σ → Response × Service σ) (request : Request)
    (service : Service σ) : Option Response × Service σ :=
  let (allowed, limiter) := service.limiter.allow service.clock request.client
  let service := { service with limiter := limiter }
  match allowed with
  | none => (none, service)
  | some false => (some (.fail .tooManyRequests), service)
  | some true =>
    let (response, service) := inner request service
    (some response, service)

/-- The service with the events about a request that got this response. -/
def noted (request : Request) (response : Response) (service : Service σ) : Service σ :=
  { service with
    log := service.log ++ RequestLog.events service.logLevel request response.status }

/-- Logs a request when it is answered. -/
def logged (inner : Request → Service σ → Option Response × Service σ) (request : Request)
    (service : Service σ) : Option Response × Service σ :=
  match inner request service with
  | (none, service) => (none, service)
  | (some response, service) => (some response, noted request response service)

/-- Answers a request by a handler behind all layers. -/
def guarded [LivenessStore σ] (handler : Handler σ) :
    Request → Service σ → Option Response × Service σ :=
  logged (limited fun request ↦
    authenticated (recorded (inTransaction handler request) request) request)

end Gate

end StompBroker
