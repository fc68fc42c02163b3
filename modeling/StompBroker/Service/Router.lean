import StompBroker.Http.Upgrade
import StompBroker.Service.Gate
import StompBroker.Service.Login
import StompBroker.Service.Messaging
import StompBroker.Service.Notices

/-!
# Endpoints by path and method

An `Endpoint` answers the requests for one path that use one method, or any method. `dispatch`
chooses among endpoints: a path without endpoints is not found, and a method without one is not
allowed. A request for the head of a response is answered like one for the response, without
content.

`Service.answer` is the whole service as HTTP clients see it: preflight requests are answered by
themselves, the endpoint for sessions stands in front of the layers, and everything else is behind
them.
-/

set_option autoImplicit false

namespace StompBroker

/-- Answers the requests for a path. -/
structure Endpoint (σ : Type) where
  path : String
  /-- The method, unless all are meant. -/
  method : Option String := none
  handler : Handler σ

namespace Endpoint

variable {σ : Type}

/-- The endpoint takes requests with this method. -/
def takes (method : String) (endpoint : Endpoint σ) : Bool :=
  match endpoint.method with
  | none => true
  | some own => own == method || (own == "GET" && method == "HEAD")

/-- Chooses the endpoint for a request. -/
def dispatch (endpoints : List (Endpoint σ)) : Handler σ := fun context request service ↦
  match endpoints.filter fun endpoint ↦ endpoint.path == request.path with
  | [] => (.response ⟨404, .empty⟩, service)
  | found =>
    match found.find? (takes request.method) with
    | none => (.response ⟨405, .empty⟩, service)
    | some endpoint => endpoint.handler context request service

variable [LivenessStore σ]

/-- The endpoints of the service. -/
def all : List (Endpoint σ) :=
  [{ path := "/health", method := some "GET", handler := Messaging.health },
    { path := "/api/v1/auth/login", method := some "POST", handler := Login.endpoint },
    { path := "/api/v1/auth/logout", method := some "DELETE", handler := Login.endpointOut },
    { path := "/api/v1/websocket/sendToAll", method := some "POST", handler := Messaging.toAll },
    { path := "/api/v1/websocket/sendToUser", method := some "POST", handler := Messaging.toUser },
    { path := "/api/v1/websocket/online-users", method := some "GET", handler := Messaging.online },
    { path := "/api/v1/websocket/online-count", method := some "GET", handler := Messaging.count },
    { path := "/api/v1/websocket/dict-change", method := some "POST"
      handler := Messaging.dictionary },
    { path := "/api/v1/notices", method := some "GET", handler := Notice.endpointList },
    { path := "/api/v1/notices", method := some "POST", handler := Notice.endpointNew }]

end Endpoint

namespace Service

variable {σ : Type} [LivenessStore σ]

/-- The response as it is sent: without content where only its head was asked for. -/
def trimmed (request : Request) (response : Response) : Response :=
  if request.method == "HEAD" then response.withoutContent else response

/-- Answers a request by endpoints behind the layers. -/
def answerGuarded (endpoints : List (Endpoint σ)) (request : Request) (service : Service σ) :
    Option Response × Service σ :=
  let (response, service) := Gate.guarded (Endpoint.dispatch endpoints) request service
  (response.map (trimmed request), service)

/-- Answers a request for a session over a connection that carries only this request. -/
def answerUpgrade (request : Request) : Response :=
  if request.method == "GET" then
    match Upgrade.read request with
    | .error problem => ⟨problem.status, .text problem.message⟩
    | .ok _ => ⟨426, .text "This connection cannot be upgraded"⟩
  else ⟨405, .empty⟩

/-- Answers a request, unless it breaks off. -/
def answer (request : Request) (service : Service σ) : Option Response × Service σ :=
  if request.method == "OPTIONS" then (some ⟨200, .empty⟩, service)
  else if request.path == Gate.socketPath then (some (answerUpgrade request), service)
  else answerGuarded Endpoint.all request service

end Service

end StompBroker
