import StompBroker.Http.Body

/-!
# Upgrades to WebSocket

A connection becomes a WebSocket if the request asks for it with the right headers. The server
chooses the protocol: the first of its own that the client offers.
-/

set_option autoImplicit false

namespace StompBroker

/-- What is missing in a request that asks for an upgrade. -/
inductive UpgradeProblem where
  | noConnection
  | noUpgrade
  | noKey
  | otherVersion
  deriving DecidableEq, Repr

namespace UpgradeProblem

/-- The status of the refusal. -/
def status (_ : UpgradeProblem) : Nat := 400

/-- The wording of the refusal. -/
def message : UpgradeProblem → String
  | noConnection => "The connection header does not ask for an upgrade"
  | noUpgrade => "The upgrade header does not name WebSocket"
  | noKey => "The key header is missing"
  | otherVersion => "The version header does not name version 13"

end UpgradeProblem

/-- A session that a request asks for. -/
structure Upgrade where
  /-- The protocol that was agreed on. -/
  protocol : Option String
  deriving DecidableEq, Repr

namespace Upgrade

/-- The protocols of the server, the best first. -/
def protocols : List String := ["v12.stomp", "v11.stomp", "v10.stomp"]

/-- The best protocol among those that a header offers. -/
def choose (offered : Option String) : Option String :=
  let names := (offered.map fun value ↦ (Text.split ',' value).map Text.trim).getD []
  protocols.find? names.contains

/-- The first value of a header in lower case, if it is text of any kind. -/
def value? (request : Request) (name : String) : Option String :=
  ((request.header? name).bind Utf8.decode?).map Request.lower

/-- The session that a request asks for. -/
def read (request : Request) : Except UpgradeProblem Upgrade :=
  if !((value? request "connection").elim false (Text.contains "upgrade")) then
    .error .noConnection
  else if value? request "upgrade" != some "websocket" then .error .noUpgrade
  else if (request.header? "sec-websocket-key").isNone then .error .noKey
  else if value? request "sec-websocket-version" != some "13" then .error .otherVersion
  else .ok ⟨choose (request.headerText? "sec-websocket-protocol")⟩

end Upgrade

end StompBroker
