import StompBroker.Http.Envelope

/-!
# Responses

A `Response` has a status and some content: an envelope for whatever the endpoints answer, a text
where a request cannot be read, and nothing where there is no endpoint.
-/

set_option autoImplicit false

namespace StompBroker

/-- What a response carries. -/
inductive Content where
  | empty
  | document (body : Json)
  | text (body : String)
  deriving Repr

/-- The answer to a request. -/
structure Response where
  status : Nat
  content : Content := .empty
  deriving Repr

namespace Response

/-- The answer to a request that succeeded. -/
def ok (envelope : Envelope) : Response := ⟨200, .document envelope.toJson⟩

/-- The answer to a request that is refused. -/
def refuse (refusal : Refusal) : Response := ⟨refusal.status, .document refusal.toEnvelope.toJson⟩

/-- The answer to a request that failed. -/
def fail (failure : Failure) : Response := refuse (.ofFailure failure)

/-- The answer that an endpoint comes to. -/
def ofOutcome : Except Failure Envelope → Response
  | .ok envelope => ok envelope
  | .error failure => fail failure

/-- The answer without its content. -/
def withoutContent (response : Response) : Response := { response with content := .empty }

/-- The status of the least failure. -/
def leastFailure : Nat := 400

/-- The request failed. -/
def isFailure (response : Response) : Bool := leastFailure ≤ response.status

end Response

end StompBroker
