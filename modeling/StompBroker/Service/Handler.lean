import StompBroker.Http.Access
import StompBroker.Http.Body
import StompBroker.Http.Form
import StompBroker.Service.State

/-!
# Handlers

A `Handler` makes a reply of a request; it knows who asks and which transaction the request runs in.
It may break off in the middle, which the layers around it turn into a response.

`Handler.reading` makes a handler of a function on the document in the body, and `Handler.known` one
of a function on the user who asks.
-/

set_option autoImplicit false

namespace StompBroker

/-- What a handler knows about a request besides the request. -/
structure Context where
  /-- The user who asks, if that is known. -/
  principal : Option Principal := none
  /-- The transaction that the request runs in, if it runs in one. -/
  transaction : Option TransactionId := none
  deriving DecidableEq, Repr

/-- What a handler comes to. -/
inductive Reply where
  | response (response : Response)
  /-- The handler broke off. -/
  | panicked (reason : String)
  deriving Repr

/-- Answers a request. -/
abbrev Handler (σ : Type) := Context → Request → Service σ → Reply × Service σ

/-- The user who asks. -/
def Context.requirePrincipal (context : Context) : Except Failure Principal :=
  match context.principal with
  | some principal => .ok principal
  | none => .error (.unauthorized "Authentication required")

/-- The request runs in a transaction. -/
def Context.inTransaction (context : Context) : Bool := context.transaction.isSome

variable {σ : Type}

/-- Executes a statement for a request. -/
def Context.execute {α : Type} (context : Context) (statement : Statement α)
    (service : Service σ) : Except Failure α × Service σ :=
  let (result, database) := service.database.run context.transaction statement
  (result, { service with database := database })

namespace Handler

/-- The reply that an outcome comes to. -/
def reply (outcome : Except Failure Envelope × Service σ) : Reply × Service σ :=
  (.response (.ofOutcome outcome.1), outcome.2)

/-- A handler that needs the document in the body. -/
def reading (shape : Json.Shape)
    (handle : Context → Json → Service σ → Except Failure Envelope × Service σ) : Handler σ :=
  fun context request service ↦
    match request.document shape with
    | .error problem => (.response problem.response, service)
    | .ok document => reply (handle context document service)

/-- An outcome that needs to know who asks. -/
def known (handle : Principal → Service σ → Except Failure Envelope × Service σ)
    (context : Context) (service : Service σ) : Except Failure Envelope × Service σ :=
  match context.requirePrincipal with
  | .error failure => (.error failure, service)
  | .ok principal => handle principal service

end Handler

/-- A text in a document of a shape that has it. -/
def Json.textOf (document : Json) (name : String) : String :=
  ((document.member? name).bind Json.string?).getD ""

end StompBroker
