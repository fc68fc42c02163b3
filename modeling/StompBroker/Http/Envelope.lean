import StompBroker.Failure
import StompBroker.Http.Paging

/-!
# The envelope of responses

Every response over HTTP is one document: a code, the data and the page if there are any, and a
message. An `Envelope` without data leaves the member out, and one whose data is null writes it.

A `Refusal` is the answer to a request that failed. `Refusal.ofFailure` keeps what went wrong inside
the service to itself: whatever is the service's own fault is answered with the same words.
-/

set_option autoImplicit false

namespace StompBroker

/-- A response. -/
structure Envelope where
  code : String
  data : Option Json := none
  page : Option PageInfo := none
  message : String
  deriving Repr

namespace Envelope

/-- The code of a response to a request that succeeded. -/
def successCode : String := "00000"

/-- The code of a request that is wrong. -/
def clientErrorCode : String := "A"

/-- The code of a service that is at fault. -/
def serverErrorCode : String := "B0001"

/-- A response without data. -/
def empty : Envelope := { code := successCode, message := "Success" }

/-- A response with data. -/
def ok (data : Json) : Envelope := { empty with data := some data }

/-- A response with one page of a listing. -/
def okPage (data : Json) (page : PageInfo) : Envelope := { ok data with page := some page }

/-- The response to a request that failed. -/
def error (code message : String) : Envelope := { code, message }

/-- The request succeeded. -/
def isSuccess (envelope : Envelope) : Bool := envelope.code == successCode

/-- A member that is left out when there is nothing in it. -/
def member (name : String) : Option Json → List (String × Json)
  | none => []
  | some value => [(name, value)]

/-- The response as a document. -/
def toJson (envelope : Envelope) : Json :=
  .object ([("code", .string envelope.code)] ++ member "data" envelope.data ++
    member "page" (envelope.page.map PageInfo.toJson) ++ [("message", .string envelope.message)])

/-- What a document with a response must hold. -/
def shape : Json.Shape :=
  .record
    [("code", .required, .text), ("data", .defaulted, .optional .any),
      ("page", .defaulted, .optional PageInfo.shape), ("message", .required, .text)]

/-- A value that is there and not null. -/
def present? : Option Json → Option Json
  | some .null => none
  | value => value

/-- The response that a text spells. -/
def read? (text : Bytes) : Option Envelope := do
  let document ← (shape.read text).toOption
  return {
    code := ← (← document.member? "code").string?
    data := present? (document.member? "data")
    page := (document.member? "page").bind PageInfo.ofJson?
    message := ← (← document.member? "message").string? }

end Envelope

/-- The answer to a request that failed. -/
structure Refusal where
  status : Nat
  code : String
  message : String
  deriving DecidableEq, Repr

namespace Refusal

/-- The request is wrong. -/
def badRequest (message : String) : Refusal := ⟨400, Envelope.clientErrorCode, message⟩

/-- The service is at fault. -/
def serverFault (message : String) : Refusal := ⟨500, Envelope.serverErrorCode, message⟩

/-- All that a client learns of a fault of the service. -/
def concealed : String := "Internal server error"

/-- The answer to a failure. -/
def ofFailure (failure : Failure) : Refusal :=
  { status := failure.status, code := failure.envelopeCode
    message := if 500 ≤ failure.status then concealed else failure.message }

/-- The answer as a response. -/
def toEnvelope (refusal : Refusal) : Envelope := .error refusal.code refusal.message

end Refusal

end StompBroker
