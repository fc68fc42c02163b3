import StompBroker.Json.Reader
import StompBroker.Json.Writer

/-!
# Message bodies as JSON

What application endpoints pass on is always JSON: `payload` leaves a body that is a document as it
is, octet for octet, and turns every other body into a string, with replacement characters for what
is not well-formed text.
-/

set_option autoImplicit false

namespace StompBroker.Json

/-- The octets are a document. -/
def accepts (body : Bytes) : Bool := (readFault body).toBool

/-- The body itself if it is a document, and otherwise its text as a string. -/
def payload (body : Bytes) : Bytes :=
  if accepts body then body else quote (Utf8.decodeLossy body)

end StompBroker.Json
