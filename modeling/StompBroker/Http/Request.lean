import StompBroker.Http.Address
import StompBroker.Text.Blank
import StompBroker.Text.Utf8

/-!
# Requests

A `Request` is what a client asks for over HTTP. The names of headers are compared without regard to
case. Of a header that occurs several times the first value counts, and a value counts as text only
if it is printable ASCII.
-/

set_option autoImplicit false

namespace StompBroker

/-- What a client asks for. -/
structure Request where
  method : String := "GET"
  path : String := "/"
  /-- What follows the question mark of the target. -/
  query : Option String := none
  headers : List (String × Bytes) := []
  body : Bytes := []
  peer : Option Address := none
  deriving DecidableEq, Repr

namespace Request

/-- A letter of ASCII in lower case. -/
def lower (text : String) : String := String.ofList (text.toList.map Char.toLower)

/-- A target as the path of a request and what follows the question mark. -/
def splitTarget (target : String) : String × Option String :=
  match Text.splitOnce? '?' target with
  | some (path, query) => (path, some query)
  | none => (target, none)

/-- The first value of a header. -/
def header? (request : Request) (name : String) : Option Bytes :=
  (request.headers.find? fun header ↦ lower header.1 == lower name).map (·.2)

/-- An octet that the text of a header may contain. -/
def isPrintable (octet : UInt8) : Bool := octet = 0x09 ∨ (0x20 ≤ octet ∧ octet < 0x7F)

/-- The first value of a header, if it is text. -/
def headerText? (request : Request) (name : String) : Option String :=
  (request.header? name).bind fun value ↦
    if value.all isPrintable then Utf8.decode? value else none

/-- The value without blanks at its ends, if anything is left. -/
def trimmed? (value : String) : Option String :=
  let value := Text.trim value
  if value.isEmpty then none else some value

/-- The token that a request shows. -/
def bearerToken? (request : Request) : Option String :=
  ((request.headerText? "authorization").bind (Text.stripStart? "Bearer ")).bind trimmed?

/-- The name of a client whose address is not known. -/
def unknownClient : String := "unknown"

/-- Who makes a request: its peer, or the client that a proxy names. -/
def client (request : Request) : String :=
  match request.peer with
  | some address => address.text
  | none =>
    let forwarded := (request.headerText? "x-forwarded-for").bind fun value ↦
      ((Text.split ',' value).head?).bind trimmed?
    let real := (request.headerText? "x-real-ip").bind trimmed?
    (forwarded.or real).getD unknownClient

end Request

end StompBroker
