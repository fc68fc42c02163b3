import StompBroker.Frame.Command
import StompBroker.Frame.Version
import StompBroker.Text.Utf8

/-!
# Frames

A `Frame` is a command, headers in their order on the wire, and a body of octets. A header name may
occur several times; `Frame.header?` finds the first. The constructors of server frames fix the
order of their headers: `connected`, `message`, `receipt` and `error`.
-/

set_option autoImplicit false

namespace StompBroker

namespace Header

def acceptVersion : String := "accept-version"
def authorization : String := "Authorization"
def contentLength : String := "content-length"
def contentType : String := "content-type"
def destination : String := "destination"
def id : String := "id"
def login : String := "login"
def message : String := "message"
def messageId : String := "message-id"
def passcode : String := "passcode"
def receipt : String := "receipt"
def receiptId : String := "receipt-id"
def session : String := "session"
def subscription : String := "subscription"
def version : String := "version"

end Header

/-- The content type of a body when a sender names none. -/
def jsonContentType : String := "application/json"

/-- One unit of the protocol. -/
structure Frame where
  command : Command
  headers : List (String × String)
  body : Bytes
  deriving DecidableEq, Repr

namespace Frame

/-- The value of the first header of that name. -/
def header? (frame : Frame) (name : String) : Option String :=
  (frame.headers.find? fun header ↦ header.1 == name).map (·.2)

/-- Answers a successful handshake. -/
def connected (version : Version) (session : String) : Frame where
  command := .connected
  headers := [(Header.version, version.text), (Header.session, session)]
  body := []

/-- Delivers a body to one subscription, with its type and its length. -/
def message (destination subscription messageId contentType : String) (body : Bytes) : Frame where
  command := .message
  headers :=
    [(Header.destination, destination), (Header.subscription, subscription),
      (Header.messageId, messageId), (Header.contentType, contentType),
      (Header.contentLength, toString body.length)]
  body := body

/-- Confirms that a client's frame was processed. -/
def receipt (receiptId : String) : Frame where
  command := .receipt
  headers := [(Header.receiptId, receiptId)]
  body := []

/-- Reports a failure; a detail becomes a text body. -/
def error (message : String) : Option String → Frame
  | none => { command := .error, headers := [(Header.message, message)], body := [] }
  | some detail =>
    { command := .error
      headers :=
        [(Header.message, message), (Header.contentType, "text/plain"),
          (Header.contentLength, toString detail.utf8ByteSize)]
      body := Utf8.encode detail }

end Frame

end StompBroker
