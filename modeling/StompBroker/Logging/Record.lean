import StompBroker.Failure
import StompBroker.Json.Writer
import StompBroker.Text.Hex

/-!
# Log records

A `LogRecord` is written as a line of text, in colours or without them, or as a document. The time
of a record stands at the front of both; here a fixed text takes its place.
-/

set_option autoImplicit false

namespace StompBroker

/-- One record of the log. -/
structure LogRecord where
  /-- The part of the program that it is from. -/
  target : String
  level : Level := .info
  message : String
  fields : List (String × Json) := []
  deriving Repr

namespace LogRecord

/-- What stands for the time of a record. -/
def timestamp : String := "<ts>"

/-- Switches the colours off. -/
def plainCode : String := "\x1b[0m"

/-- Switches the colour of a level on. -/
def colourCode : Level → String
  | .trace => "\x1b[35m"
  | .debug => "\x1b[34m"
  | .info => "\x1b[32m"
  | .warn => "\x1b[33m"
  | .error => "\x1b[31m"

/-- The level in brackets. -/
def bracketed (level : Level) : String := "[" ++ level.text ++ "]"

/-- The value of a field as it stands in a line. -/
def valueText : Json → String
  | .string text => text
  | value => value.text

/-- A character of a message; one that a terminal acts upon is spelt out. -/
def visible (c : Char) : String :=
  let digits := Hex.encode [c.toNat.toUInt8]
  if ['\x07', '\x08', '\x0c', '\x1b', '\x7f'].contains c then "\\x" ++ digits
  else if 0x80 ≤ c.toNat ∧ c.toNat ≤ 0x9F then "\\u" ++ "\x7b" ++ digits ++ "\x7d"
  else c.toString

/-- A field in a line. -/
def fieldText (colour : Bool) (field : String × Json) : String :=
  if colour then
    " \x1b[3m" ++ field.1 ++ plainCode ++ "\x1b[2m=" ++ plainCode ++ valueText field.2
  else " " ++ field.1 ++ "=" ++ valueText field.2

/-- The record as text. -/
def text (colour : Bool) (record : LogRecord) : String :=
  let level := bracketed record.level
  let shown := if colour then colourCode record.level ++ level ++ plainCode else level
  timestamp ++ " " ++ shown ++ " " ++ String.join (record.message.toList.map visible) ++
    String.join (record.fields.map (fieldText colour))

/-- The record as a document. -/
def toJson (record : LogRecord) : Json :=
  .ofMembers
    [("timestamp", .string timestamp), ("level", .string record.level.text),
      ("fields", .ofMembers (("message", .string record.message) :: record.fields)),
      ("target", .string record.target)]

end LogRecord

end StompBroker
