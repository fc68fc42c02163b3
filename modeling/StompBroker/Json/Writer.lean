import StompBroker.Json.Value
import StompBroker.Number.Shortest
import StompBroker.Text.Utf8

/-!
# Writing JSON

`Json.write` prints a document without white space, the members of an object in their order. A
string is quoted by `quote`, which escapes quotes, backslashes and control characters and leaves
everything else as it is. A number with a fraction has the fewest digits that read back
(`realText`): positional between `10 ^ -5` and `10 ^ 16`, and always with a fraction or an exponent.
-/

set_option autoImplicit false

namespace StompBroker.Json

/-- A hexadecimal digit in lower case. -/
def hexDigit (value : Nat) : UInt8 :=
  if value < 10 then UInt8.ofNat (0x30 + value) else UInt8.ofNat (0x61 + value - 10)

/-- How one octet of a string is written. -/
def escapeOctet (octet : UInt8) : Bytes :=
  if octet = 0x22 then [0x5C, 0x22]
  else if octet = 0x5C then [0x5C, 0x5C]
  else if octet = 0x08 then [0x5C, 0x62]
  else if octet = 0x09 then [0x5C, 0x74]
  else if octet = 0x0A then [0x5C, 0x6E]
  else if octet = 0x0C then [0x5C, 0x66]
  else if octet = 0x0D then [0x5C, 0x72]
  else if octet < 0x20 then
    [0x5C, 0x75, 0x30, 0x30, hexDigit (octet.toNat / 16), hexDigit (octet.toNat % 16)]
  else [octet]

/-- A text in quotes. -/
def quote (text : String) : Bytes := 0x22 :: ((Utf8.encode text).flatMap escapeOctet ++ [0x22])

/-- So many zeros. -/
def zeros (count : Nat) : String := String.ofList (List.replicate count '0')

/-- The digits with a point after the first `whole` of them. -/
def pointAfter (whole : Nat) (digits : String) : String :=
  String.ofList (digits.toList.take whole) ++ "." ++ String.ofList (digits.toList.drop whole)

/-- A positive decimal: positional if its point lies at most 16 places behind its first digit and
less than 5 before it, and otherwise with an exponent. -/
def decimalText (decimal : Number.Decimal) : String :=
  let digits := toString decimal.digits
  let point := (digits.length : Int) + decimal.exponent
  if 0 ≤ decimal.exponent ∧ point ≤ 16 then digits ++ zeros decimal.exponent.toNat ++ ".0"
  else if 0 < point ∧ point ≤ 16 then pointAfter point.toNat digits
  else if -5 < point ∧ point ≤ 0 then "0." ++ zeros (-point).toNat ++ digits
  else if digits.length = 1 then digits ++ "e" ++ toString (point - 1)
  else pointAfter 1 digits ++ "e" ++ toString (point - 1)

/-- A double-precision number. -/
def realText (value : Float) : String :=
  let bits := value.toBits
  let magnitude := bits % 0x8000000000000000
  let sign := if bits = magnitude then "" else "-"
  sign ++
    (if magnitude = 0 then "0.0"
    else decimalText (Number.Binary.ofBits magnitude).shortest)

/-- A number. -/
def Number.text : Number → String
  | .natural value => toString value
  | .negative magnitude => "-" ++ toString magnitude
  | .real value => if value.isFinite then realText value else "null"

mutual

/-- The octets of a document, in front of what follows it. -/
def writeBefore (after : Bytes) : Json → Bytes
  | .null => [0x6E, 0x75, 0x6C, 0x6C] ++ after
  | .bool true => [0x74, 0x72, 0x75, 0x65] ++ after
  | .bool false => [0x66, 0x61, 0x6C, 0x73, 0x65] ++ after
  | .number value => Utf8.encode value.text ++ after
  | .string value => quote value ++ after
  | .array elements => 0x5B :: writeElements after true elements
  | .object members => 0x7B :: writeMembers after true members

/-- The elements of an array with the commas between them and the bracket behind them. -/
def writeElements (after : Bytes) (isFirst : Bool) : List Json → Bytes
  | [] => 0x5D :: after
  | element :: rest =>
    (if isFirst then [] else [0x2C]) ++ writeBefore (writeElements after false rest) element

/-- The members of an object with the commas between them and the brace behind them. -/
def writeMembers (after : Bytes) (isFirst : Bool) : List (String × Json) → Bytes
  | [] => 0x7D :: after
  | (name, value) :: rest =>
    (if isFirst then [] else [0x2C]) ++ quote name ++
      0x3A :: writeBefore (writeMembers after false rest) value

end

/-- The octets of a document. -/
def write (document : Json) : Bytes := writeBefore [] document

/-- The text of a document. -/
def text (document : Json) : String := Utf8.decodeLossy (write document)

end StompBroker.Json
