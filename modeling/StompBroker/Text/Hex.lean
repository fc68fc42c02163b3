import StompBroker.Json.Reader
import StompBroker.Json.Writer

/-!
# Octets in hexadecimal

Each octet is written as two digits, in lower case. `Json.ofBytes` writes octets as a text if they
spell one, and in hexadecimal otherwise.
-/

set_option autoImplicit false

namespace StompBroker

namespace Hex

/-- The digits of octets. -/
def encode (octets : Bytes) : String :=
  Utf8.decodeLossy (octets.flatMap fun octet ↦
    [Json.hexDigit (octet.toNat / 16), Json.hexDigit (octet.toNat % 16)])

/-- The octets of pairs of digits. -/
def decodeOctets : Bytes → Bytes
  | high :: low :: rest =>
    UInt8.ofNat ((Json.hexDigit? high).getD 0 * 16 + (Json.hexDigit? low).getD 0) ::
      decodeOctets rest
  | _ => []

/-- The octets that digits stand for. -/
def decode (digits : String) : Bytes := decodeOctets (Utf8.encode digits)

/-- The digits of a number of 64 bits. -/
def ofWord (word : UInt64) : String :=
  encode ((List.range 8).map fun place ↦ UInt8.ofNat (word.toNat / Nat.pow 256 (7 - place)))

end Hex

/-- Octets as a document. -/
def Json.ofBytes (octets : Bytes) : Json :=
  match Utf8.decode? octets with
  | some text => .string text
  | none => .object [("hex", .string (Hex.encode octets))]

end StompBroker
