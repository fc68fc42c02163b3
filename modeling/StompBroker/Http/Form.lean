import StompBroker.Http.Paging
import StompBroker.Number.Bounds
import StompBroker.Text.Decimal
import StompBroker.Text.Split

/-!
# Queries of targets

The query of a target is a list of fields, with ampersands between them and an equals sign between a
name and its value. A plus sign stands for a space, and a percent sign with two hexadecimal digits
for an octet.

`PageQuery.ofTarget?` reads the two numbers of a `PageQuery` from such a list. Each of them may be
given once, and other fields are passed over.
-/

set_option autoImplicit false

namespace StompBroker

namespace Form

/-- The octets that a field spells. -/
def decode : Bytes → Bytes
  | [] => []
  | 0x2B :: rest => 0x20 :: decode rest
  | 0x25 :: high :: low :: rest =>
    match Json.hexDigit? high, Json.hexDigit? low with
    | some upper, some lower => UInt8.ofNat (upper * 16 + lower) :: decode rest
    | _, _ => 0x25 :: decode (high :: low :: rest)
  | octet :: rest => octet :: decode rest

/-- The text that a field spells. -/
def decodeText (spelled : String) : String := Utf8.decodeLossy (decode (Utf8.encode spelled))

/-- The names and values of a query. -/
def fields (query : String) : List (String × String) :=
  ((Text.split '&' query).filter (!·.isEmpty)).map fun field ↦
    let (name, value) := (Text.splitOnce? '=' field).getD (field, "")
    (decodeText name, decodeText value)

/-- The number in a field that may be given once, if it is one. -/
def number? (missing : Nat) (name : String) (fields : List (String × String)) : Option Nat :=
  match fields.filter fun field ↦ field.1 == name with
  | [] => some missing
  | [(_, value)] => (Text.natural? maxUnsigned32 value).toOption
  | _ => none

end Form

/-- The page that the query of a target asks for. -/
def PageQuery.ofTarget? (query : Option String) : Option PageQuery := do
  let fields := Form.fields (query.getD "")
  return {
    pageNum := ← Form.number? 1 "pageNum" fields
    pageSize := ← Form.number? 10 "pageSize" fields }

end StompBroker
