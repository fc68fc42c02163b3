import StompBroker.Text.Utf8

/-!
# Base64 without padding

Three octets become four characters, and the one or two octets at the end two or three. There are
two alphabets, which differ in their last two characters. `decode?` reads exactly what `encode`
writes: it refuses a text with a single character left over and one whose last character has bits
that no octet takes.
-/

set_option autoImplicit false

namespace StompBroker.Base64

/-- The characters for 62 and 63. -/
structure Alphabet where
  sixtyTwo : Char
  sixtyThree : Char
  deriving DecidableEq, Repr

/-- The alphabet of names in addresses. -/
def urlSafe : Alphabet := ⟨'-', '_'⟩

/-- The alphabet of stored hashes. -/
def standard : Alphabet := ⟨'+', '/'⟩

/-- The character of six bits. -/
def Alphabet.char (alphabet : Alphabet) (value : Nat) : Char :=
  if value < 26 then Char.ofNat (65 + value)
  else if value < 52 then Char.ofNat (97 + (value - 26))
  else if value < 62 then Char.ofNat (48 + (value - 52))
  else if value = 62 then alphabet.sixtyTwo
  else alphabet.sixtyThree

/-- The six bits of a character. -/
def Alphabet.value? (alphabet : Alphabet) (c : Char) : Option Nat :=
  if 'A' ≤ c ∧ c ≤ 'Z' then some (c.toNat - 65)
  else if 'a' ≤ c ∧ c ≤ 'z' then some (c.toNat - 97 + 26)
  else if '0' ≤ c ∧ c ≤ '9' then some (c.toNat - 48 + 52)
  else if c = alphabet.sixtyTwo then some 62
  else if c = alphabet.sixtyThree then some 63
  else none

/-- The characters of octets. -/
def encodeChars (alphabet : Alphabet) : Bytes → List Char
  | [] => []
  | [first] =>
    [alphabet.char (first.toNat / 4), alphabet.char (first.toNat % 4 * 16)]
  | [first, second] =>
    [alphabet.char (first.toNat / 4), alphabet.char (first.toNat % 4 * 16 + second.toNat / 16),
      alphabet.char (second.toNat % 16 * 4)]
  | first :: second :: third :: rest =>
    alphabet.char (first.toNat / 4) :: alphabet.char (first.toNat % 4 * 16 + second.toNat / 16) ::
      alphabet.char (second.toNat % 16 * 4 + third.toNat / 64) ::
      alphabet.char (third.toNat % 64) :: encodeChars alphabet rest

/-- The octets of groups of six bits. -/
def joinBits : List Nat → Option Bytes
  | [] => some []
  | [_] => none
  | [first, second] =>
    if second % 16 = 0 then some [UInt8.ofNat (first * 4 + second / 16)] else none
  | [first, second, third] =>
    if third % 4 = 0 then
      some [UInt8.ofNat (first * 4 + second / 16), UInt8.ofNat (second % 16 * 16 + third / 4)]
    else none
  | first :: second :: third :: fourth :: rest =>
    (joinBits rest).map fun octets ↦
      UInt8.ofNat (first * 4 + second / 16) :: UInt8.ofNat (second % 16 * 16 + third / 4) ::
        UInt8.ofNat (third % 4 * 64 + fourth) :: octets

/-- The text of octets. -/
def encode (alphabet : Alphabet) (octets : Bytes) : String :=
  String.ofList (encodeChars alphabet octets)

/-- The octets of a text. -/
def decode? (alphabet : Alphabet) (text : String) : Option Bytes :=
  (text.toList.mapM alphabet.value?).bind joinBits

end StompBroker.Base64
