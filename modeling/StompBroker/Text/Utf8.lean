/-!
# Octets and the text they spell

A connection carries octets, the broker's rules speak about text. `Utf8.encode` gives the octets of
a text and `Utf8.decode?` reads them back, refusing every sequence that is not well formed.

`Utf8.decodeLossy` never refuses: each maximal part of an ill-formed sequence becomes one
replacement character, as the Unicode standard recommends for readers that have to go on.
`leadingChar` is the one step it repeats.
-/

set_option autoImplicit false

namespace StompBroker

/-- A string of octets as a connection carries it. -/
abbrev Bytes := List UInt8

namespace Utf8

/-- The octets of a text. -/
def encode (text : String) : Bytes := text.toUTF8.data.toList

/-- The text that the octets spell, unless they are ill formed. -/
def decode? (octets : Bytes) : Option String := String.fromUTF8? octets.toByteArray

/-- What stands for an ill-formed part of a sequence. -/
def replacement : Char := '\uFFFD'

/-- An octet that continues a character of several octets. -/
def isTail (octet : UInt8) : Bool := 0x80 ≤ octet && octet ≤ 0xBF

/-- The range of the second octet of a three-octet character. -/
def secondOfThree (lead octet : UInt8) : Bool :=
  if lead == 0xE0 then 0xA0 ≤ octet && octet ≤ 0xBF
  else if lead == 0xED then 0x80 ≤ octet && octet ≤ 0x9F
  else isTail octet

/-- The range of the second octet of a four-octet character. -/
def secondOfFour (lead octet : UInt8) : Bool :=
  if lead == 0xF0 then 0x90 ≤ octet && octet ≤ 0xBF
  else if lead == 0xF4 then 0x80 ≤ octet && octet ≤ 0x8F
  else isTail octet

/-- The six payload bits of a continuation octet. -/
def tailBits (octet : UInt8) : Nat := octet.toNat % 64

/-- The character that starts with `lead`, and how many octets of `rest` belong to it. An
ill-formed start is the replacement character together with its maximal well-formed part. -/
def leadingChar (lead : UInt8) (rest : Bytes) : Char × Nat :=
  if lead < 0x80 then (Char.ofNat lead.toNat, 0)
  else if lead < 0xC2 then (replacement, 0)
  else if lead < 0xE0 then
    match rest with
    | second :: _ =>
      if isTail second then (Char.ofNat (lead.toNat % 32 * 64 + tailBits second), 1)
      else (replacement, 0)
    | [] => (replacement, 0)
  else if lead < 0xF0 then
    match rest with
    | second :: third :: _ =>
      if !secondOfThree lead second then (replacement, 0)
      else if !isTail third then (replacement, 1)
      else (Char.ofNat (lead.toNat % 16 * 4096 + tailBits second * 64 + tailBits third), 2)
    | [second] => (replacement, if secondOfThree lead second then 1 else 0)
    | [] => (replacement, 0)
  else if lead < 0xF5 then
    match rest with
    | second :: third :: fourth :: _ =>
      if !secondOfFour lead second then (replacement, 0)
      else if !isTail third then (replacement, 1)
      else if !isTail fourth then (replacement, 2)
      else
        (Char.ofNat (lead.toNat % 8 * 262144 + tailBits second * 4096 + tailBits third * 64 +
          tailBits fourth), 3)
    | [second, third] =>
      (replacement, if !secondOfFour lead second then 0 else if isTail third then 2 else 1)
    | [second] => (replacement, if secondOfFour lead second then 1 else 0)
    | [] => (replacement, 0)
  else (replacement, 0)

/-- Reads characters off the front and puts each before those already read. -/
def lossyInto (read : List Char) : Bytes → List Char
  | [] => read
  | lead :: rest =>
    let (next, width) := leadingChar lead rest
    lossyInto (next :: read) (rest.drop width)
  termination_by octets => octets.length
  decreasing_by simp only [List.length_drop, List.length_cons]; omega

/-- The text of a sequence that may be ill formed. -/
def decodeLossy (octets : Bytes) : String := String.ofList (lossyInto [] octets).reverse

end Utf8

end StompBroker
