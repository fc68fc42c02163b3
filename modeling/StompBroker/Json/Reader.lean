import StompBroker.Json.Value
import StompBroker.Text.Utf8
import StompBroker.Text.Decimal

/-!
# Reading JSON

`Json.read` takes a document from octets and refuses everything after it but white space. A
`SyntaxError` says what was wrong and where: the line, and the column as a count of octets. The
readers below hold the octets that are still to come; a `Fault` therefore remembers how many of them
were left, and `Fault.locate` turns that into a position.

Arrays and objects may be nested 127 deep. A number without fraction and exponent is exact as long
as it fits in 64 bits. Every other number is its first 64 bits' worth of digits times a power of
ten, each rounded once to double precision and then multiplied or divided (`scale`); a number beyond
the finite range is refused. Strings must spell well-formed text, and an escaped surrogate must have
its partner.
-/

set_option autoImplicit false

namespace StompBroker.Json

/-- What is wrong with a text. -/
inductive SyntaxProblem where
  | endInList
  | endInObject
  | endInString
  | endInValue
  | expectedColon
  | expectedListCommaOrEnd
  | expectedObjectCommaOrEnd
  | expectedIdent
  | expectedValue
  | invalidEscape
  | invalidNumber
  | numberOutOfRange
  | invalidCodePoint
  | controlCharacter
  | keyMustBeString
  | loneSurrogate
  | trailingComma
  | trailingCharacters
  | endOfHexEscape
  | tooDeep
  deriving DecidableEq, Repr

namespace SyntaxProblem

/-- The wording of the problem. -/
def message : SyntaxProblem → String
  | endInList => "EOF while parsing a list"
  | endInObject => "EOF while parsing an object"
  | endInString => "EOF while parsing a string"
  | endInValue => "EOF while parsing a value"
  | expectedColon => "expected \x60:\x60"
  | expectedListCommaOrEnd => "expected \x60,\x60 or \x60]\x60"
  | expectedObjectCommaOrEnd => "expected \x60,\x60 or \x60\x7d\x60"
  | expectedIdent => "expected ident"
  | expectedValue => "expected value"
  | invalidEscape => "invalid escape"
  | invalidNumber => "invalid number"
  | numberOutOfRange => "number out of range"
  | invalidCodePoint => "invalid unicode code point"
  | controlCharacter => "control character (\\u0000-\\u001F) found while parsing a string"
  | keyMustBeString => "key must be a string"
  | loneSurrogate => "lone leading surrogate in hex escape"
  | trailingComma => "trailing comma"
  | trailingCharacters => "trailing characters"
  | endOfHexEscape => "unexpected end of hex escape"
  | tooDeep => "recursion limit exceeded"

end SyntaxProblem

/-- A problem, and how many octets were left behind the place it was seen at. -/
structure Fault where
  problem : SyntaxProblem
  left : Nat
  deriving DecidableEq, Repr

/-- A problem with its line and column. -/
structure SyntaxError where
  problem : SyntaxProblem
  line : Nat
  column : Nat
  deriving DecidableEq, Repr

/-- The wording of the error. -/
def SyntaxError.message (error : SyntaxError) : String :=
  error.problem.message ++ " at line " ++ toString error.line ++ " column " ++
    toString error.column

/-- Counts lines, and octets since the last line end. -/
def position (line column : Nat) : Bytes → Nat × Nat
  | [] => (line, column)
  | 0x0A :: rest => position (line + 1) 0 rest
  | _ :: rest => position line (column + 1) rest

/-- The place of a fault in the text it was found in. -/
def Fault.locate (text : Bytes) (fault : Fault) : SyntaxError :=
  let (line, column) := position 1 0 (text.take (text.length - fault.left))
  { problem := fault.problem, line := line, column := column }

/-- What a reader makes of the front of a text. -/
abbrev Reading (α : Type) := Except Fault (α × Bytes)

/-- A fault right before the octets still to come. -/
def faultAt {α : Type} (problem : SyntaxProblem) (rest : Bytes) : Except Fault α :=
  .error ⟨problem, rest.length⟩

/-- A fault at the next octet. -/
def faultNext {α : Type} (problem : SyntaxProblem) (rest : Bytes) : Except Fault α :=
  .error ⟨problem, rest.length - 1⟩

/-- The white space of JSON. -/
def isSpace (octet : UInt8) : Bool :=
  octet == 0x20 || octet == 0x0A || octet == 0x09 || octet == 0x0D

/-- The text from its first octet on that is no white space. -/
def skipSpace (text : Bytes) : Bytes := text.dropWhile isSpace

/-- A decimal digit's value. -/
def digit? (octet : UInt8) : Option Nat :=
  if 0x30 ≤ octet && octet ≤ 0x39 then some (octet.toNat - 0x30) else none

/-- The rest of a word whose first letter has been read. -/
def readWord {α : Type} (value : α) : Bytes → Bytes → Reading α
  | [], rest => .ok (value, rest)
  | _ :: _, [] => faultAt .endInValue []
  | expected :: word, octet :: rest =>
    if octet = expected then readWord value word rest else faultAt .expectedIdent rest

/-! ### Numbers -/

/-- The power of ten as a double-precision number. -/
def powerOfTen (exponent : Nat) : Float := Float.ofScientific 1 false exponent

/-- Multiplies or divides by a power of ten, in steps of `10 ^ 308`; nothing beyond the finite
numbers. -/
def scale (significand : Float) (exponent : Int) : Nat → Option Float
  | 0 => some significand
  | fuel + 1 =>
    if exponent.natAbs ≤ 308 then
      if 0 ≤ exponent then
        let product := significand * powerOfTen exponent.natAbs
        if product.isInf then none else some product
      else some (significand / powerOfTen exponent.natAbs)
    else if significand == 0 then some significand
    else if 0 ≤ exponent then none
    else scale (significand / powerOfTen 308) (exponent + 308) fuel

/-- The number of a sign, a significand of at most 64 bits and a power of ten. -/
def readParts (isPositive : Bool) (significand : Nat) (exponent : Int) (rest : Bytes) :
    Reading Number :=
  match scale significand.toUInt64.toFloat exponent (exponent.natAbs / 308 + 2) with
  | none => faultAt .numberOutOfRange rest
  | some value => .ok (.real (if isPositive then value else -value), rest)

/-- The digits of an exponent after its first; the answer is nothing once it exceeds 32 bits, with
the octets behind the digit that exceeds them. -/
def exponentDigits (value : Nat) : Bytes → Option Nat × Bytes
  | [] => (some value, [])
  | octet :: rest =>
    match digit? octet with
    | none => (some value, octet :: rest)
    | some digit =>
      if maxSigned32 < value * 10 + digit then (none, rest)
      else exponentDigits (value * 10 + digit) rest

/-- An exponent behind its letter `e`. -/
def readExponent (isPositive : Bool) (significand : Nat) (exponent : Int) (text : Bytes) :
    Reading Number :=
  let (raises, text) :=
    match text with
    | 0x2B :: rest => (true, rest)
    | 0x2D :: rest => (false, rest)
    | _ => (true, text)
  match text with
  | [] => faultAt .endInValue []
  | octet :: rest =>
    match digit? octet with
    | none => faultAt .invalidNumber rest
    | some digit =>
      match exponentDigits digit rest with
      | (some shift, rest) =>
        let exponent := if raises then exponent + shift else exponent - shift
        readParts isPositive significand exponent rest
      | (none, rest) =>
        if significand ≠ 0 ∧ raises then faultAt .numberOutOfRange rest
        else
          .ok (.real (if isPositive then 0.0 else -0.0),
            rest.dropWhile fun octet ↦ (digit? octet).isSome)

/-- Fraction digits as long as the significand fits in 64 bits: the significand, how many digits it
took, and whether a digit was left over. -/
def fractionDigits (significand taken : Nat) : Bytes → Nat × Nat × Bool × Bytes
  | [] => (significand, taken, false, [])
  | octet :: rest =>
    match digit? octet with
    | none => (significand, taken, false, octet :: rest)
    | some digit =>
      if maxUnsigned64 < significand * 10 + digit then
        (significand, taken, true, octet :: rest)
      else fractionDigits (significand * 10 + digit) (taken + 1) rest

/-- What ends a number that has a fraction: an exponent or nothing. -/
def readAfterFraction (isPositive : Bool) (significand : Nat) (exponent : Int) :
    Bytes → Reading Number
  | 0x65 :: rest => readExponent isPositive significand exponent rest
  | 0x45 :: rest => readExponent isPositive significand exponent rest
  | rest => readParts isPositive significand exponent rest

/-- A fraction behind its point. -/
def readFraction (isPositive : Bool) (significand : Nat) (exponent : Int) (text : Bytes) :
    Reading Number :=
  match fractionDigits significand 0 text with
  | (significand, taken, true, rest) =>
    readAfterFraction isPositive significand (exponent - taken)
      (rest.dropWhile fun octet ↦ (digit? octet).isSome)
  | (_, 0, false, []) => faultNext .endInValue []
  | (_, 0, false, octet :: rest) => faultNext .invalidNumber (octet :: rest)
  | (significand, taken, false, rest) =>
    readAfterFraction isPositive significand (exponent - taken) rest

/-- The digits of a number that no longer fits in 64 bits: each raises the power of ten. -/
def readLong (isPositive : Bool) (significand : Nat) (exponent : Nat) : Bytes → Reading Number
  | [] => readParts isPositive significand exponent []
  | 0x2E :: rest => readFraction isPositive significand exponent rest
  | octet :: rest =>
    if (digit? octet).isSome then readLong isPositive significand (exponent + 1) rest
    else readAfterFraction isPositive significand exponent (octet :: rest)

/-- What follows the digits before a point. -/
def readAfterDigits (isPositive : Bool) (significand : Nat) : Bytes → Reading Number
  | 0x2E :: rest => readFraction isPositive significand 0 rest
  | 0x65 :: rest => readExponent isPositive significand 0 rest
  | 0x45 :: rest => readExponent isPositive significand 0 rest
  | rest =>
    if isPositive then .ok (.natural significand, rest)
    else if significand = 0 ∨ maxSigned64 + 1 < significand then
      .ok (.real (-significand.toUInt64.toFloat), rest)
    else .ok (.negative significand, rest)

/-- Digits of a number as long as it fits in 64 bits. -/
def readMoreDigits (isPositive : Bool) (significand : Nat) : Bytes → Reading Number
  | [] => readAfterDigits isPositive significand []
  | octet :: rest =>
    match digit? octet with
    | none => readAfterDigits isPositive significand (octet :: rest)
    | some digit =>
      if maxUnsigned64 < significand * 10 + digit then
        readLong isPositive significand 0 (octet :: rest)
      else readMoreDigits isPositive (significand * 10 + digit) rest

/-- A number behind its sign. -/
def readNumber (isPositive : Bool) : Bytes → Reading Number
  | [] => faultAt .endInValue []
  | octet :: rest =>
    match digit? octet with
    | none => faultAt .invalidNumber rest
    | some 0 =>
      match rest with
      | next :: _ =>
        if (digit? next).isSome then faultNext .invalidNumber rest
        else readAfterDigits isPositive 0 rest
      | [] => readAfterDigits isPositive 0 rest
    | some digit => readMoreDigits isPositive digit rest

/-! ### Strings -/

/-- The value of a hexadecimal digit. -/
def hexDigit? (octet : UInt8) : Option Nat :=
  if 0x30 ≤ octet && octet ≤ 0x39 then some (octet.toNat - 0x30)
  else if 0x41 ≤ octet && octet ≤ 0x46 then some (octet.toNat - 0x41 + 10)
  else if 0x61 ≤ octet && octet ≤ 0x66 then some (octet.toNat - 0x61 + 10)
  else none

/-- Four hexadecimal digits. -/
def readHex : Bytes → Reading Nat
  | first :: second :: third :: fourth :: rest =>
    match hexDigit? first, hexDigit? second, hexDigit? third, hexDigit? fourth with
    | some first, some second, some third, some fourth =>
      .ok (((first * 16 + second) * 16 + third) * 16 + fourth, rest)
    | _, _, _, _ => faultAt .invalidEscape rest
  | _ => faultAt .endInString []

/-- The octets of a code point that is no surrogate. -/
def codePoint (point : Nat) : Bytes := String.utf8EncodeChar (Char.ofNat point)

/-- The second half of a surrogate pair. -/
def readPartner (leading : Nat) : Bytes → Reading Bytes
  | [] => faultAt .endInString []
  | 0x5C :: rest =>
    match rest with
    | [] => faultAt .endInString []
    | 0x75 :: rest =>
      match readHex rest with
      | .error fault => .error fault
      | .ok (trailing, rest) =>
        if 0xDC00 ≤ trailing ∧ trailing ≤ 0xDFFF then
          .ok (codePoint ((leading - 0xD800) * 1024 + (trailing - 0xDC00) + 0x10000), rest)
        else faultAt .loneSurrogate rest
    | _ :: rest => faultAt .endOfHexEscape rest
  | _ :: rest => faultAt .endOfHexEscape rest

/-- The octets that a letter after a backslash stands for. -/
def plainEscape? (letter : UInt8) : Option UInt8 :=
  if letter = 0x22 then some 0x22
  else if letter = 0x5C then some 0x5C
  else if letter = 0x2F then some 0x2F
  else if letter = 0x62 then some 0x08
  else if letter = 0x66 then some 0x0C
  else if letter = 0x6E then some 0x0A
  else if letter = 0x72 then some 0x0D
  else if letter = 0x74 then some 0x09
  else none

/-- What a backslash and the text behind it stand for. -/
def readEscape : Bytes → Reading Bytes
  | [] => faultAt .endInString []
  | letter :: rest =>
    match plainEscape? letter with
    | some octet => .ok ([octet], rest)
    | none =>
      if letter ≠ 0x75 then faultAt .invalidEscape rest
      else
        match readHex rest with
        | .error fault => .error fault
        | .ok (unit, rest) =>
          if 0xDC00 ≤ unit ∧ unit ≤ 0xDFFF then faultAt .loneSurrogate rest
          else if 0xD800 ≤ unit ∧ unit ≤ 0xDBFF then readPartner unit rest
          else .ok (codePoint unit, rest)

/-- The octets of a string behind its quote, after those already read (the last one first). A
`fuel` of the text's length suffices. -/
def readOctets (read : Bytes) : Nat → Bytes → Reading Bytes
  | 0, rest => faultAt .endInString rest
  | _ + 1, [] => faultAt .endInString []
  | fuel + 1, octet :: rest =>
    if octet = 0x22 then .ok (read.reverse, rest)
    else if octet = 0x5C then
      match readEscape rest with
      | .error fault => .error fault
      | .ok (meant, rest) => readOctets (meant.reverse ++ read) fuel rest
    else if octet < 0x20 then faultAt .controlCharacter rest
    else readOctets (octet :: read) fuel rest

/-- A string behind its quote. -/
def readString (text : Bytes) : Reading String :=
  match readOctets [] (text.length + 1) text with
  | .error fault => .error fault
  | .ok (octets, rest) =>
    match Utf8.decode? octets with
    | none => faultAt .invalidCodePoint rest
    | some value => .ok (value, rest)

/-! ### Documents -/

/-- How deep arrays and objects may be nested, and one more. -/
def depthLimit : Nat := 128

/-- The text behind a colon. -/
def readColon (text : Bytes) : Except Fault Bytes :=
  match skipSpace text with
  | [] => faultNext .endInObject []
  | 0x3A :: rest => .ok rest
  | rest => faultNext .expectedColon rest

/-- What stands before the next element of an array: its text, or the text behind the end. -/
def nextElement (isFirst : Bool) (text : Bytes) : Except Fault (Bytes ⊕ Bytes) :=
  match skipSpace text with
  | [] => faultNext .endInList []
  | 0x5D :: rest => .ok (.inr rest)
  | octet :: rest =>
    if isFirst then .ok (.inl (octet :: rest))
    else if octet = 0x2C then
      match skipSpace rest with
      | [] => faultNext .endInValue []
      | 0x5D :: rest => faultNext .trailingComma (0x5D :: rest)
      | rest => .ok (.inl rest)
    else faultNext .expectedListCommaOrEnd (octet :: rest)

/-- What stands before the next member of an object: the text behind the quote of its name, or the
text behind the end. -/
def nextMember (isFirst : Bool) (text : Bytes) : Except Fault (Bytes ⊕ Bytes) :=
  match skipSpace text with
  | [] => faultNext .endInObject []
  | 0x7D :: rest => .ok (.inr rest)
  | octet :: rest =>
    if isFirst then
      if octet = 0x22 then .ok (.inl rest) else faultNext .keyMustBeString (octet :: rest)
    else if octet = 0x2C then
      match skipSpace rest with
      | [] => faultNext .endInValue []
      | 0x22 :: rest => .ok (.inl rest)
      | 0x7D :: rest => faultNext .trailingComma (0x7D :: rest)
      | rest => faultNext .keyMustBeString rest
    else faultNext .expectedObjectCommaOrEnd (octet :: rest)

mutual

/-- A document at the front of a text. Every step takes an octet, so a `fuel` of twice the text's
length suffices. -/
def readValue (fuel depth : Nat) (text : Bytes) : Reading Json :=
  match fuel with
  | 0 => faultAt .endInValue text
  | fuel + 1 =>
    match skipSpace text with
    | [] => faultNext .endInValue []
    | octet :: rest =>
      if octet = 0x6E then readWord .null [0x75, 0x6C, 0x6C] rest
      else if octet = 0x74 then readWord (.bool true) [0x72, 0x75, 0x65] rest
      else if octet = 0x66 then readWord (.bool false) [0x61, 0x6C, 0x73, 0x65] rest
      else if octet = 0x2D then (readNumber false rest).map fun read ↦ (.number read.1, read.2)
      else if (digit? octet).isSome then
        (readNumber true (octet :: rest)).map fun read ↦ (.number read.1, read.2)
      else if octet = 0x22 then (readString rest).map fun read ↦ (.string read.1, read.2)
      else if octet = 0x5B then
        if depth ≤ 1 then faultNext .tooDeep (octet :: rest)
        else readElements fuel (depth - 1) [] rest
      else if octet = 0x7B then
        if depth ≤ 1 then faultNext .tooDeep (octet :: rest)
        else readMembers fuel (depth - 1) true [] rest
      else faultNext .expectedValue (octet :: rest)

/-- The elements of an array up to its end, after those already read (the last one first). -/
def readElements (fuel depth : Nat) (read : List Json) (text : Bytes) : Reading Json :=
  match fuel with
  | 0 => faultAt .endInList text
  | fuel + 1 =>
    match nextElement read.isEmpty text with
    | .error fault => .error fault
    | .ok (.inr rest) => .ok (.array read.reverse, rest)
    | .ok (.inl rest) =>
      match readValue fuel depth rest with
      | .error fault => .error fault
      | .ok (element, rest) => readElements fuel depth (element :: read) rest

/-- The members of an object up to its end, after those already read. -/
def readMembers (fuel depth : Nat) (isFirst : Bool) (read : List (String × Json)) (text : Bytes) :
    Reading Json :=
  match fuel with
  | 0 => faultAt .endInObject text
  | fuel + 1 =>
    match nextMember isFirst text with
    | .error fault => .error fault
    | .ok (.inr rest) => .ok (.object read, rest)
    | .ok (.inl rest) =>
      match readString rest with
      | .error fault => .error fault
      | .ok (name, rest) =>
        match readColon rest with
        | .error fault => .error fault
        | .ok rest =>
          match readValue fuel depth rest with
          | .error fault => .error fault
          | .ok (value, rest) =>
            readMembers fuel depth false (insertMember name value read) rest

end

/-- The document that the octets spell, with nothing but white space around it. -/
def readFault (text : Bytes) : Except Fault Json :=
  match readValue (2 * text.length + 1) depthLimit text with
  | .error fault => .error fault
  | .ok (value, rest) =>
    match skipSpace rest with
    | [] => .ok value
    | rest => faultNext .trailingCharacters rest

/-- The document that the octets spell, or what is wrong with them and where. -/
def read (text : Bytes) : Except SyntaxError Json := (readFault text).mapError (Fault.locate text)

/-- The document of a text. -/
def ofText? (text : String) : Option Json := (read (Utf8.encode text)).toOption

end StompBroker.Json
