import StompBroker.Json.Reader

/-!
# Passing over a document

A reader that looks for certain members of an object passes over all others with `skipValue`. It
checks less than a reader of values: it knows no depth, no range of numbers and no surrogates, and
strings may be ill formed. `enclosing` lists the arrays and objects around the place that is being
passed over, the innermost first.
-/

set_option autoImplicit false

namespace StompBroker.Json

/-- What a value is part of. -/
inductive Enclosing where
  | array
  | object
  deriving DecidableEq, Repr

/-- Passes over digits. -/
def skipDigits (text : Bytes) : Bytes := text.dropWhile fun octet ↦ (digit? octet).isSome

/-- Passes over an exponent behind its letter. -/
def skipExponent (text : Bytes) : Except Fault Bytes :=
  let text :=
    match text with
    | 0x2B :: rest => rest
    | 0x2D :: rest => rest
    | _ => text
  match text with
  | [] => faultAt .invalidNumber []
  | octet :: rest =>
    if (digit? octet).isSome then .ok (skipDigits rest) else faultAt .invalidNumber rest

/-- Passes over an exponent, if there is one. -/
def skipOptionalExponent : Bytes → Except Fault Bytes
  | 0x65 :: rest => skipExponent rest
  | 0x45 :: rest => skipExponent rest
  | rest => .ok rest

/-- Passes over a fraction and an exponent, if there are any. -/
def skipAfterDigits : Bytes → Except Fault Bytes
  | 0x2E :: rest =>
    match rest with
    | [] => faultNext .invalidNumber []
    | octet :: _ =>
      if (digit? octet).isSome then skipOptionalExponent (skipDigits rest)
      else faultNext .invalidNumber rest
  | rest => skipOptionalExponent rest

/-- Passes over a number behind its sign. -/
def skipNumber : Bytes → Except Fault Bytes
  | [] => faultAt .invalidNumber []
  | octet :: rest =>
    match digit? octet with
    | none => faultAt .invalidNumber rest
    | some 0 =>
      match rest with
      | next :: _ =>
        if (digit? next).isSome then faultNext .invalidNumber rest else skipAfterDigits rest
      | [] => .ok []
    | some _ => skipAfterDigits (skipDigits rest)

/-- Passes over a string behind its quote. -/
def skipString : Nat → Bytes → Except Fault Bytes
  | 0, rest => faultAt .endInString rest
  | _ + 1, [] => faultAt .endInString []
  | fuel + 1, octet :: rest =>
    if octet = 0x22 then .ok rest
    else if octet = 0x5C then
      match rest with
      | [] => faultAt .endInString []
      | letter :: rest =>
        if (plainEscape? letter).isSome then skipString fuel rest
        else if letter = 0x75 then
          match readHex rest with
          | .error fault => .error fault
          | .ok (_, rest) => skipString fuel rest
        else faultAt .invalidEscape rest
    else if octet < 0x20 then faultAt .controlCharacter rest
    else skipString fuel rest

/-- The end of what encloses a value: brackets that close here, up to a comma behind which the next
value stands, or up to the end of the whole document. -/
def skipEnds (afterValue : Bool) : List Enclosing → Nat → Bytes →
    Except Fault (List Enclosing × Bytes)
  | [], _, rest => .ok ([], rest)
  | enclosing, 0, rest => .ok (enclosing, rest)
  | innermost :: outer, fuel + 1, text =>
    match skipSpace text with
    | [] => faultNext (if innermost = .array then .endInList else .endInObject) []
    | octet :: rest =>
      if octet = 0x2C && afterValue then .ok (innermost :: outer, rest)
      else if (octet = 0x5D ∧ innermost = .array) ∨ (octet = 0x7D ∧ innermost = .object) then
        skipEnds true outer fuel rest
      else if afterValue then
        faultNext
          (if innermost = .array then .expectedListCommaOrEnd else .expectedObjectCommaOrEnd)
          (octet :: rest)
      else .ok (innermost :: outer, octet :: rest)

/-- Passes over the name of a member and its colon, if the next value is one of an object. -/
def skipName (enclosing : List Enclosing) (text : Bytes) : Except Fault Bytes :=
  match enclosing with
  | .object :: _ =>
    match skipSpace text with
    | [] => faultNext .endInObject []
    | 0x22 :: rest =>
      match skipString (rest.length + 1) rest with
      | .error fault => .error fault
      | .ok rest => readColon rest
    | rest => faultNext .keyMustBeString rest
  | _ => .ok text

/-- Passes over a value that stands alone, or opens an array or an object. -/
def skipStart (enclosing : List Enclosing) (text : Bytes) :
    Except Fault (Bool × List Enclosing × Bytes) :=
  match skipSpace text with
  | [] => faultNext .endInValue []
  | octet :: rest =>
    let alone (outcome : Except Fault Bytes) := outcome.map fun rest ↦ (true, enclosing, rest)
    let word (letters : Bytes) := alone ((readWord () letters rest).map (·.2))
    if octet = 0x6E then word [0x75, 0x6C, 0x6C]
    else if octet = 0x74 then word [0x72, 0x75, 0x65]
    else if octet = 0x66 then word [0x61, 0x6C, 0x73, 0x65]
    else if octet = 0x2D then alone (skipNumber rest)
    else if (digit? octet).isSome then alone (skipNumber (octet :: rest))
    else if octet = 0x22 then alone (skipString (rest.length + 1) rest)
    else if octet = 0x5B then .ok (false, .array :: enclosing, rest)
    else if octet = 0x7B then .ok (false, .object :: enclosing, rest)
    else faultNext .expectedValue (octet :: rest)

/-- Passes over values until nothing encloses them any more. -/
def skipFrom (enclosing : List Enclosing) : Nat → Bytes → Except Fault Bytes
  | 0, text => faultAt .endInValue text
  | fuel + 1, text =>
    match skipStart enclosing text with
    | .error fault => .error fault
    | .ok (afterValue, enclosing, rest) =>
      match skipEnds afterValue enclosing (rest.length + 1) rest with
      | .error fault => .error fault
      | .ok ([], rest) => .ok rest
      | .ok (innermost :: outer, rest) =>
        match skipName (innermost :: outer) rest with
        | .error fault => .error fault
        | .ok rest => skipFrom (innermost :: outer) fuel rest

/-- Passes over the document at the front of a text. -/
def skipValue (text : Bytes) : Except Fault Bytes := skipFrom [] (text.length + 1) text

end StompBroker.Json
