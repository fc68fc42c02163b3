import StompBroker.Json.Skip

/-!
# Documents of a known shape

A `Shape` says what a request or a token must contain: texts, numbers within bounds, lists, and
records of named fields. `readShape` takes such a document from octets in one pass, so of two things
that are wrong with a text the first decides whether the text is `malformed` or a document that does
not fit. Members of a record that no field names are passed over; a field that occurs twice does not
fit. A record may also be written as an array of its fields in order.
-/

set_option autoImplicit false

namespace StompBroker.Json

/-- Whether a record needs a field. -/
inductive Presence where
  | required
  /-- A record without the field is one whose field is null. -/
  | optional
  /-- A record without the field has a value of its own for it. -/
  | defaulted
  deriving DecidableEq, Repr

/-- What a document must look like. -/
inductive Shape where
  | any
  | text
  | truth
  | real
  | natural (greatest : Nat)
  | integer (least greatest : Int)
  | optional (inner : Shape)
  | list (element : Shape)
  | record (fields : List (String × Presence × Shape))

/-- Why a text is not a document of a shape. -/
inductive ShapeError where
  | malformed (problem : SyntaxProblem)
  | mismatch
  deriving DecidableEq, Repr

/-- What a reader of a shape makes of the front of a text. -/
abbrev Fitting := Except ShapeError (Json × Bytes)

/-- A fault as the reason that a text does not fit. -/
def ofFault {α : Type} (outcome : Except Fault α) : Except ShapeError α :=
  outcome.mapError fun fault ↦ .malformed fault.problem

/-- A value of another kind than the shape asks for, unless it is no value at all. -/
def refuse (text : Bytes) : Fitting :=
  match skipSpace text with
  | [] => .error (.malformed .endInValue)
  | octet :: rest =>
    if octet = 0x5B ∨ octet = 0x7B then .error .mismatch
    else if octet = 0x2D then
      match readNumber false rest with
      | .error fault => .error (.malformed fault.problem)
      | .ok _ => .error .mismatch
    else
      match readValue (2 * text.length + 1) depthLimit text with
      | .error fault => .error (.malformed fault.problem)
      | .ok _ => .error .mismatch

/-- A number that passes a test. -/
def readFitting (fits : Number → Bool) (text : Bytes) : Fitting :=
  match skipSpace text with
  | octet :: rest =>
    if octet = 0x2D ∨ (digit? octet).isSome then
      match if octet = 0x2D then readNumber false rest else readNumber true (octet :: rest) with
      | .error fault => .error (.malformed fault.problem)
      | .ok (value, rest) =>
        if fits value then .ok (.number value, rest) else .error .mismatch
    else refuse text
  | [] => refuse text

/-- A natural number of at most `greatest`. -/
def isNatural (greatest : Nat) : Number → Bool
  | .natural value => value ≤ greatest
  | _ => false

/-- An integer within bounds. -/
def isInteger (least greatest : Int) : Number → Bool
  | .natural value => (value : Int) ≤ greatest
  | .negative magnitude => least ≤ -(magnitude : Int)
  | .real _ => false

/-- The fields that a record must still get: those that are required and not there. -/
def isComplete (fields : List (String × Presence × Shape)) (read : List (String × Json)) : Bool :=
  fields.all fun field ↦ field.2.1 != .required || read.any fun member ↦ member.1 == field.1

mutual

/-- A document of a shape at the front of a text. -/
def readShape (fuel depth : Nat) (shape : Shape) (text : Bytes) : Fitting :=
  match fuel with
  | 0 => .error .mismatch
  | fuel + 1 =>
    match shape with
    | .any => ofFault (readValue (2 * text.length + 1) depth text)
    | .text =>
      match skipSpace text with
      | 0x22 :: rest => ofFault ((readString rest).map fun read ↦ (.string read.1, read.2))
      | _ => refuse text
    | .truth =>
      match skipSpace text with
      | octet :: rest =>
        if octet = 0x74 then ofFault (readWord (.bool true) [0x72, 0x75, 0x65] rest)
        else if octet = 0x66 then ofFault (readWord (.bool false) [0x61, 0x6C, 0x73, 0x65] rest)
        else refuse text
      | [] => refuse text
    | .real => readFitting (fun _ ↦ true) text
    | .natural greatest => readFitting (isNatural greatest) text
    | .integer least greatest => readFitting (isInteger least greatest) text
    | .optional inner =>
      match skipSpace text with
      | 0x6E :: rest => ofFault (readWord .null [0x75, 0x6C, 0x6C] rest)
      | _ => readShape fuel depth inner text
    | .list element =>
      match skipSpace text with
      | 0x5B :: rest =>
        if depth ≤ 1 then .error (.malformed .tooDeep)
        else fitElements fuel (depth - 1) element [] rest
      | _ => refuse text
    | .record fields =>
      match skipSpace text with
      | 0x7B :: rest =>
        if depth ≤ 1 then .error (.malformed .tooDeep)
        else fitMembers fuel (depth - 1) fields true [] rest
      | 0x5B :: rest =>
        if depth ≤ 1 then .error (.malformed .tooDeep)
        else fitFields fuel (depth - 1) true fields [] rest
      | _ => refuse text

/-- The elements of a list up to its end, after those already read (the last one first). -/
def fitElements (fuel depth : Nat) (element : Shape) (read : List Json) (text : Bytes) : Fitting :=
  match fuel with
  | 0 => .error .mismatch
  | fuel + 1 =>
    match nextElement read.isEmpty text with
    | .error fault => .error (.malformed fault.problem)
    | .ok (.inr rest) => .ok (.array read.reverse, rest)
    | .ok (.inl rest) =>
      match readShape fuel depth element rest with
      | .error cause => .error cause
      | .ok (value, rest) => fitElements fuel depth element (value :: read) rest

/-- The members of a record up to its end, after those already read. -/
def fitMembers (fuel depth : Nat) (fields : List (String × Presence × Shape)) (isFirst : Bool)
    (read : List (String × Json)) (text : Bytes) : Fitting :=
  match fuel with
  | 0 => .error .mismatch
  | fuel + 1 =>
    match nextMember isFirst text with
    | .error fault => .error (.malformed fault.problem)
    | .ok (.inr rest) =>
      if isComplete fields read then .ok (.object read.reverse, rest) else .error .mismatch
    | .ok (.inl rest) =>
      match readString rest with
      | .error fault => .error (.malformed fault.problem)
      | .ok (name, rest) =>
        match fields.find? fun field ↦ field.1 == name with
        | none =>
          match readColon rest with
          | .error fault => .error (.malformed fault.problem)
          | .ok rest =>
            match skipValue rest with
            | .error fault => .error (.malformed fault.problem)
            | .ok rest => fitMembers fuel depth fields false read rest
        | some (_, _, shape) =>
          if read.any fun member ↦ member.1 == name then .error .mismatch
          else
            match readColon rest with
            | .error fault => .error (.malformed fault.problem)
            | .ok rest =>
              match readShape fuel depth shape rest with
              | .error cause => .error cause
              | .ok (value, rest) =>
                fitMembers fuel depth fields false ((name, value) :: read) rest

/-- The fields of a record that is written as an array, after those already read. -/
def fitFields (fuel depth : Nat) (isFirst : Bool) (fields : List (String × Presence × Shape))
    (read : List (String × Json)) (text : Bytes) : Fitting :=
  match fuel with
  | 0 => .error .mismatch
  | fuel + 1 =>
    match fields with
    | [] =>
      match skipSpace text with
      | [] => .error (.malformed .endInList)
      | 0x5D :: rest => .ok (.object read.reverse, rest)
      | _ => .error (.malformed .trailingCharacters)
    | (name, presence, shape) :: fields =>
      match nextElement isFirst text with
      | .error fault => .error (.malformed fault.problem)
      | .ok (.inr rest) =>
        if presence = .defaulted ∧ fields.all fun field ↦ field.2.1 = .defaulted then
          .ok (.object read.reverse, rest)
        else .error .mismatch
      | .ok (.inl rest) =>
        match readShape fuel depth shape rest with
        | .error cause => .error cause
        | .ok (value, rest) => fitFields fuel depth false fields ((name, value) :: read) rest

end

/-- The document of a shape that the octets spell, with nothing but white space around it. -/
def Shape.read (shape : Shape) (text : Bytes) : Except ShapeError Json :=
  match readShape (4 * text.length + 16) depthLimit shape text with
  | .error cause => .error cause
  | .ok (value, rest) =>
    match skipSpace rest with
    | [] => .ok value
    | _ => .error (.malformed .trailingCharacters)

end StompBroker.Json
