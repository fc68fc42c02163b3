/-!
# JSON documents

A `Json` value holds its numbers as they were written: a natural number, a negative one, or a
double-precision number for everything with a fraction or an exponent. An object lists its members
in the order in which they are written. An object that was read has them in the order of their
names, each name once: `insertMember` keeps that order and lets the last value of a name win.
-/

set_option autoImplicit false

namespace StompBroker

/-- A JSON number. -/
inductive Json.Number where
  | natural (value : Nat)
  /-- The number `-magnitude`, with a positive magnitude. -/
  | negative (magnitude : Nat)
  | real (value : Float)
  deriving Repr

/-- A JSON document. -/
inductive Json where
  | null
  | bool (value : Bool)
  | number (value : Json.Number)
  | string (value : String)
  | array (elements : List Json)
  | object (members : List (String × Json))
  deriving Repr, Inhabited

namespace Json

/-- A natural number as a document. -/
def ofNat (value : Nat) : Json := .number (.natural value)

/-- An integer as a document. -/
def ofInt : Int → Json
  | .ofNat value => .number (.natural value)
  | .negSucc value => .number (.negative (value + 1))

/-- A value that may be missing, with null for the missing one. -/
def ofOption {α : Type} (encode : α → Json) : Option α → Json
  | none => .null
  | some value => encode value

/-- Puts a member in the place of its name, over an earlier value of that name. -/
def insertMember (name : String) (value : Json) : List (String × Json) → List (String × Json)
  | [] => [(name, value)]
  | (other, kept) :: rest =>
    if name = other then (name, value) :: rest
    else if name < other then (name, value) :: (other, kept) :: rest
    else (other, kept) :: insertMember name value rest

/-- An object with these members, put in order. -/
def ofMembers (members : List (String × Json)) : Json :=
  .object (members.foldl (fun sorted member ↦ insertMember member.1 member.2 sorted) [])

/-- The member of that name, if the document is an object that has it. -/
def member? (name : String) : Json → Option Json
  | .object members => (members.find? fun entry ↦ entry.1 == name).map (·.2)
  | _ => none

/-- The text of a string. -/
def string? : Json → Option String
  | .string value => some value
  | _ => none

/-- The elements of an array. -/
def array? : Json → Option (List Json)
  | .array elements => some elements
  | _ => none

/-- A natural number. -/
def nat? : Json → Option Nat
  | .number (.natural value) => some value
  | _ => none

/-- An integer of either sign. -/
def int? : Json → Option Int
  | .number (.natural value) => some value
  | .number (.negative magnitude) => some (-(magnitude : Int))
  | _ => none

/-- A truth value. -/
def bool? : Json → Option Bool
  | .bool value => some value
  | _ => none

end Json

end StompBroker
