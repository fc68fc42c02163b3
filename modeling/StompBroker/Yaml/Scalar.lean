import StompBroker.Json.Value
import StompBroker.Number.Bounds
import StompBroker.Text.Real

/-!
# Plain scalars

A scalar without quotes stands for null, a truth value or a number if it is written like one, and
for a text otherwise. Digits behind a leading zero are a text, and so are the words for infinity and
for what is not a number unless they start with a point.
-/

set_option autoImplicit false

namespace StompBroker.Yaml

/-- The value of a digit in a base of at most sixteen. -/
def digit? (base : Nat) (c : Char) : Option Nat :=
  let value :=
    if '0' ≤ c ∧ c ≤ '9' then c.toNat - 48
    else if 'a' ≤ c ∧ c ≤ 'f' then c.toNat - 87
    else if 'A' ≤ c ∧ c ≤ 'F' then c.toNat - 55
    else base
  if value < base then some value else none

/-- A number of at least one digit. -/
def number? (base : Nat) (digits : List Char) : Option Nat :=
  if digits.isEmpty then none
  else digits.foldlM (fun value c ↦ (digit? base c).map (value * base + ·)) 0

/-- Digits that a zero precedes, behind a sign or not. -/
def hasLeadingZero (chars : List Char) : Bool :=
  let digits := match chars with
    | '-' :: rest | '+' :: rest => rest
    | rest => rest
  match digits with
  | '0' :: c :: rest => (c :: rest).all Char.isDigit
  | _ => false

/-- A number in a base that its first letters name. -/
def based? : List Char → Option Nat
  | '0' :: 'x' :: digits => number? 16 digits
  | '0' :: 'o' :: digits => number? 8 digits
  | '0' :: 'b' :: digits => number? 2 digits
  | _ => none

/-- The natural number that a scalar spells. -/
def natural? (chars : List Char) : Option Nat :=
  let bare := match chars with
    | '+' :: rest => rest
    | rest => rest
  (based? bare).or (if hasLeadingZero bare then none else number? 10 bare)

/-- The magnitude of the negative number that a scalar spells. -/
def negative? : List Char → Option Nat
  | '-' :: rest => (based? rest).or (if hasLeadingZero rest then none else number? 10 rest)
  | _ => none

/-- The number with a fraction or an exponent that a scalar spells. -/
def real? (scalar : String) : Option Float :=
  let bare := match scalar.toList with
    | '+' :: rest => String.ofList rest
    | _ => scalar
  if [".inf", ".Inf", ".INF"].contains bare then some (1.0 / 0.0)
  else if ["-.inf", "-.Inf", "-.INF"].contains scalar then some (-(1.0 / 0.0))
  else if [".nan", ".NaN", ".NAN"].contains scalar then some (0.0 / 0.0)
  else if bare.length < scalar.length ∧ (bare.startsWith "+" ∨ bare.startsWith "-") then none
  else (Text.real? bare).filter Float.isFinite

/-- A number, as far as it fits in 128 bits. -/
def numeral? (scalar : String) : Option Json :=
  match natural? scalar.toList, negative? scalar.toList with
  | some value, _ => if value ≤ maxUnsigned128 then some (.ofNat value) else none
  | none, some magnitude =>
    if magnitude ≤ maxSigned128 + 1 then some (.ofInt (-(magnitude : Int))) else none
  | none, none => none

/-- What a scalar without quotes stands for. -/
def resolve (scalar : String) : Json :=
  if ["", "~", "null", "Null", "NULL"].contains scalar then .null
  else if ["true", "True", "TRUE"].contains scalar then .bool true
  else if ["false", "False", "FALSE"].contains scalar then .bool false
  else
    match numeral? scalar with
    | some value => value
    | none =>
      if hasLeadingZero scalar.toList then .string scalar
      else
        match real? scalar with
        | some value => .number (.real value)
        | none => .string scalar

/-- What a scalar with one of the standard tags stands for. -/
def resolveTagged (tag scalar : String) : Option Json :=
  match tag, resolve scalar with
  | "!!str", _ => some (.string scalar)
  | "!!null", .null => some .null
  | "!!bool", .bool value => some (.bool value)
  | "!!int", .number (.natural value) => some (.number (.natural value))
  | "!!int", .number (.negative value) => some (.number (.negative value))
  | "!!float", .number (.real value) => some (.number (.real value))
  | "!!float", _ => ((real? scalar).map fun value ↦ .number (.real value))
  | "!!null", _ | "!!bool", _ | "!!int", _ => none
  | _, _ => some (.string scalar)

end StompBroker.Yaml
