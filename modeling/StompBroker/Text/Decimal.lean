import StompBroker.Number.Bounds

/-!
# Whole numbers in decimal

A whole number is read from an optional sign and at least one digit, from left to right, inside the
bounds of the field it is for. `IntegerError` names what went wrong first: a sign alone or any other
character is not a digit, and a bound is crossed by the digit that crosses it, whatever follows.
-/

set_option autoImplicit false

namespace StompBroker.Text

/-- Why a text is not a whole number within its bounds. -/
inductive IntegerError where
  | empty
  | invalidDigit
  | tooLarge
  | tooSmall
  deriving DecidableEq, Repr

namespace IntegerError

/-- The wording of the failure. -/
def message : IntegerError → String
  | empty => "cannot parse integer from empty string"
  | invalidDigit => "invalid digit found in string"
  | tooLarge => "number too large to fit in target type"
  | tooSmall => "number too small to fit in target type"

end IntegerError

/-- The value of a decimal digit. -/
def digitValue? (c : Char) : Option Nat :=
  if '0' ≤ c ∧ c ≤ '9' then some (c.toNat - 48) else none

/-- Reads digits into `value` as long as it stays at most `bound`, and fails with `crossed` when it
does not. -/
def readDigits (bound : Nat) (crossed : IntegerError) (value : Nat) :
    List Char → Except IntegerError Nat
  | [] => .ok value
  | c :: rest =>
    match digitValue? c with
    | none => .error .invalidDigit
    | some digit =>
      if bound < value * 10 + digit then .error crossed
      else readDigits bound crossed (value * 10 + digit) rest

/-- A natural number of at most `bound`; a plus sign may stand in front. -/
def natural? (bound : Nat) (text : String) : Except IntegerError Nat :=
  match text.toList with
  | [] => .error .empty
  | ['+'] => .error .invalidDigit
  | '+' :: digits => readDigits bound .tooLarge 0 digits
  | digits => readDigits bound .tooLarge 0 digits

/-- An integer between `-(bound + 1)` and `bound`; either sign may stand in front. -/
def integer? (bound : Nat) (text : String) : Except IntegerError Int :=
  match text.toList with
  | [] => .error .empty
  | ['+'] => .error .invalidDigit
  | ['-'] => .error .invalidDigit
  | '-' :: digits => (readDigits (bound + 1) .tooSmall 0 digits).map fun value ↦ -(value : Int)
  | '+' :: digits => (readDigits bound .tooLarge 0 digits).map fun value ↦ (value : Int)
  | digits => (readDigits bound .tooLarge 0 digits).map fun value ↦ (value : Int)

end StompBroker.Text
