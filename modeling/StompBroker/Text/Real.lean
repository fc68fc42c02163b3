import StompBroker.Text.Decimal

/-!
# Decimal numbers as text

`real?` reads a decimal number with an optional sign, fraction and exponent, or one of the words for
infinity and for what is not a number. The value is the double-precision number nearest to it.
-/

set_option autoImplicit false

namespace StompBroker.Text

/-- The digits at the front of a text. -/
def spanDigits (chars : List Char) : List Char × List Char :=
  chars.span fun c ↦ (digitValue? c).isSome

/-- The number that digits spell. -/
def digitsValue (digits : List Char) : Nat :=
  digits.foldl (fun value c ↦ value * 10 + (digitValue? c).getD 0) 0

/-- The double-precision number nearest to `significand * 10 ^ exponent`. -/
def nearestReal (significand : Nat) (exponent : Int) : Float :=
  let size : Int := (toString significand).length + exponent
  if significand = 0 ∨ size < -400 then 0
  else if 400 < size then 1.0 / 0.0
  else if 0 ≤ exponent then Float.ofScientific significand false exponent.toNat
  else Float.ofScientific significand true (-exponent).toNat

/-- The exponent behind a mantissa. -/
def exponent? : List Char → Option Int
  | [] => some 0
  | mark :: rest =>
    if mark = 'e' ∨ mark = 'E' then
      let (negative, digits) := match rest with
        | '-' :: digits => (true, digits)
        | '+' :: digits => (false, digits)
        | digits => (false, digits)
      match spanDigits digits with
      | (_ :: _, []) =>
        let value : Int := digitsValue digits
        some (if negative then -value else value)
      | _ => none
    else none

/-- A number without a sign. -/
def unsignedReal? (chars : List Char) : Option Float :=
  let word := String.ofList (chars.map Char.toLower)
  if word = "inf" ∨ word = "infinity" then some (1.0 / 0.0)
  else if word = "nan" then some (0.0 / 0.0)
  else
    let (whole, rest) := spanDigits chars
    let (fraction, rest) := match rest with
      | '.' :: rest => spanDigits rest
      | rest => ([], rest)
    if whole.isEmpty ∧ fraction.isEmpty then none
    else
      (exponent? rest).map fun exponent ↦
        nearestReal (digitsValue (whole ++ fraction)) (exponent - fraction.length)

/-- The number that a text spells. -/
def real? (text : String) : Option Float :=
  match text.toList with
  | '-' :: rest => (unsignedReal? rest).map fun value ↦ -value
  | '+' :: rest => unsignedReal? rest
  | rest => unsignedReal? rest

end StompBroker.Text
