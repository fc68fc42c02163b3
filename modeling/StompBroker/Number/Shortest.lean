/-!
# The shortest decimal of a binary number

A finite binary floating-point number is `mantissa · 2 ^ exponent`, and every real number between
the midpoints to its two neighbours reads back as it. `Binary.shortest` finds the fewest decimal
digits that lie in that interval: on the grids of one digit, two digits and so on it looks at the
two grid points around the number, takes the first grid on which one of them lies inside, and of two
the nearer. The ends belong to the interval if the mantissa is even, because a tie reads as the even
neighbour.

All of it is exact arithmetic on natural numbers: a number is held as a numerator and a denominator.
-/

set_option autoImplicit false

namespace StompBroker.Number

/-- A positive number `mantissa · 2 ^ exponent`. Below a power of two the numbers lie twice as
dense, which `denserBelow` says. -/
structure Binary where
  mantissa : Nat
  exponent : Int
  denserBelow : Bool
  deriving DecidableEq, Repr

/-- A positive number `digits · 10 ^ exponent`. -/
structure Decimal where
  digits : Nat
  exponent : Int
  deriving DecidableEq, Repr

namespace Binary

/-- The leading bit of a mantissa of 53 bits. -/
def leading : Nat := 4503599627370496

/-- The parts of a finite, positive double-precision number. -/
def ofBits (bits : UInt64) : Binary :=
  let fraction : Nat := bits.toNat % leading
  let biased : Nat := bits.toNat / leading % 2048
  if biased = 0 then { mantissa := fraction, exponent := -1074, denserBelow := false }
  else
    { mantissa := leading + fraction, exponent := (biased : Int) - 1075,
      denserBelow := fraction == 0 && 1 < biased }

/-- The numerator, over `denominator`, of so many quarters of the last binary place. -/
def numerator (number : Binary) (quarters : Nat) : Nat := quarters * Nat.pow 2 number.exponent.toNat

/-- The denominator that all numerators of the number share. -/
def denominator (number : Binary) : Nat := 4 * Nat.pow 2 (-number.exponent).toNat

/-- The lower end of the interval that reads back, in quarters of the last binary place. -/
def lowQuarters (number : Binary) : Nat :=
  4 * number.mantissa - (if number.denserBelow then 1 else 2)

/-- The upper end of the interval that reads back, in quarters of the last binary place. -/
def highQuarters (number : Binary) : Nat := 4 * number.mantissa + 2

/-- The largest power of ten that is at most `above / below`, searched downwards from `start`. -/
def decimalOrder (above below : Nat) : Nat → Int → Int
  | 0, start => start
  | fuel + 1, start =>
    if below * Nat.pow 10 start.toNat ≤ above * Nat.pow 10 (-start).toNat then start
    else decimalOrder above below fuel (start - 1)

/-- The grid point `count · 10 ^ place` lies in the interval that reads back. -/
def readsBack (number : Binary) (count : Nat) (place : Int) : Bool :=
  let point := count * Nat.pow 10 place.toNat * number.denominator
  let scale := Nat.pow 10 (-place).toNat
  let low := number.numerator number.lowQuarters * scale
  let high := number.numerator number.highQuarters * scale
  if number.mantissa % 2 = 0 then low ≤ point && point ≤ high else low < point && point < high

/-- The point of the grid `10 ^ place` that reads back, the nearer one if there are two. -/
def onGrid? (number : Binary) (place : Int) : Option Decimal :=
  let value := number.numerator (4 * number.mantissa) * Nat.pow 10 (-place).toNat
  let unit := number.denominator * Nat.pow 10 place.toNat
  let below := value / unit
  let lowerReads := 0 < below && number.readsBack below place
  let upperReads := number.readsBack (below + 1) place
  let gapBelow := value - below * unit
  let gapAbove := (below + 1) * unit - value
  if lowerReads && upperReads then
    if gapBelow < gapAbove || (gapBelow == gapAbove && below % 2 == 0) then some ⟨below, place⟩
    else some ⟨below + 1, place⟩
  else if lowerReads then some ⟨below, place⟩
  else if upperReads then some ⟨below + 1, place⟩
  else none

/-- The first grid of `count` or more digits with a point that reads back. -/
def searchGrids (number : Binary) (order : Int) : Nat → Int → Decimal
  | 0, count => ⟨(number.numerator (4 * number.mantissa)) / number.denominator, order - count⟩
  | fuel + 1, count =>
    match number.onGrid? (order - count + 1) with
    | some decimal => decimal
    | none => searchGrids number order fuel (count + 1)

end Binary

namespace Decimal

/-- Moves the zeros at the end of the digits into the exponent. -/
def stripZeros (decimal : Decimal) : Nat → Decimal
  | 0 => decimal
  | fuel + 1 =>
    if decimal.digits % 10 = 0 ∧ decimal.digits ≠ 0 then
      stripZeros ⟨decimal.digits / 10, decimal.exponent + 1⟩ fuel
    else decimal

end Decimal

/-- The fewest digits that read back as the number, without zeros at their end. -/
def Binary.shortest (number : Binary) : Decimal :=
  let above := number.numerator (4 * number.mantissa)
  let order := Binary.decimalOrder above number.denominator 640 309
  (number.searchGrids order 17 1).stripZeros 20

end StompBroker.Number
