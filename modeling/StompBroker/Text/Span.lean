/-!
# Lengths of time

A length of time is written in whole milliseconds below a second, and in seconds from then on, with
as many decimal places as it needs.
-/

set_option autoImplicit false

namespace StompBroker.Text

/-- The digits of so many thousandths, without zeros at the end. -/
def thousandths (count : Nat) : String :=
  let digits := (toString (1000 + count)).toList.drop 1
  String.ofList (digits.reverse.dropWhile (· == '0')).reverse

/-- A number of milliseconds as a length of time. -/
def span (millis : Nat) : String :=
  if millis = 0 then "0ns"
  else if millis < 1000 then toString millis ++ "ms"
  else if millis % 1000 = 0 then toString (millis / 1000) ++ "s"
  else toString (millis / 1000) ++ "." ++ thousandths (millis % 1000) ++ "s"

end StompBroker.Text
