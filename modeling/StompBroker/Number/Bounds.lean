/-!
# The bounds of machine words

The largest numbers that words of a certain size hold, without a sign and with one.
-/

set_option autoImplicit false

namespace StompBroker

/-- The largest number of 16 bits. -/
def maxUnsigned16 : Nat := 65535

/-- The largest number of 32 bits. -/
def maxUnsigned32 : Nat := 4294967295

/-- The largest number of 64 bits, which is also the largest length. -/
def maxUnsigned64 : Nat := 18446744073709551615

/-- The largest number of 128 bits. -/
def maxUnsigned128 : Nat := 340282366920938463463374607431768211455

/-- The largest signed number of 32 bits. -/
def maxSigned32 : Nat := 2147483647

/-- The largest signed number of 64 bits. -/
def maxSigned64 : Nat := 9223372036854775807

/-- The largest signed number of 128 bits. -/
def maxSigned128 : Nat := 170141183460469231731687303715884105727

/-- The largest signed number of 64 bits, as an integer. -/
def maxInt64 : Int := 9223372036854775807

/-- The least signed number of 64 bits. -/
def minInt64 : Int := -9223372036854775808

end StompBroker
