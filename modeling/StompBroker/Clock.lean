import StompBroker.Number.Bounds

/-!
# The clock

Every deadline, token and access log reads one clock, in milliseconds since the epoch as a signed
number of 64 bits. It moves only by `advance` and `set`, and may move back.
-/

set_option autoImplicit false

namespace StompBroker

/-- An integer as 64 bits hold it. -/
def wrap64 (value : Int) : Int := Int.bmod value (maxUnsigned64 + 1)

/-- The nearest number that 64 bits hold. -/
def clamp64 (value : Int) : Int := max minInt64 (min value maxInt64)

/-- A number that a signed word of 64 bits holds. -/
def InWord (value : Int) : Prop := minInt64 ≤ value ∧ value ≤ maxInt64

instance (value : Int) : Decidable (InWord value) := inferInstanceAs (Decidable (_ ∧ _))

/-- The number, if a word holds it. -/
def checked64 (value : Int) : Option Int := if InWord value then some value else none

/-- An instant, in milliseconds since the epoch. -/
structure Clock where
  millis : Int
  deriving DecidableEq, Repr

namespace Clock

/-- The instant in whole seconds, rounded down. -/
def seconds (clock : Clock) : Int := clock.millis / 1000

/-- The instant so many milliseconds later. -/
def advance (clock : Clock) (delta : Int) : Clock := ⟨wrap64 (clock.millis + delta)⟩

/-- The given instant. -/
def set (_ : Clock) (millis : Int) : Clock := ⟨millis⟩

end Clock

end StompBroker
