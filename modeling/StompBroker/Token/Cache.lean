import StompBroker.Clock

/-!
# The liveness cache

A cache of keys that expire. It holds the instant at which each key expires; a key that has expired
is dropped when it is looked up and not before, so `size` may count it. Times saturate at 64 bits.
-/

set_option autoImplicit false

namespace StompBroker

/-- Keys and the instants at which they expire. -/
structure LivenessCache where
  entries : List (String × Int) := []
  deriving DecidableEq, Repr

namespace LivenessCache

/-- No keys. -/
def empty : LivenessCache := {}

/-- How many keys there are, those included that have expired unnoticed. -/
def size (cache : LivenessCache) : Nat := cache.entries.length

/-- The cache without a key. -/
def drop (cache : LivenessCache) (key : String) : LivenessCache :=
  ⟨cache.entries.filter fun entry ↦ entry.1 != key⟩

/-- A lifetime in milliseconds. -/
def lifetime (seconds : Nat) : Int := min (min (seconds * 1000) maxUnsigned64 : Nat) maxInt64

/-- The instant at which a key with that lifetime expires. -/
def expiry (clock : Clock) (seconds : Nat) : Int := clamp64 (clock.millis + lifetime seconds)

/-- Keeps a key for so many seconds from now on. -/
def set (cache : LivenessCache) (clock : Clock) (key : String) (seconds : Nat) : LivenessCache :=
  ⟨(cache.drop key).entries ++ [(key, expiry clock seconds)]⟩

/-- Tells whether a key is there and has not expired. -/
def contains (cache : LivenessCache) (clock : Clock) (key : String) : Bool × LivenessCache :=
  match cache.entries.lookup key with
  | none => (false, cache)
  | some expiry => if clock.millis < expiry then (true, cache) else (false, cache.drop key)

/-- Removes a key and tells whether it was there. -/
def remove (cache : LivenessCache) (key : String) : Bool × LivenessCache :=
  ((cache.entries.lookup key).isSome, cache.drop key)

end LivenessCache

end StompBroker
