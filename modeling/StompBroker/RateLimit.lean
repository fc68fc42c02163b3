import StompBroker.Clock
import StompBroker.Json.Writer
import StompBroker.Settings.Basic

/-!
# Limiting the rate of requests

Every client has a bucket of tokens, full at first. A request takes one token and is refused without
one; tokens come back at a constant rate, up to the capacity of the bucket. A `RateLimiter` keeps
the buckets by client, and `sweep` forgets those that have not been refilled for a while.

Tokens are counted in any kind of number with the four operations and an order, so the same
definitions run on floating-point numbers and can be reasoned about with exact ones. Time that runs
backwards refills nothing. Where the clock has moved further than 64 bits can tell, a request or a
sweep breaks off and has no result; what it did to the limiter until then stays.
-/

set_option autoImplicit false

namespace StompBroker

instance floatNatCast : NatCast Float := ⟨Float.ofNat⟩

variable {α : Type}

/-- What a client has left. -/
structure Bucket (α : Type) where
  tokens : α
  /-- When tokens last came back. -/
  refilled : Int
  deriving Repr

/-- The buckets of all clients. -/
structure RateLimiter (α : Type) where
  enabled : Bool
  capacity : α
  refillPerSecond : α
  idleMillis : Int
  buckets : List (String × Bucket α) := []
  deriving Repr

namespace Bucket

/-- A bucket that was just filled. -/
def full (capacity : α) (now : Int) : Bucket α := ⟨capacity, now⟩

/-- The time since tokens last came back, if 64 bits can tell; it is negative if the clock ran
backwards. -/
def age? (bucket : Bucket α) (now : Int) : Option Int := checked64 (now - bucket.refilled)

variable [NatCast α] [Add α] [Sub α] [Mul α] [Div α] [LE α] [DecidableLE α]

/-- The lesser of an amount and the capacity. -/
def cap (capacity amount : α) : α := if amount ≤ capacity then amount else capacity

/-- The bucket with the tokens that came back in so many milliseconds. -/
def refill (capacity refillPerSecond : α) (now : Int) (elapsed : Nat) (bucket : Bucket α) :
    Bucket α :=
  if elapsed = 0 then bucket
  else
    { tokens := cap capacity
        (bucket.tokens + (elapsed : α) * refillPerSecond / ((1000 : Nat) : α))
      refilled := now }

/-- Takes a token if there is a whole one. -/
def take (bucket : Bucket α) : Bool × Bucket α :=
  if ((1 : Nat) : α) ≤ bucket.tokens then
    (true, { bucket with tokens := bucket.tokens - ((1 : Nat) : α) })
  else (false, bucket)

/-- A request at an instant: whether it is admitted, and the bucket after it. -/
def request (capacity refillPerSecond : α) (now : Int) (bucket : Bucket α) :
    Option Bool × Bucket α :=
  match bucket.age? now with
  | none => (none, bucket)
  | some age =>
    let (admitted, bucket) := (bucket.refill capacity refillPerSecond now age.toNat).take
    (some admitted, bucket)

end Bucket

namespace RateLimiter

/-- How many buckets there are. -/
def size (limiter : RateLimiter α) : Nat := limiter.buckets.length

/-- Puts a bucket in the place of a client's. -/
def putBucket (client : String) (bucket : Bucket α) :
    List (String × Bucket α) → List (String × Bucket α)
  | [] => [(client, bucket)]
  | (other, kept) :: rest =>
    if other = client then (client, bucket) :: rest
    else (other, kept) :: putBucket client bucket rest

/-- The buckets that were refilled within the window, up to the first one whose age 64 bits cannot
tell, with all from there on; and whether there was none such. -/
def retain (window now : Int) : List (String × Bucket α) → Bool × List (String × Bucket α)
  | [] => (true, [])
  | entry :: rest =>
    match entry.2.age? now with
    | none => (false, entry :: rest)
    | some age =>
      let (finished, kept) := retain window now rest
      (finished, if age < window then entry :: kept else kept)

/-- Forgets the clients whose buckets were not refilled for a while, and tells how many. -/
def sweep (limiter : RateLimiter α) (clock : Clock) : Option Nat × RateLimiter α :=
  let (finished, kept) := retain limiter.idleMillis clock.millis limiter.buckets
  (if finished then some (limiter.buckets.length - kept.length) else none,
    { limiter with buckets := kept })

variable [NatCast α] [Add α] [Sub α] [Mul α] [Div α] [LE α] [DecidableLE α]

/-- Lets a request of a client through if its bucket has a token. -/
def allow (limiter : RateLimiter α) (clock : Clock) (client : String) :
    Option Bool × RateLimiter α :=
  if limiter.enabled then
    let bucket := (limiter.buckets.lookup client).getD (.full limiter.capacity clock.millis)
    let (allowed, bucket) :=
      bucket.request limiter.capacity limiter.refillPerSecond clock.millis
    (allowed, { limiter with buckets := putBucket client bucket limiter.buckets })
  else (some true, limiter)

/-- A limiter with these settings and no clients. -/
def ofSettings (settings : RateSettings) : RateLimiter Float :=
  { enabled := settings.enabled
    capacity := Float.ofNat settings.capacity
    refillPerSecond := settings.refillPerSecond
    idleMillis := min (settings.idleSeconds * 1000 : Nat) maxInt64 }

/-- A line about the limiter. -/
def describe (limiter : RateLimiter Float) : String :=
  "RateLimiter \x7b enabled: " ++ toString limiter.enabled ++ ", capacity: " ++
    Json.realText limiter.capacity ++ ", buckets: " ++ toString limiter.size ++ " \x7d"

end RateLimiter

/-- Sweeps at regular intervals. -/
structure Sweeper where
  every : Nat
  /-- The time since the last sweep was due. -/
  waited : Nat := 0
  deriving DecidableEq, Repr

/-- Lets time pass: how many sweeps fall due, and the sweeper after them. -/
def Sweeper.pass (sweeper : Sweeper) (millis : Nat) : Nat × Sweeper :=
  let waited := sweeper.waited + millis
  (waited / sweeper.every, { sweeper with waited := waited % sweeper.every })

/-- Lets time pass for a limiter with or without a sweeper; the clock stands still meanwhile. A
sweep that breaks off is the last one. -/
def Sweeper.work {α : Type} (clock : Clock) (millis : Nat) (sweeper : Option Sweeper)
    (limiter : RateLimiter α) : Option Sweeper × RateLimiter α :=
  match sweeper with
  | none => (none, limiter)
  | some sweeper =>
    let (due, sweeper) := sweeper.pass millis
    if due = 0 then (some sweeper, limiter)
    else
      let (removed, limiter) := limiter.sweep clock
      (removed.map fun _ ↦ sweeper, limiter)

end StompBroker
