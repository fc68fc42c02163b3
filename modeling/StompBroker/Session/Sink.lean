import StompBroker.Failure
import StompBroker.Text.Span

/-!
# The write half of a connection

A `Sink` stands for what the peer does with what is written to it: `transfer` says for each write
whether it is taken after some time, refused, or never finished, and `ending` what becomes of an
attempt to close. Writes go one after the other; a write that waits for an earlier one, or takes too
long itself, runs into its deadline. `Sink.write` computes all of that from the instant at which the
sink becomes free.
-/

set_option autoImplicit false

namespace StompBroker

/-- What the peer does with one write. -/
inductive Transfer where
  /-- Takes it after so many milliseconds. -/
  | takes (delay : Nat)
  | refuses (reason : String)
  /-- Leaves it unfinished. -/
  | stalls
  deriving DecidableEq, Repr

/-- What the peer does when its connection is closed. -/
inductive Ending where
  | closes
  | refuses
  | stalls
  deriving DecidableEq, Repr

/-- The write half of a connection. -/
structure Sink where
  transfer : Nat → Transfer := fun _ ↦ .takes 0
  ending : Ending := .closes
  /-- How many writes have begun. -/
  begun : Nat := 0
  closed : Bool := false
  /-- The peer no longer listens. -/
  deaf : Bool := false

/-- A sink that does the same with every write but the first few, which it takes at once. -/
def Sink.after (first : Nat) (transfer : Transfer) (ending : Ending) : Sink :=
  { transfer := fun begun ↦ if begun < first then .takes 0 else transfer, ending }

/-- What became of a write. -/
inductive WriteOutcome where
  | written
  | refused (reason : String)
  | timedOut
  deriving DecidableEq, Repr

/-- The failure of a write that had so many milliseconds. -/
def WriteOutcome.problem? (millis : Nat) : WriteOutcome → Option Failure
  | written => none
  | refused reason => some (.deliveryFailed reason)
  | timedOut => some (.deliveryFailed ("write timed out after " ++ Text.span millis))

namespace Sink

/-- Why a sink that has the peer's attention refuses a write. -/
def refusal? (sink : Sink) : Option String :=
  if sink.closed then some "sink closed"
  else if sink.deaf then some "receiver dropped"
  else none

/-- Writes once the sink is free at `freeAt`, no later than at `deadline`: the outcome, and when the
sink is free again. -/
def write (sink : Sink) (freeAt deadline : Nat) : WriteOutcome × Nat × Sink :=
  if deadline < freeAt then (.timedOut, freeAt, sink)
  else
    let after := { sink with begun := sink.begun + 1 }
    match sink.transfer sink.begun with
    | .refuses reason => (.refused reason, freeAt, after)
    | .stalls => (.timedOut, deadline, after)
    | .takes delay =>
      if deadline < freeAt + delay then (.timedOut, deadline, after)
      else
        match sink.refusal? with
        | some reason => (.refused reason, freeAt + delay, after)
        | none => (.written, freeAt + delay, after)

/-- Closes the sink and tells whether the peer saw it. -/
def close (sink : Sink) : Bool × Sink :=
  match sink.ending with
  | .closes => (!sink.deaf, { sink with closed := true })
  | .refuses | .stalls => (false, sink)

end Sink

end StompBroker
