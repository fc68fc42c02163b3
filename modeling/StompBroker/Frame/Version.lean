import StompBroker.Text.Blank
import StompBroker.Text.Split

/-!
# Protocol versions

`Version` lists the protocol versions from the oldest to the newest. `Version.negotiate` chooses
the newest version that a client's list names; a client that names none accepts all of them. Headers
are escaped from version 1.1 on.
-/

set_option autoImplicit false

namespace StompBroker

/-- A protocol version, the oldest first. -/
inductive Version where
  | v10
  | v11
  | v12
  deriving DecidableEq, Repr

namespace Version

/-- The version's number. -/
def text : Version → String
  | v10 => "1.0"
  | v11 => "1.1"
  | v12 => "1.2"

/-- The version of a number. -/
def ofText? (number : String) : Option Version :=
  if number == "1.0" then some v10
  else if number == "1.1" then some v11
  else if number == "1.2" then some v12
  else none

/-- The place of a version in time. -/
def age : Version → Nat
  | v10 => 0
  | v11 => 1
  | v12 => 2

/-- The newer of two versions. -/
def newer (left right : Version) : Version := if left.age < right.age then right else left

/-- Frames of this version escape their headers. -/
def escapesHeaders (version : Version) : Bool := v11.age ≤ version.age

/-- The newest version of a list. -/
def newest? (versions : List Version) : Option Version :=
  versions.foldl (fun best version ↦ some (best.elim version (newer · version))) none

/-- The newest version that a comma-separated list names, or the newest of all without a list. -/
def negotiate : Option String → Option Version
  | none => some v12
  | some list => newest? ((Text.split ',' list).filterMap fun entry ↦ ofText? (Text.trim entry))

end Version

end StompBroker
