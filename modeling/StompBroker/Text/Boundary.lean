import StompBroker.Text.Utf8

/-!
# Texts cut by position

A text in memory is its octets, and what is kept of a long one ends at a position. There are
positions to which a text cannot be cut: before its first octet, behind its last, and inside a
character. A `Misstep` is the attempt.

`boundaryFrom` steps back from a limit until no character is cut. `cutOff` keeps the front of a text
up to there, and `cutShort` also says how many octets are missing.
-/

set_option autoImplicit false

namespace StompBroker.Text

/-- What goes wrong when a text is cut by position. -/
inductive Misstep where
  | beforeStart
  | insideCharacter
  deriving DecidableEq, Repr

/-- No character is cut at this position: it is one of the two ends, or behind it stands the first
octet of a character. -/
def isBoundary (octets : Bytes) (position : Nat) : Bool :=
  if position = 0 then true
  else
    match octets[position]? with
    | none => position == octets.length
    | some octet => !Utf8.isTail octet

/-- Steps back from a position to one at which no character is cut. -/
def boundaryFrom (octets : Bytes) : Nat → Except Misstep Nat
  | 0 => if isBoundary octets 0 then .ok 0 else .error .beforeStart
  | position + 1 =>
    if isBoundary octets (position + 1) then .ok (position + 1) else boundaryFrom octets position

/-- The text of the octets before a position. -/
def front (octets : Bytes) (position : Nat) : Except Misstep String :=
  if isBoundary octets position then
    match Utf8.decode? (octets.take position) with
    | some text => .ok text
    | none => .error .insideCharacter
  else .error .insideCharacter

/-- How many octets there are from a position on. -/
def behind (octets : Bytes) (position : Nat) : Except Misstep Nat :=
  if octets.length < position then .error .beforeStart else .ok (octets.length - position)

/-- A text without what is beyond a limit. -/
def cutOff (limit : Nat) (text : String) : Except Misstep String :=
  let octets := Utf8.encode text
  if limit < octets.length then do
    let stop ← boundaryFrom octets limit
    front octets stop
  else return text

/-- A text without what is beyond a limit, and a word about how much that is. -/
def cutShort (limit : Nat) (text : String) : Except Misstep String :=
  let octets := Utf8.encode text
  if octets.length ≤ limit then return text
  else do
    let stop ← boundaryFrom octets limit
    let kept ← front octets stop
    let lost ← behind octets stop
    return kept ++ "[truncated " ++ toString lost ++ " bytes]"

end StompBroker.Text
