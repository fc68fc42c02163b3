import StompBroker.Failure
import StompBroker.Text.Split

/-!
# Route patterns

A pattern is a path whose segments are literals or captures, a capture being a name in braces.
`RoutePattern.match?` compares a path segment by segment: literals have to agree and a capture takes
any segment that is not empty. The value of a name that occurs twice is that of its last segment.

`Routes` keeps patterns in the order of their registration, and the first that matches decides.
-/

set_option autoImplicit false

namespace StompBroker

/-- A segment of a pattern. -/
inductive Segment where
  | literal (text : String)
  | capture (name : String)
  deriving DecidableEq, Repr

/-- A path with captures. -/
structure RoutePattern where
  text : String
  segments : List Segment
  deriving DecidableEq, Repr

namespace RoutePattern

/-- The name in the braces of a segment that is wrapped in them. -/
def braced? (segment : String) : Option String :=
  (Text.stripStart? "\x7b" segment).bind (Text.stripEnd? "\x7d")

/-- The segment that a part of a pattern stands for. -/
def readSegment (pattern segment : String) : Except Failure Segment :=
  match braced? segment with
  | some name =>
    if name.isEmpty then .error (.validation ("empty capture in route pattern: " ++ pattern))
    else .ok (.capture name)
  | none => .ok (.literal segment)

/-- Reads a pattern, which has to start with a slash. -/
def parse (pattern : String) : Except Failure RoutePattern :=
  match Text.stripStart? "/" pattern with
  | none => .error (.validation ("route pattern must start with '/': " ++ pattern))
  | some path =>
    ((Text.split '/' path).mapM (readSegment pattern)).map fun segments ↦ ⟨pattern, segments⟩

/-- Gives a name a value, over an earlier one. -/
def assign (name value : String) : List (String × String) → List (String × String)
  | [] => [(name, value)]
  | (other, kept) :: rest =>
    if other = name then (name, value) :: rest else (other, kept) :: assign name value rest

/-- The captured values when the parts of a path fit the segments, after those in `captured`. -/
def matchSegments (captured : List (String × String)) :
    List Segment → List String → Option (List (String × String))
  | [], [] => some captured
  | .literal text :: segments, part :: parts =>
    if text = part then matchSegments captured segments parts else none
  | .capture name :: segments, part :: parts =>
    if part.isEmpty then none else matchSegments (assign name part captured) segments parts
  | _, _ => none

/-- The captured values when a path fits the pattern. -/
def match? (pattern : RoutePattern) (path : String) : Option (List (String × String)) :=
  (Text.stripStart? "/" path).bind fun rest ↦
    matchSegments [] pattern.segments (Text.split '/' rest)

end RoutePattern

/-- Patterns and what they lead to, in the order of registration. -/
structure Routes (α : Type) where
  entries : List (RoutePattern × α) := []

namespace Routes

variable {α : Type}

/-- No patterns. -/
def empty : Routes α := {}

/-- Adds a pattern behind all others. -/
def register (routes : Routes α) (pattern : String) (handler : α) : Except Failure (Routes α) :=
  (RoutePattern.parse pattern).map fun parsed ↦ ⟨routes.entries ++ [(parsed, handler)]⟩

/-- Adds patterns one after the other, passing over those that are no patterns, and tells what was
wrong with each. -/
def registerAll (routes : Routes α) : List (String × α) → List (Option Failure) × Routes α
  | [] => ([], routes)
  | (pattern, handler) :: rest =>
    match routes.register pattern handler with
    | .ok routes => (registerAll routes rest).map (none :: ·) id
    | .error failure => (registerAll routes rest).map (some failure :: ·) id

/-- What the first pattern that fits a path leads to, with the captured values. -/
def resolve? (routes : Routes α) (path : String) : Option (α × List (String × String)) :=
  routes.entries.findSome? fun entry ↦
    (entry.1.match? path).map fun captured ↦ (entry.2, captured)

/-- How many patterns there are. -/
def size (routes : Routes α) : Nat := routes.entries.length

end Routes

end StompBroker
