import StompBroker.Failure
import StompBroker.Text.Blank
import StompBroker.Text.Decimal
import StompBroker.Text.Split

/-!
# What is logged

A `LogFilter` is a list of directives. A directive lets records up to a level through whose target
starts in a certain way; of the directives that fit a target, the one with the longest start
decides, and of several with the same start the last.

A text spells directives with commas between them: a level, a target with a level, or a target
alone, which stands for all levels. What is none of these is passed over.
-/

set_option autoImplicit false

namespace StompBroker

/-- Lets the records of some targets through. -/
structure LogDirective where
  /-- How the targets start. -/
  start : String := ""
  /-- The last level that passes; none passes without it. -/
  level : Option Level
  deriving DecidableEq, Repr

/-- Which records are logged. -/
structure LogFilter where
  directives : List LogDirective
  deriving DecidableEq, Repr

namespace Level

/-- A letter of ASCII in lower case. -/
def lower (name : String) : String := String.ofList (name.toList.map Char.toLower)

/-- The level of a name, in any case, or of its number. -/
def parse? (name : String) : Option Level :=
  match Text.natural? maxUnsigned64 name with
  | .ok number => all.find? fun level ↦ level.verbosity == number
  | .error _ => all.find? fun level ↦ lower level.text == lower name

end Level

namespace LogDirective

/-- The last level that a text lets through. -/
def level? (text : String) : Option (Option Level) :=
  if Level.lower text == "off" || (Text.natural? 0 text).toOption == some 0 then some none
  else (Level.parse? text).map some

/-- A character that a directive may start with. -/
def isStart (c : Char) : Bool := c.isAlphanum || 0x80 ≤ c.toNat || ['_', ':', '-'].contains c

/-- A text that may be a target, perhaps with a span in brackets behind it. A record belongs to no
span, so that such a target is that of no record. -/
def isTarget (text : String) : Bool :=
  match Text.splitOnce? '[' text with
  | none => true
  | some (_, span) => span.toList.getLast? == some ']'

/-- The directive that a text spells. Blanks are part of a target, and no level has any. -/
def parse? (text : String) : Option LogDirective :=
  let trimmed := (Text.trim text).toList
  if !trimmed.head?.elim false (fun c ↦ c = '[' || isStart c) then none
  else
    match Text.splitOnce? '=' text with
    | none =>
      match level? text with
      | some level => some { level }
      | none => if isTarget text then some { start := text, level := some .trace } else none
    | some (target, level) =>
      if Text.trim text != text || !isTarget target then none
      else if level.isEmpty then some { start := target, level := some .trace }
      else (level? level).map fun level ↦ { start := target, level }

end LogDirective

namespace LogFilter

/-- The filter that a text spells; without a directive, errors are let through. -/
def parse (text : String) : LogFilter :=
  match (Text.split ',' text).filterMap LogDirective.parse? with
  | [] => ⟨[{ level := some .error }]⟩
  | directives => ⟨directives⟩

/-- The filter that lets everything up to a level through. -/
def upTo (level : Level) : LogFilter := ⟨[{ level := some level }]⟩

/-- The more specific of two directives, the later one if there is no difference. -/
def choose (chosen : Option LogDirective) (directive : LogDirective) : Option LogDirective :=
  match chosen with
  | none => some directive
  | some other =>
    if other.start.utf8ByteSize ≤ directive.start.utf8ByteSize then some directive else some other

/-- Records with a target and a level are logged. -/
def enables (filter : LogFilter) (target : String) (level : Level) : Bool :=
  let fitting := filter.directives.filter fun directive ↦ Text.startsWith directive.start target
  match fitting.foldl choose none with
  | none => false
  | some directive =>
    directive.level.elim false fun most ↦ level.verbosity ≤ most.verbosity

end LogFilter

end StompBroker
