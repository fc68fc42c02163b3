import StompBroker.Logging.Output

/-!
# Log plans as documents

A plan may be spelt as a document with the members `service`, `dir`, `level`, `json`, `ansi` and
`api`. A member that is left out, or that is not of its kind, has the preset value; a `dir` without
a value stands for a log without files.
-/

set_option autoImplicit false

namespace StompBroker

/-- The plan that a document spells. -/
def LogPlan.ofJson (document : Json) : LogPlan :=
  let preset : LogPlan := {}
  let text? (name : String) : Option String := (document.member? name).bind Json.string?
  let switch (name : String) (preset : Bool) : Bool :=
    ((document.member? name).bind Json.bool?).getD preset
  { service := (text? "service").getD preset.service
    directory := match document.member? "dir" with
      | some .null => none
      | _ => (text? "dir").or preset.directory
    level := ((text? "level").bind Level.parse?).getD preset.level
    json := switch "json" preset.json
    colour := switch "ansi" preset.colour
    hasRequestFile := switch "api" preset.hasRequestFile }

end StompBroker
