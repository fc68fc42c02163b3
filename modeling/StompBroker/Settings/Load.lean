import StompBroker.Settings.Environment
import StompBroker.Yaml.Reader

/-!
# Loading settings

Settings come in three layers: the preset values, a file, and the environment. A later layer goes
over the earlier ones setting by setting, and the result has to pass `Settings.validate`.
-/

set_option autoImplicit false

namespace StompBroker.Settings

/-- The settings in a file; a missing file and an empty one set nothing. -/
def fileTree? : Option Bytes → Option Json
  | none => some (.object [])
  | some text =>
    match Yaml.read? text with
    | some .empty => some (.object [])
    | some (.node (.object members)) => some (.object members)
    | _ => none

/-- The settings of a file and an environment. -/
def load (file : Option Bytes) (environment : List (String × String)) : Except Failure Settings :=
  let preset := ({} : Settings).toTree
  match fileTree? file with
  | none => .error (.configuration "the file is not a tree of settings")
  | some tree =>
    match ofTree? (overlay (overlay preset tree) (environmentTree environment)) with
    | none => .error (.configuration "a setting has a value of the wrong kind")
    | some settings => settings.validate.map fun _ ↦ settings

end StompBroker.Settings
