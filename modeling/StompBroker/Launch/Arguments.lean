import StompBroker.Logging.Banner
import StompBroker.Text.Split

/-!
# The command line

A command line sets `LaunchOptions`, or asks for the help or the version instead. Its words count
from left to right, so that a request for help is answered only if nothing in front of it is wrong.
A value stands in the next word, after an equals sign, or directly behind the letter of its option;
no option may occur twice.

An option may get its value from the environment if the command line does not set it.
-/

set_option autoImplicit false

namespace StompBroker

/-- What a command line sets. -/
structure LaunchOptions where
  /-- The file with the settings. -/
  config : Option String := none
  bindAddress : Option String := none
  databasePath : Option String := none
  cacheUrl : Option String := none
  logLevel : Option String := none
  /-- Neither colours nor a banner. -/
  plain : Bool := false
  deriving DecidableEq, Repr

/-- What a command line asks for. -/
inductive Invocation where
  | run (options : LaunchOptions)
  | help
  | version
  deriving DecidableEq, Repr

/-- What is wrong with a command line. -/
inductive ArgumentProblem where
  | unexpected (word : String)
  | missingValue (option : String)
  | unwantedValue (option : String)
  | repeated (option : String)
  deriving DecidableEq, Repr

/-- The wording of the problem. -/
def ArgumentProblem.message : ArgumentProblem → String
  | unexpected word => "unexpected argument '" ++ word ++ "' found"
  | missingValue option =>
    "a value is required for '--" ++ option ++ "' but none was supplied"
  | unwantedValue option => "unexpected value for '--" ++ option ++ "' found"
  | repeated option => "the argument '--" ++ option ++ "' cannot be used multiple times"

/-- An option with a value. -/
inductive ValueOption where
  | config
  | bindAddress
  | databasePath
  | cacheUrl
  | logLevel
  deriving DecidableEq, Repr

namespace ValueOption

/-- All options with values. -/
def all : List ValueOption := [config, bindAddress, databasePath, cacheUrl, logLevel]

/-- The name of the option. -/
def name : ValueOption → String
  | config => "config"
  | bindAddress => "bind-address"
  | databasePath => "db-path"
  | cacheUrl => "redis-url"
  | logLevel => "log-level"

/-- The letter of the option, if it has one. -/
def letter? : ValueOption → Option Char
  | config => some 'c'
  | logLevel => some 'l'
  | _ => none

/-- What the option is for. -/
def purpose : ValueOption → String
  | config => "Configuration file (YAML)"
  | bindAddress => "Override Server.Host/Port, e.g. 0.0.0.0:6010"
  | databasePath => "Override Database.Path"
  | cacheUrl => "Override Redis.Url"
  | logLevel => "Override Log.Level"

/-- The value that is set. -/
def value? (options : LaunchOptions) : ValueOption → Option String
  | config => options.config
  | bindAddress => options.bindAddress
  | databasePath => options.databasePath
  | cacheUrl => options.cacheUrl
  | logLevel => options.logLevel

/-- The options with a value. -/
def put (options : LaunchOptions) (value : String) : ValueOption → LaunchOptions
  | config => { options with config := some value }
  | bindAddress => { options with bindAddress := some value }
  | databasePath => { options with databasePath := some value }
  | cacheUrl => { options with cacheUrl := some value }
  | logLevel => { options with logLevel := some value }

/-- Sets a value for the first time; the name of a file is not empty. -/
def set (options : LaunchOptions) (option : ValueOption) (value : String) :
    Except ArgumentProblem LaunchOptions :=
  if (option.value? options).isSome then .error (.repeated option.name)
  else if option = config ∧ value.isEmpty then .error (.missingValue option.name)
  else .ok (option.put options value)

end ValueOption

/-- An option without a value. -/
inductive Switch where
  | plain
  | help
  | version
  deriving DecidableEq, Repr

namespace Switch

/-- All options without values. -/
def all : List Switch := [plain, help, version]

/-- The name of the option. -/
def name : Switch → String
  | plain => "no-color"
  | help => "help"
  | version => "version"

/-- The letter of the option, if it has one. -/
def letter? : Switch → Option Char
  | plain => none
  | help => some 'h'
  | version => some 'V'

/-- What the option is for. -/
def purpose : Switch → String
  | plain => "Disable colored output and the banner"
  | help => "Print help"
  | version => "Print version"

end Switch

/-- What a word of a command line is. -/
inductive Word where
  /-- An option, and its value if that stands in the same word. -/
  | valued (option : ValueOption) (value : Option String)
  | switch (switch : Switch)
  /-- Ends the options. -/
  | ending
  | wrong (problem : ArgumentProblem)
  deriving DecidableEq, Repr

namespace Word

/-- A word that cannot be a value. -/
def isOption (word : String) : Bool := Text.startsWith "-" word && word != "-"

/-- The word with a name behind two dashes, and perhaps a value. -/
def ofName (word name : String) (value : Option String) : Word :=
  match ValueOption.all.find? (·.name == name), Switch.all.find? (·.name == name) with
  | some option, _ => valued option value
  | none, some found => if value.isSome then wrong (.unwantedValue name) else switch found
  | none, none => wrong (.unexpected word)

/-- The word with a letter behind a dash, and what follows it. -/
def ofLetter (word : String) (letter : Char) (rest : List Char) : Word :=
  let value := match rest with
    | [] => none
    | '=' :: value => some (String.ofList value)
    | value => some (String.ofList value)
  match ValueOption.all.find? (·.letter? == some letter),
      Switch.all.find? (·.letter? == some letter) with
  | some option, _ => valued option value
  | none, some found => switch found
  | none, none => wrong (.unexpected word)

/-- What a word is. -/
def ofText (word : String) : Word :=
  match word.toList with
  | ['-', '-'] => ending
  | '-' :: '-' :: text =>
    let text := String.ofList text
    match Text.splitOnce? '=' text with
    | some (name, value) => ofName word name (some value)
    | none => ofName word text none
  | '-' :: letter :: rest => ofLetter word letter rest
  | _ => wrong (.unexpected word)

end Word

namespace LaunchOptions

/-- Reads the words of a command line after the options that are set. -/
def read (options : LaunchOptions) : List String → Except ArgumentProblem Invocation
  | [] => .ok (.run options)
  | word :: rest =>
    match Word.ofText word with
    | .wrong problem => .error problem
    | .ending => rest.head?.elim (.ok (.run options)) fun next ↦ .error (.unexpected next)
    | .switch .help => .ok .help
    | .switch .version => .ok .version
    | .switch .plain =>
      if options.plain then .error (.repeated Switch.plain.name)
      else read { options with plain := true } rest
    | .valued option (some value) =>
      match option.set options value with
      | .error problem => .error problem
      | .ok options => read options rest
    | .valued option none =>
      match rest with
      | [] => .error (.missingValue option.name)
      | value :: rest =>
        if Word.isOption value then .error (.missingValue option.name)
        else
          match option.set options value with
          | .error problem => .error problem
          | .ok options => read options rest

end LaunchOptions

namespace Invocation

/-- The variable with the file of settings. -/
def configVariable : String := "MSGSRV_CONFIG"

/-- Reads a command line in an environment. -/
def read (environment : List (String × String)) (words : List String) :
    Except ArgumentProblem Invocation := do
  match ← LaunchOptions.read {} words with
  | .run options =>
    match options.config, environment.lookup configVariable with
    | none, some file => return .run (← ValueOption.config.set options file)
    | _, _ => return .run options
  | other => return other

/-- The name of the program with its version. -/
def versionText : String := "msgsrv " ++ ServiceInfo.version

/-- A line of the help, with the purpose in its column. -/
def helpLine (letter : Option Char) (name purpose : String) : String :=
  let start := letter.elim "      --" (fun letter ↦ "  -" ++ letter.toString ++ ", --") ++ name
  start ++ String.ofList (List.replicate (37 - start.length) ' ') ++ purpose

/-- The help. -/
def helpLines (environment : List (String × String)) : List String :=
  let file := (environment.lookup configVariable).getD ""
  let valued := ValueOption.all.map fun option ↦
    let place := String.ofList (option.name.toList.map fun c ↦ if c = '-' then '_' else c.toUpper)
    let note :=
      if option = .config then " [env: " ++ configVariable ++ "=" ++ file ++ "]" else ""
    helpLine option.letter? (option.name ++ " <" ++ place ++ ">") (option.purpose ++ note)
  ["Real-time messaging service", "", "Usage: msgsrv [OPTIONS]", "", "Options:"] ++ valued ++
    Switch.all.map fun switch ↦ helpLine switch.letter? switch.name switch.purpose

end Invocation

end StompBroker
