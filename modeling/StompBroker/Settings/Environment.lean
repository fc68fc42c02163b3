import StompBroker.Settings.Tree
import StompBroker.Text.Blank
import StompBroker.Text.Real
import StompBroker.Text.Split

/-!
# Settings from the environment

A variable whose name starts with `MSGSRV_`, in letters of either case, sets one setting: two
underscores or a point in the rest of its name lead into a section. Its value is read as a truth
value, a number, a quoted text, a list in brackets or a section in braces, and stands for itself if
it is none of these.
-/

set_option autoImplicit false

namespace StompBroker.Settings

/-- Where the names of its variables start. -/
def variableStart : String := "msgsrv_"

/-- A blank in a value. -/
def isValueBlank (c : Char) : Bool :=
  c == ' ' || c == '\t' || c == '\n' || c == '\r' || c == '\x0c'

/-- A character that ends a word. -/
def endsWord (c : Char) : Bool := [',', '\x7b', '\x7d', '[', ']'].contains c

/-- A character of a name in braces. -/
def isNameChar (c : Char) : Bool := c.isAlphanum || c == '_' || c == '-'

/-- The rest behind blanks. -/
def skipValueBlanks (text : List Char) : List Char := text.dropWhile isValueBlank

/-- The character that a letter behind a backslash stands for. -/
def escape? (letter : Char) : Option Char :=
  [('b', '\x08'), ('t', '\t'), ('n', '\n'), ('f', '\x0c'), ('r', '\r'), ('"', '"'),
    ('\\', '\\')].lookup letter

/-- The code point of hexadecimal digits. -/
def codePoint? (digits : List Char) : Option Char := do
  let digit? (c : Char) : Option Nat :=
    if '0' ≤ c ∧ c ≤ '9' then some (c.toNat - 48)
    else if 'a' ≤ c ∧ c ≤ 'f' then some (c.toNat - 87)
    else if 'A' ≤ c ∧ c ≤ 'F' then some (c.toNat - 55)
    else none
  let point ← digits.foldlM (fun value c ↦ (digit? c).map (value * 16 + ·)) 0
  if h : point.isValidChar then some (Char.ofNatAux point h) else none

/-- A text in quotes behind the first of them. -/
def readQuoted (fuel : Nat) (taken : List Char) (text : List Char) :
    Option (String × List Char) :=
  match fuel with
  | 0 => none
  | fuel + 1 =>
    match text with
    | '"' :: rest => some (String.ofList taken.reverse, rest)
    | '\\' :: 'u' :: rest =>
      if rest.length < 4 then none
      else (codePoint? (rest.take 4)).bind fun c ↦ readQuoted fuel (c :: taken) (rest.drop 4)
    | '\\' :: 'U' :: rest =>
      if rest.length < 8 then none
      else (codePoint? (rest.take 8)).bind fun c ↦ readQuoted fuel (c :: taken) (rest.drop 8)
    | '\\' :: letter :: rest => (escape? letter).bind fun c ↦ readQuoted fuel (c :: taken) rest
    | c :: rest => readQuoted fuel (c :: taken) rest
    | [] => none

/-- What a word stands for. -/
def wordValue (word : String) : Json :=
  let asReal : Option Float := if word.contains '.' then Text.real? word else none
  match asReal with
  | some value => .number (.real value)
  | none =>
    match Text.natural? maxUnsigned64 word with
    | .ok value => .ofNat value
    | .error _ =>
      match Text.integer? maxSigned64 word with
      | .ok value => .ofInt value
      | .error _ => .string word

mutual

/-- A value at the front of a text, with the blanks around it. -/
def readEntry (fuel : Nat) (text : List Char) : Option (Json × List Char) :=
  match fuel with
  | 0 => none
  | fuel + 1 => do
    let (value, rest) ←
      match skipValueBlanks text with
      | 't' :: 'r' :: 'u' :: 'e' :: rest => some (.bool true, rest)
      | 'f' :: 'a' :: 'l' :: 's' :: 'e' :: rest => some (.bool false, rest)
      | '\x7b' :: rest => readPairs fuel [] rest
      | '[' :: rest => readEntries fuel [] rest
      | '"' :: rest =>
        (readQuoted (rest.length + 1) [] rest).map fun read ↦ (.string read.1, read.2)
      | '\'' :: c :: '\'' :: rest => some (.string (String.singleton c), rest)
      | '\'' :: _ => none
      | rest =>
        let (word, rest) := rest.span (!endsWord ·)
        some (wordValue (String.ofList (Text.trimChars word)), rest)
    return (value, skipValueBlanks rest)

/-- The entries of a list up to its end, after those already read (the last one first). -/
def readEntries (fuel : Nat) (read : List Json) (text : List Char) : Option (Json × List Char) :=
  match fuel with
  | 0 => none
  | fuel + 1 =>
    match text with
    | ']' :: rest => some (.array read.reverse, rest)
    | _ =>
      match readEntry fuel text with
      | some (value, ',' :: rest) => readEntries fuel (value :: read) rest
      | some (value, ']' :: rest) => some (.array (value :: read).reverse, rest)
      | _ => none

/-- The members of a section up to its end, after those already read. -/
def readPairs (fuel : Nat) (read : List (String × Json)) (text : List Char) :
    Option (Json × List Char) :=
  match fuel with
  | 0 => none
  | fuel + 1 =>
    match text with
    | '\x7d' :: rest => some (.object read, rest)
    | _ => do
      let (name, rest) ←
        match skipValueBlanks text with
        | '"' :: rest => readQuoted (rest.length + 1) [] rest
        | rest =>
          let (name, rest) := rest.span isNameChar
          if name.isEmpty then none else some (String.ofList name, rest)
      match skipValueBlanks rest with
      | '=' :: rest =>
        match readEntry fuel rest with
        | some (value, ',' :: rest) => readPairs fuel (Json.insertMember name value read) rest
        | some (value, '\x7d' :: rest) => some (.object (Json.insertMember name value read), rest)
        | _ => none
      | _ => none

end

/-- What the value of a variable stands for. -/
def variableValue (text : String) : Json :=
  match readEntry (2 * text.length + 2) text.toList with
  | some (value, []) => value
  | _ => .string text

/-- The name of a variable without its start. -/
def settingName? (name : String) : Option String :=
  let start := variableStart.toList
  let name := name.toList
  if (name.take start.length).map Char.toLower = start then
    some (String.ofList (name.drop start.length))
  else none

/-- The sections that a name leads through: two underscores are a point. -/
def pathOf : List Char → List Char
  | '_' :: '_' :: rest => '.' :: pathOf rest
  | c :: rest => c :: pathOf rest
  | [] => []

/-- A value below the sections of a path; the path ends at an empty name. -/
def nest (value : Json) : List String → Json
  | [] => value
  | name :: rest => if name.isEmpty then value else .object [(name, nest value rest)]

/-- The settings of all variables as a tree. -/
def environmentTree (environment : List (String × String)) : Json :=
  environment.foldl (fun tree entry ↦
    match settingName? entry.1 with
    | none => tree
    | some name =>
      match nest (variableValue entry.2) (Text.split '.' (String.ofList (pathOf name.toList))) with
      | .object members => overlay tree (.object members)
      | _ => tree)
    (.object [])

end StompBroker.Settings
