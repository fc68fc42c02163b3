/-!
# Escaped headers

From version 1.1 on a header name or value writes its backslashes, line ends and colons as pairs
that start with a backslash. `escape` writes the pairs; `unescape` reads them and refuses every
other character after a backslash, and a backslash at the end.
-/

set_option autoImplicit false

namespace StompBroker.Header

/-- Why a text is not an escaped header. -/
inductive EscapeError where
  /-- The character after a backslash has no meaning. -/
  | undefined (c : Char)
  /-- A backslash ends the text. -/
  | dangling
  deriving DecidableEq, Repr

namespace EscapeError

/-- The wording of the failure. -/
def message : EscapeError → String
  | undefined c => "undefined escape sequence \\" ++ String.singleton c
  | dangling => "dangling escape at end of header"

end EscapeError

/-- How one character is written. -/
def escapeChar : Char → List Char
  | '\\' => ['\\', '\\']
  | '\r' => ['\\', 'r']
  | '\n' => ['\\', 'n']
  | ':' => ['\\', 'c']
  | c => [c]

/-- The character that a letter after a backslash stands for. -/
def unescapeChar? : Char → Option Char
  | '\\' => some '\\'
  | 'r' => some '\r'
  | 'n' => some '\n'
  | 'c' => some ':'
  | _ => none

/-- Writes every character by `escapeChar`. -/
def escapeChars (chars : List Char) : List Char := chars.flatMap escapeChar

/-- Reads pairs off the front and puts what they stand for before what was already read. -/
def unescapeInto (read : List Char) : List Char → Except EscapeError (List Char)
  | [] => .ok read.reverse
  | ['\\'] => .error .dangling
  | '\\' :: c :: rest =>
    match unescapeChar? c with
    | some plain => unescapeInto (plain :: read) rest
    | none => .error (.undefined c)
  | c :: rest => unescapeInto (c :: read) rest

/-- The characters that an escaped text stands for. -/
def unescapeChars (chars : List Char) : Except EscapeError (List Char) := unescapeInto [] chars

/-- The escaped form of a header name or value. -/
def escape (text : String) : String := String.ofList (escapeChars text.toList)

/-- The header name or value of an escaped form. -/
def unescape (text : String) : Except EscapeError String :=
  (unescapeChars text.toList).map String.ofList

end StompBroker.Header
