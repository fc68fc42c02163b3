/-!
# Cutting texts

`splitOnce?` cuts a text at the first occurrence of a character, `split` at every one, and
`stripStart?` and `stripEnd?` take a known text off one end; `contains` finds it anywhere. `split`
gives one part more than there are separators, so the parts joined by the separator are the text
again.
-/

set_option autoImplicit false

namespace StompBroker.Text

/-- The characters before and after the first separator. -/
def splitCharsOnce? (separator : Char) (chars : List Char) : Option (List Char × List Char) :=
  match chars.dropWhile (· != separator) with
  | [] => none
  | _ :: rest => some (chars.takeWhile (· != separator), rest)

/-- The texts before and after the first separator. -/
def splitOnce? (separator : Char) (text : String) : Option (String × String) :=
  (splitCharsOnce? separator text.toList).map fun parts ↦
    (String.ofList parts.1, String.ofList parts.2)

/-- The parts between separators; `part` holds the characters of the first one, the last first. -/
def splitCharsFrom (separator : Char) (part : List Char) : List Char → List (List Char)
  | [] => [part.reverse]
  | c :: rest =>
    if c = separator then part.reverse :: splitCharsFrom separator [] rest
    else splitCharsFrom separator (c :: part) rest

/-- The parts of a text between its separators. -/
def split (separator : Char) (text : String) : List String :=
  (splitCharsFrom separator [] text.toList).map String.ofList

/-- What follows `start` in a text that starts with it. -/
def stripStart? (start text : String) : Option String :=
  (start.toList.isPrefixOf? text.toList).map String.ofList

/-- What precedes `ending` in a text that ends with it. -/
def stripEnd? (ending text : String) : Option String :=
  (ending.toList.isSuffixOf? text.toList).map String.ofList

/-- A text starts with another. -/
def startsWith (start text : String) : Bool := start.toList.isPrefixOf text.toList

/-- A text ends with another. -/
def endsWith (ending text : String) : Bool := ending.toList.isSuffixOf text.toList

/-- Characters occur next to each other among others. -/
def occurs (part : List Char) : List Char → Bool
  | [] => part.isEmpty
  | c :: rest => part.isPrefixOf (c :: rest) || occurs part rest

/-- A text is part of another. -/
def contains (part text : String) : Bool := occurs part.toList text.toList

/-- Characters up to the end of the first occurrence of others, or all of them. -/
def upToChars (part : List Char) : List Char → List Char
  | [] => []
  | c :: rest => if part.isPrefixOf (c :: rest) then part else c :: upToChars part rest

/-- A text up to the end of the first occurrence of another. -/
def upTo (part text : String) : String := String.ofList (upToChars part.toList text.toList)

end StompBroker.Text
