/-!
# White space

`isBlank` is the Unicode property `White_Space`; `trim` removes its characters from both ends of a
text. Header values, version lists and form fields are trimmed by this rule, so it covers more than
the white space of ASCII.
-/

set_option autoImplicit false

namespace StompBroker.Text

/-- The Unicode property `White_Space`. -/
def isBlank (c : Char) : Bool :=
  let point := c.toNat
  (0x09 ≤ point && point ≤ 0x0D) || point == 0x20 || point == 0x85 || point == 0xA0 ||
    point == 0x1680 || (0x2000 ≤ point && point ≤ 0x200A) || point == 0x2028 ||
    point == 0x2029 || point == 0x202F || point == 0x205F || point == 0x3000

/-- The characters without the blanks at either end. -/
def trimChars (chars : List Char) : List Char :=
  ((chars.dropWhile isBlank).reverse.dropWhile isBlank).reverse

/-- The text without the blanks at either end. -/
def trim (text : String) : String := String.ofList (trimChars text.toList)

/-- A text of blanks alone, the empty text included. -/
def allBlank (text : String) : Bool := text.toList.all isBlank

end StompBroker.Text
