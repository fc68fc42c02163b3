import StompBroker.Text.Plain

/-!
# Texts in quotation marks

A quoted text shows every character: those that do not show by themselves are written by their code
points, and the quotation mark and the backslash with a backslash in front.
-/

set_option autoImplicit false

namespace StompBroker.Text

/-- The digits of a number in hexadecimal. -/
def hexDigits (value : Nat) : String := String.ofList (Nat.toDigits 16 value)

/-- A character as it stands between quotation marks. -/
def quotedChar (c : Char) : String :=
  if c = '\x00' then "\\0"
  else if c = '\t' then "\\t"
  else if c = '\n' then "\\n"
  else if c = '\r' then "\\r"
  else if c = '"' then "\\\""
  else if c = '\\' then "\\\\"
  else if isPlain c then String.ofList [c]
  else "\\u\x7b" ++ hexDigits c.toNat ++ "\x7d"

/-- A text in quotation marks. -/
def quoted (text : String) : String := "\"" ++ String.join (text.toList.map quotedChar) ++ "\""

end StompBroker.Text
