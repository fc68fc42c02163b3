/-!
# Cutting texts to a size

`fitting` keeps as much of the front of a text as fits into so many octets, whole characters only. A
cut loses at most three octets against the limit, because no character has more than four.
-/

set_option autoImplicit false

namespace StompBroker.Text

/-- How many octets characters take. -/
def sizeOf (chars : List Char) : Nat :=
  chars.foldr (fun c size ↦ c.utf8Size + size) 0

/-- The characters at the front that fit into so many octets. -/
def fittingChars (limit : Nat) : List Char → List Char
  | [] => []
  | c :: rest =>
    if c.utf8Size ≤ limit then c :: fittingChars (limit - c.utf8Size) rest else []

/-- The front of a text that fits into so many octets. -/
def fitting (limit : Nat) (text : String) : String :=
  String.ofList (fittingChars limit text.toList)

/-- A text that says how many octets were cut off its end, if any were. -/
def shortened (limit : Nat) (text : String) : String :=
  if text.utf8ByteSize ≤ limit then text
  else
    let kept := fitting limit text
    kept ++ "[truncated " ++ toString (text.utf8ByteSize - kept.utf8ByteSize) ++ " bytes]"

end StompBroker.Text
