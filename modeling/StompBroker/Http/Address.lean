import StompBroker.Text.Split

/-!
# Network addresses

An `Address` of version four or six, as a peer is known by. Every address has one canonical text: of
an address of version six the longest run of at least two zero words is left out, the first of
several that are equally long, and an address that stands for one of version four ends like one.
-/

set_option autoImplicit false

namespace StompBroker

/-- The address of a peer. -/
inductive Address where
  /-- Four octets. -/
  | v4 (octets : List Nat)
  /-- Eight words of sixteen bits. -/
  | v6 (words : List Nat)
  deriving DecidableEq, Repr

namespace Address

/-- A number of at most `most` digits in a base. -/
def digits? (base most : Nat) (text : String) : Option Nat :=
  let digit? (c : Char) : Option Nat :=
    let value :=
      if '0' ≤ c ∧ c ≤ '9' then c.toNat - 48
      else if 'a' ≤ c ∧ c ≤ 'f' then c.toNat - 87
      else if 'A' ≤ c ∧ c ≤ 'F' then c.toNat - 55
      else base
    if value < base then some value else none
  if text.isEmpty ∨ most < text.length then none
  else text.toList.foldlM (fun value c ↦ (digit? c).map (value * base + ·)) 0

/-- An octet, without zeros in front. -/
def octet? (text : String) : Option Nat :=
  match digits? 10 3 text with
  | some value =>
    if value ≤ 255 ∧ (text.length = 1 ∨ !Text.startsWith "0" text) then some value else none
  | none => none

/-- The four octets of a text. -/
def octets? (text : String) : Option (List Nat) :=
  let parts := Text.split '.' text
  if parts.length = 4 then parts.mapM octet? else none

/-- The words of groups with colons between them; only the last group may be four octets. -/
def groups? : List String → Option (List Nat)
  | [] => some []
  | [last] =>
    match digits? 16 4 last, octets? last with
    | some word, _ => some [word]
    | none, some [a, b, c, d] => some [a * 256 + b, c * 256 + d]
    | none, _ => none
  | group :: rest => do return (← digits? 16 4 group) :: (← groups? rest)

/-- The words of one side of a gap. -/
def side? (text : List Char) : Option (List Nat) :=
  if text.isEmpty then some [] else groups? (Text.split ':' (String.ofList text))

/-- The texts before and after the first two colons in a row. -/
def cutGap? (before : List Char) : List Char → Option (List Char × List Char)
  | ':' :: ':' :: rest => some (before.reverse, rest)
  | c :: rest => cutGap? (c :: before) rest
  | [] => none

/-- The eight words of a text. -/
def words? (text : String) : Option (List Nat) :=
  match cutGap? [] text.toList with
  | none => (side? text.toList).filter (·.length = 8)
  | some (left, right) => do
    let front ← side? left
    let back ← side? right
    if left.contains '.' ∨ 7 < front.length + back.length then none
    else some (front ++ List.replicate (8 - front.length - back.length) 0 ++ back)

/-- The address in a text with a port. -/
def ofSocketText? (text : String) : Option Address :=
  match Text.stripStart? "[" text with
  | some rest => do
    let (inner, _) ← Text.splitOnce? ']' rest
    let bare := match Text.splitOnce? '%' inner with
      | some (bare, _) => bare
      | none => inner
    return .v6 (← words? bare)
  | none => do
    let (host, _) ← Text.splitOnce? ':' text
    return .v4 (← octets? host)

/-- Four octets with points between them. -/
def octetsText (octets : List Nat) : String := ".".intercalate (octets.map toString)

/-- A word in as few hexadecimal digits as it needs. -/
def wordText (word : Nat) : String := String.ofList (Nat.toDigits 16 word)

/-- Words with colons between them. -/
def wordsText (words : List Nat) : String := ":".intercalate (words.map wordText)

/-- The length of the run of zeros at the front. -/
def zeroRun (words : List Nat) : Nat := (words.takeWhile (· == 0)).length

/-- Where the longest run of zeros begins, and its length: the first of the longest. -/
def longestGap (words : List Nat) : Nat × Nat :=
  (List.range words.length).foldl (fun (best : Nat × Nat) start ↦
    let length := zeroRun (words.drop start)
    if best.2 < length then (start, length) else best) (0, 0)

/-- The canonical text of an address. -/
def text : Address → String
  | v4 octets => octetsText octets
  | v6 [0, 0, 0, 0, 0, 0xFFFF, high, low] =>
    "::ffff:" ++ octetsText [high / 256, high % 256, low / 256, low % 256]
  | v6 words =>
    let (start, length) := longestGap words
    if length < 2 then wordsText words
    else wordsText (words.take start) ++ "::" ++ wordsText (words.drop (start + length))

end Address

end StompBroker
