import StompBroker.Http.Address
import StompBroker.Number.Bounds
import StompBroker.Text.Decimal

/-!
# Network addresses with ports

A `SocketAddress` is where a service listens. Its text is an address and a port with a colon between
them; an address of version six stands in brackets, and may name the link that it belongs to.
-/

set_option autoImplicit false

namespace StompBroker

/-- An address and a port. -/
structure SocketAddress where
  host : Address
  /-- The link of an address of version six. -/
  scope : Nat := 0
  port : Nat
  deriving DecidableEq, Repr

namespace SocketAddress

/-- A number in plain digits. -/
def number? (bound : Nat) (text : String) : Option Nat :=
  if text.toList.all Char.isDigit then (Text.natural? bound text).toOption else none

/-- The number of a port. -/
def port? : String → Option Nat := number? maxUnsigned16

/-- The address in the text before the last bracket, and its link. -/
def inBrackets? (inner : String) : Option (List Nat × Nat) :=
  match Text.splitOnce? '%' inner with
  | none => (Address.words? inner).map fun words ↦ (words, 0)
  | some (bare, scope) => do return (← Address.words? bare, ← number? maxUnsigned32 scope)

/-- The address in a text. -/
def ofText? (text : String) : Option SocketAddress :=
  match Text.stripStart? "[" text with
  | some rest => do
    let (inner, behind) ← Text.splitOnce? ']' rest
    let (words, scope) ← inBrackets? inner
    return { host := .v6 words, scope, port := ← port? (← Text.stripStart? ":" behind) }
  | none => do
    let (host, port) ← Text.splitOnce? ':' text
    return { host := .v4 (← Address.octets? host), port := ← port? port }

/-- The text of an address. -/
def text (address : SocketAddress) : String :=
  let port := ":" ++ toString address.port
  match address.host with
  | .v4 _ => address.host.text ++ port
  | .v6 _ =>
    let scope := if address.scope = 0 then "" else "%" ++ toString address.scope
    "[" ++ address.host.text ++ scope ++ "]" ++ port

/-- The address belongs to this machine whatever its network, or stands for all addresses. -/
def isLocal (address : SocketAddress) : Bool :=
  match address.host with
  | .v4 octets => octets == [0, 0, 0, 0] || octets.head? == some 127
  | .v6 [0, 0, 0, 0, 0, 0xFFFF, high, low] => high / 256 = 127 || (high = 0 && low = 0)
  | .v6 words => words == List.replicate 8 0 || words == List.replicate 7 0 ++ [1]

end SocketAddress

end StompBroker
