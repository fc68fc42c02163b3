import StompBroker.Digest.Sha512
import StompBroker.Number.Bounds

/-!
# BLAKE2b

The hash function of RFC 7693 without a key, with a digest of up to 64 octets. Words are 64 bits and
come least significant octet first. A message is cut into blocks of 128 octets; `compress` mixes
each of them into eight chaining words, together with the count of octets so far.
-/

set_option autoImplicit false

namespace StompBroker.Blake2

/-- The order in which a round takes the words of a block. -/
def schedule : List (List Nat) :=
  [[0, 1, 2, 3, 4, 5, 6, 7, 8, 9, 10, 11, 12, 13, 14, 15],
    [14, 10, 4, 8, 9, 15, 13, 6, 1, 12, 0, 2, 11, 7, 5, 3],
    [11, 8, 12, 0, 5, 2, 15, 13, 10, 14, 3, 6, 7, 1, 9, 4],
    [7, 9, 3, 1, 13, 12, 11, 14, 2, 6, 5, 10, 4, 0, 15, 8],
    [9, 0, 5, 7, 2, 4, 10, 15, 14, 1, 11, 12, 6, 8, 3, 13],
    [2, 12, 6, 10, 0, 11, 8, 3, 4, 13, 7, 5, 15, 14, 1, 9],
    [12, 5, 1, 15, 14, 13, 4, 10, 0, 7, 6, 3, 9, 2, 8, 11],
    [13, 11, 7, 14, 12, 1, 3, 9, 5, 0, 15, 4, 8, 6, 2, 10],
    [6, 15, 14, 9, 11, 3, 0, 8, 12, 2, 13, 7, 1, 4, 10, 5],
    [10, 2, 8, 4, 7, 6, 1, 5, 15, 11, 9, 14, 3, 12, 13, 0],
    [0, 1, 2, 3, 4, 5, 6, 7, 8, 9, 10, 11, 12, 13, 14, 15],
    [14, 10, 4, 8, 9, 15, 13, 6, 1, 12, 0, 2, 11, 7, 5, 3]]

/-- The places that a round mixes: four columns, then four diagonals. -/
def places : List (Nat × Nat × Nat × Nat) :=
  [(0, 4, 8, 12), (1, 5, 9, 13), (2, 6, 10, 14), (3, 7, 11, 15),
    (0, 5, 10, 15), (1, 6, 11, 12), (2, 7, 8, 13), (3, 4, 9, 14)]

/-- A number in so many octets, the least significant first. -/
def littleEndian (octets value : Nat) : Bytes := (Sha512.bigEndian octets value).reverse

/-- The words of a text, eight octets each. -/
def words (text : Bytes) : Array UInt64 :=
  ((List.range (text.length / 8)).map fun i ↦
    Sha512.wordOf ((text.drop (8 * i)).take 8).reverse).toArray

/-- The octets of words. -/
def octets (words : Array UInt64) : Bytes :=
  words.toList.flatMap fun word ↦ littleEndian 8 word.toNat

/-- Mixes two message words into four places of the state. -/
def mix (state : Array UInt64) (place : Nat × Nat × Nat × Nat) (x y : UInt64) : Array UInt64 :=
  let (i, j, k, l) := place
  let a := state.getD i 0 + state.getD j 0 + x
  let d := Sha512.rotateRight (state.getD l 0 ^^^ a) 32
  let c := state.getD k 0 + d
  let b := Sha512.rotateRight (state.getD j 0 ^^^ c) 24
  let a := a + b + y
  let d := Sha512.rotateRight (d ^^^ a) 16
  let c := c + d
  let b := Sha512.rotateRight (b ^^^ c) 63
  (((state.setIfInBounds i a).setIfInBounds j b).setIfInBounds k c).setIfInBounds l d

/-- One round, which takes the words of a block in the given order. -/
def round (block state : Array UInt64) (order : List Nat) : Array UInt64 :=
  let word (place : Nat) : UInt64 := block.getD (order.getD place 0) 0
  (places.zipIdx).foldl
    (fun state entry ↦ mix state entry.1 (word (2 * entry.2)) (word (2 * entry.2 + 1))) state

/-- Mixes a block into the chaining words; `count` octets have been hashed with it. -/
def compress (chain block : Array UInt64) (count : Nat) (isLast : Bool) : Array UInt64 :=
  let start := chain ++ Sha512.initialWords
  let start := start.setIfInBounds 12 (start.getD 12 0 ^^^ UInt64.ofNat count)
  let start := start.setIfInBounds 13 (start.getD 13 0 ^^^ UInt64.ofNat (count / (maxUnsigned64 + 1)))
  let start := if isLast then start.setIfInBounds 14 (~~~ start.getD 14 0) else start
  let mixed := schedule.foldl (round block) start
  ((List.range 8).map fun i ↦
    chain.getD i 0 ^^^ mixed.getD i 0 ^^^ mixed.getD (i + 8) 0).toArray

/-- Hashes what is left of a message after `count` octets. -/
def absorb (fuel : Nat) (chain : Array UInt64) (count : Nat) (message : Bytes) : Array UInt64 :=
  match fuel with
  | 0 => chain
  | fuel + 1 =>
    if message.length ≤ 128 then
      let padded := message ++ List.replicate (128 - message.length) 0
      compress chain (words padded) (count + message.length) true
    else
      absorb fuel (compress chain (words (message.take 128)) (count + 128) false) (count + 128)
        (message.drop 128)

/-- The digest of a message, in so many octets. -/
def digest (size : Nat) (message : Bytes) : Bytes :=
  let first := Sha512.initialWords.getD 0 0 ^^^ UInt64.ofNat (0x01010000 + size)
  let start := Sha512.initialWords.setIfInBounds 0 first
  let chain := absorb (message.length / 128 + 1) start 0 message
  (octets chain).take size

end StompBroker.Blake2
