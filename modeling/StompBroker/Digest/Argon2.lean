import StompBroker.Digest.Blake2
import StompBroker.Number.Bounds

/-!
# Argon2

The password hash of RFC 9106 in its three variants. `fill` writes a memory of blocks, each mixed
from the one before it and from another one; which one that is depends on the memory itself, or only
on the position (`Variant.isIndependent`). The last block of every lane then makes the tag.

A block is 128 words. The memory is as many lanes as the parameters say, each cut into four slices;
blocks are counted lane by lane.
-/

set_option autoImplicit false

namespace StompBroker.Argon2

/-- How blocks are chosen: by their contents, by their positions, or first the one and then the
other. -/
inductive Variant where
  | dependent
  | independent
  | hybrid
  deriving DecidableEq, Repr

/-- The number of a variant. -/
def Variant.code : Variant → Nat
  | dependent => 0
  | independent => 1
  | hybrid => 2

/-- What a hash depends on besides the password and the salt. -/
structure Params where
  variant : Variant := .hybrid
  /-- In the older version later passes overwrite blocks instead of mixing into them. -/
  isOld : Bool := false
  /-- The memory in blocks, before it is rounded down to whole slices. -/
  memory : Nat := 19456
  passes : Nat := 2
  lanes : Nat := 1
  tagLength : Nat := 32
  data : Bytes := []
  deriving Repr

/-- A block of 128 words. -/
abbrev Block := Array UInt64

/-! ### Mixing -/

/-- Twice the product of the low halves of two words, added to their sum. -/
@[inline] def blend (a b : UInt64) : UInt64 :=
  a + b + 2 * (a &&& 0xFFFFFFFF) * (b &&& 0xFFFFFFFF)

/-- Mixes four words and goes on with them. -/
@[inline] def mix {α : Type} (a b c d : UInt64)
    (next : UInt64 → UInt64 → UInt64 → UInt64 → α) : α :=
  let a := blend a b
  let d := Sha512.rotateRight (d ^^^ a) 32
  let c := blend c d
  let b := Sha512.rotateRight (b ^^^ c) 24
  let a := blend a b
  let d := Sha512.rotateRight (d ^^^ a) 16
  let c := blend c d
  let b := Sha512.rotateRight (b ^^^ c) 63
  next a b c d

/-- Mixes sixteen words of a block: pairs of neighbours that are `stride` apart. -/
def mixSixteen (stride : Nat) (block : Block) (start : Nat) : Block :=
  let place (k : Nat) : Nat := start + k / 2 * stride + k % 2
  let word (k : Nat) : UInt64 := block.getD (place k) 0
  mix (word 0) (word 4) (word 8) (word 12) fun a0 b0 c0 d0 ↦
  mix (word 1) (word 5) (word 9) (word 13) fun a1 b1 c1 d1 ↦
  mix (word 2) (word 6) (word 10) (word 14) fun a2 b2 c2 d2 ↦
  mix (word 3) (word 7) (word 11) (word 15) fun a3 b3 c3 d3 ↦
  mix a0 b1 c2 d3 fun a0 b1 c2 d3 ↦
  mix a1 b2 c3 d0 fun a1 b2 c3 d0 ↦
  mix a2 b3 c0 d1 fun a2 b3 c0 d1 ↦
  mix a3 b0 c1 d2 fun a3 b0 c1 d2 ↦
  let block := block.setIfInBounds (place 0) a0
  let block := block.setIfInBounds (place 1) a1
  let block := block.setIfInBounds (place 2) a2
  let block := block.setIfInBounds (place 3) a3
  let block := block.setIfInBounds (place 4) b0
  let block := block.setIfInBounds (place 5) b1
  let block := block.setIfInBounds (place 6) b2
  let block := block.setIfInBounds (place 7) b3
  let block := block.setIfInBounds (place 8) c0
  let block := block.setIfInBounds (place 9) c1
  let block := block.setIfInBounds (place 10) c2
  let block := block.setIfInBounds (place 11) c3
  let block := block.setIfInBounds (place 12) d0
  let block := block.setIfInBounds (place 13) d1
  let block := block.setIfInBounds (place 14) d2
  block.setIfInBounds (place 15) d3

/-- The sum of two blocks without carry. -/
def addBlocks (x y : Block) : Block := Array.zipWith (· ^^^ ·) x y

/-- Mixes two blocks: the rows of their sum, then its columns. -/
def compress (x y : Block) : Block :=
  let sum := addBlocks x y
  let rows := (List.range 8).foldl (fun block i ↦ mixSixteen 2 block (16 * i)) sum
  let columns := (List.range 8).foldl (fun block i ↦ mixSixteen 16 block (2 * i)) rows
  addBlocks columns sum

/-! ### Hashes of any length -/

/-- The digests of a chain, half of each kept, up to `size` octets. -/
def stretchFrom (size : Nat) (digest : Bytes) : Bytes :=
  if _h : size ≤ 64 then Blake2.digest size digest
  else
    let next := Blake2.digest 64 digest
    next.take 32 ++ stretchFrom (size - 32) next
termination_by size
decreasing_by omega

/-- A digest of any length. -/
def stretch (size : Nat) (message : Bytes) : Bytes :=
  let seeded := Blake2.littleEndian 4 size ++ message
  if size ≤ 64 then Blake2.digest size seeded
  else
    let first := Blake2.digest 64 seeded
    first.take 32 ++ stretchFrom (size - 32) first

/-! ### The memory -/

/-- How many blocks a slice of a lane has. -/
def Params.sliceLength (params : Params) : Nat := params.memory / (4 * params.lanes)

/-- How many blocks a lane has. -/
def Params.laneLength (params : Params) : Nat := 4 * params.sliceLength

/-- A position in the filling of the memory. -/
structure Position where
  pass : Nat
  slice : Nat
  lane : Nat
  index : Nat

/-- The block at a position does not depend on the password. -/
def Variant.isIndependent (variant : Variant) (pass slice : Nat) : Bool :=
  match variant with
  | .dependent => false
  | .independent => true
  | .hybrid => pass == 0 && slice < 2

/-- The block that chooses 128 blocks by their positions. -/
def addressBlock (params : Params) (position : Position) (counter : Nat) : Block :=
  let zero : Block := Array.replicate 128 0
  let given := [position.pass, position.lane, position.slice, params.laneLength * params.lanes,
    params.passes, params.variant.code, counter]
  let input : Block := ((given.map UInt64.ofNat) ++ List.replicate 121 0).toArray
  compress zero (compress zero input)

/-- Where the other block for a position is: its lane and its place there. -/
def reference (params : Params) (position : Position) (random : UInt64) : Nat × Nat :=
  let half := maxUnsigned32 + 1
  let low := random.toNat % half
  let high := random.toNat / half
  let isFirst := position.pass == 0
  let lane := if isFirst && position.slice == 0 then position.lane else high % params.lanes
  let isSame := lane == position.lane
  let before :=
    if isFirst then position.slice * params.sliceLength
    else params.laneLength - params.sliceLength
  let area :=
    if isSame then before + position.index - 1
    else before - if position.index = 0 then 1 else 0
  let back := area * (low * low / half) / half
  let start :=
    if isFirst || position.slice == 3 then 0 else (position.slice + 1) * params.sliceLength
  (lane, (start + (area - 1 - back)) % params.laneLength)

/-- Where the filling stands: the memory, and the block that chooses positions. -/
structure Filling where
  memory : Array Block
  addresses : Block := #[]

/-- Fills one block. -/
def fillBlock (params : Params) (position : Position) (filling : Filling) : Filling :=
  let place := position.slice * params.sliceLength + position.index
  let column := position.lane * params.laneLength
  let previous := column + (if place = 0 then params.laneLength else place) - 1
  let isIndependent := params.variant.isIndependent position.pass position.slice
  let isStale := position.index % 128 = 0 ∨ filling.addresses.isEmpty
  let addresses :=
    if isIndependent && decide isStale then
      addressBlock params position (position.index / 128 + 1)
    else filling.addresses
  let last := filling.memory.getD previous #[]
  let random :=
    if isIndependent then addresses.getD (position.index % 128) 0 else last.getD 0 0
  let (lane, other) := reference params position random
  let mixed := compress last (filling.memory.getD (lane * params.laneLength + other) #[])
  let mixed :=
    if position.pass = 0 || params.isOld then mixed
    else addBlocks mixed (filling.memory.getD (column + place) #[])
  { memory := filling.memory.setIfInBounds (column + place) mixed, addresses }

/-- Fills one slice of one lane. -/
def fillSlice (params : Params) (pass slice : Nat) (memory : Array Block) (lane : Nat) :
    Array Block :=
  let start := if pass = 0 && slice = 0 then 2 else 0
  ((List.range (params.sliceLength - start)).foldl
    (fun filling i ↦ fillBlock params ⟨pass, slice, lane, start + i⟩ filling)
    { memory := memory }).memory

/-- Fills the memory. -/
def fill (params : Params) (memory : Array Block) : Array Block :=
  (List.range params.passes).foldl (fun memory pass ↦
    (List.range 4).foldl (fun memory slice ↦
      (List.range params.lanes).foldl (fillSlice params pass slice) memory) memory) memory

/-- A text behind its length. -/
def counted (text : Bytes) : Bytes := Blake2.littleEndian 4 text.length ++ text

/-- The digest of everything that the hash depends on. -/
def seed (params : Params) (password salt : Bytes) : Bytes :=
  let numbers := [params.lanes, params.tagLength, params.memory, params.passes,
    if params.isOld then 0x10 else 0x13, params.variant.code]
  Blake2.digest 64 (numbers.flatMap (Blake2.littleEndian 4) ++ counted password ++ counted salt ++
    counted [] ++ counted params.data)

/-- The memory with the first two blocks of every lane. -/
def firstBlocks (params : Params) (seed : Bytes) : Array Block :=
  let block (lane place : Nat) : Block :=
    Blake2.words (stretch 1024
      (seed ++ Blake2.littleEndian 4 place ++ Blake2.littleEndian 4 lane))
  (List.range params.lanes).foldl (fun memory lane ↦
    (memory.setIfInBounds (lane * params.laneLength) (block lane 0)).setIfInBounds
      (lane * params.laneLength + 1) (block lane 1))
    (Array.replicate (params.laneLength * params.lanes) (Array.replicate 128 0))

/-- The hash of a password. -/
def hash (params : Params) (password salt : Bytes) : Bytes :=
  let memory := fill params (firstBlocks params (seed params password salt))
  let final := (List.range params.lanes).foldl (fun sum lane ↦
    addBlocks sum (memory.getD (lane * params.laneLength + params.laneLength - 1) #[]))
    (Array.replicate 128 0)
  stretch params.tagLength (Blake2.octets final)

end StompBroker.Argon2
