import StompBroker.Text.Utf8

/-!
# SHA-512

The hash function of FIPS 180-4 with 512 bits. A message is padded to whole blocks of 128 octets
(`pad`), each block is expanded to eighty words (`schedule`), and eighty rounds mix them into eight
chaining words (`compress`).
-/

set_option autoImplicit false

namespace StompBroker.Sha512

/-- The first 64 fractional bits of the cube roots of the first eighty primes. -/
def roundConstants : Array UInt64 :=
  #[
    0x428a2f98d728ae22, 0x7137449123ef65cd, 0xb5c0fbcfec4d3b2f, 0xe9b5dba58189dbbc,
    0x3956c25bf348b538, 0x59f111f1b605d019, 0x923f82a4af194f9b, 0xab1c5ed5da6d8118,
    0xd807aa98a3030242, 0x12835b0145706fbe, 0x243185be4ee4b28c, 0x550c7dc3d5ffb4e2,
    0x72be5d74f27b896f, 0x80deb1fe3b1696b1, 0x9bdc06a725c71235, 0xc19bf174cf692694,
    0xe49b69c19ef14ad2, 0xefbe4786384f25e3, 0x0fc19dc68b8cd5b5, 0x240ca1cc77ac9c65,
    0x2de92c6f592b0275, 0x4a7484aa6ea6e483, 0x5cb0a9dcbd41fbd4, 0x76f988da831153b5,
    0x983e5152ee66dfab, 0xa831c66d2db43210, 0xb00327c898fb213f, 0xbf597fc7beef0ee4,
    0xc6e00bf33da88fc2, 0xd5a79147930aa725, 0x06ca6351e003826f, 0x142929670a0e6e70,
    0x27b70a8546d22ffc, 0x2e1b21385c26c926, 0x4d2c6dfc5ac42aed, 0x53380d139d95b3df,
    0x650a73548baf63de, 0x766a0abb3c77b2a8, 0x81c2c92e47edaee6, 0x92722c851482353b,
    0xa2bfe8a14cf10364, 0xa81a664bbc423001, 0xc24b8b70d0f89791, 0xc76c51a30654be30,
    0xd192e819d6ef5218, 0xd69906245565a910, 0xf40e35855771202a, 0x106aa07032bbd1b8,
    0x19a4c116b8d2d0c8, 0x1e376c085141ab53, 0x2748774cdf8eeb99, 0x34b0bcb5e19b48a8,
    0x391c0cb3c5c95a63, 0x4ed8aa4ae3418acb, 0x5b9cca4f7763e373, 0x682e6ff3d6b2b8a3,
    0x748f82ee5defb2fc, 0x78a5636f43172f60, 0x84c87814a1f0ab72, 0x8cc702081a6439ec,
    0x90befffa23631e28, 0xa4506cebde82bde9, 0xbef9a3f7b2c67915, 0xc67178f2e372532b,
    0xca273eceea26619c, 0xd186b8c721c0c207, 0xeada7dd6cde0eb1e, 0xf57d4f7fee6ed178,
    0x06f067aa72176fba, 0x0a637dc5a2c898a6, 0x113f9804bef90dae, 0x1b710b35131c471b,
    0x28db77f523047d84, 0x32caab7b40c72493, 0x3c9ebe0a15c9bebc, 0x431d67c49c100d4c,
    0x4cc5d4becb3e42b6, 0x597f299cfc657e2a, 0x5fcb6fab3ad6faec, 0x6c44198c4a475817]

/-- The first 64 fractional bits of the square roots of the first eight primes. -/
def initialWords : Array UInt64 :=
  #[
    0x6a09e667f3bcc908, 0xbb67ae8584caa73b, 0x3c6ef372fe94f82b, 0xa54ff53a5f1d36f1,
    0x510e527fade682d1, 0x9b05688c2b3e6c1f, 0x1f83d9abfb41bd6b, 0x5be0cd19137e2179]

/-- Rotates a word towards its low end. -/
def rotateRight (word : UInt64) (places : UInt64) : UInt64 :=
  (word >>> places) ||| (word <<< (64 - places))

/-- A number in so many octets, the most significant first. -/
def bigEndian (octets value : Nat) : Bytes :=
  (List.range octets).reverse.map fun place ↦ UInt8.ofNat (value / Nat.pow 256 place)

/-- A word from eight octets, the most significant first. -/
def wordOf (octets : Bytes) : UInt64 :=
  octets.foldl (fun word octet ↦ word * 256 + octet.toUInt64) 0

/-- The message with its end mark and its length, in whole blocks. -/
def pad (message : Bytes) : Bytes :=
  message ++ 0x80 :: (List.replicate ((239 - message.length % 128) % 128) 0x00 ++
    bigEndian 16 (8 * message.length))

/-- A block expanded to eighty words. -/
def schedule (block : Bytes) : Array UInt64 :=
  let start := (List.range 16).toArray.map fun i ↦ wordOf ((block.drop (8 * i)).take 8)
  (List.range 64).foldl
    (fun words t ↦
      let early := words.getD (t + 1) 0
      let late := words.getD (t + 14) 0
      let small := rotateRight early 1 ^^^ rotateRight early 8 ^^^ (early >>> 7)
      let large := rotateRight late 19 ^^^ rotateRight late 61 ^^^ (late >>> 6)
      words.push (large + words.getD (t + 9) 0 + small + words.getD t 0))
    start

/-- The working words of a round. -/
structure Working where
  a : UInt64
  b : UInt64
  c : UInt64
  d : UInt64
  e : UInt64
  f : UInt64
  g : UInt64
  h : UInt64

/-- One round with its constant and its word of the schedule. -/
def round (words : Working) (constant scheduled : UInt64) : Working :=
  let mixedE := rotateRight words.e 14 ^^^ rotateRight words.e 18 ^^^ rotateRight words.e 41
  let choice := (words.e &&& words.f) ^^^ ((~~~ words.e) &&& words.g)
  let first := words.h + mixedE + choice + constant + scheduled
  let mixedA := rotateRight words.a 28 ^^^ rotateRight words.a 34 ^^^ rotateRight words.a 39
  let majority := (words.a &&& words.b) ^^^ (words.a &&& words.c) ^^^ (words.b &&& words.c)
  { a := first + (mixedA + majority), b := words.a, c := words.b, d := words.c
    e := words.d + first, f := words.e, g := words.f, h := words.g }

/-- Mixes one block into the chaining words. -/
def compress (chain : Array UInt64) (block : Bytes) : Array UInt64 :=
  let words := schedule block
  let start : Working :=
    { a := chain.getD 0 0, b := chain.getD 1 0, c := chain.getD 2 0, d := chain.getD 3 0
      e := chain.getD 4 0, f := chain.getD 5 0, g := chain.getD 6 0, h := chain.getD 7 0 }
  let last := (List.range 80).foldl
    (fun state t ↦ round state (roundConstants.getD t 0) (words.getD t 0)) start
  #[chain.getD 0 0 + last.a, chain.getD 1 0 + last.b, chain.getD 2 0 + last.c,
    chain.getD 3 0 + last.d, chain.getD 4 0 + last.e, chain.getD 5 0 + last.f,
    chain.getD 6 0 + last.g, chain.getD 7 0 + last.h]

/-- Mixes so many blocks, one after the other. -/
def compressAll (chain : Array UInt64) : Nat → Bytes → Array UInt64
  | 0, _ => chain
  | blocks + 1, message => compressAll (compress chain (message.take 128)) blocks (message.drop 128)

/-- The hash of a message, 64 octets. -/
def digest (message : Bytes) : Bytes :=
  let padded := pad message
  (compressAll initialWords (padded.length / 128) padded).toList.flatMap fun word ↦
    bigEndian 8 word.toNat

/-- The octets of a block of the hash. -/
def blockLength : Nat := 128

end StompBroker.Sha512

namespace StompBroker.Hmac

/-- A key as long as a block: hashed first if it is longer. -/
def blockKey (key : Bytes) : Bytes :=
  let short := if Sha512.blockLength < key.length then Sha512.digest key else key
  short ++ List.replicate (Sha512.blockLength - short.length) 0x00

/-- The keyed hash of RFC 2104 over SHA-512. -/
def digest (key message : Bytes) : Bytes :=
  let key := blockKey key
  Sha512.digest ((key.map (· ^^^ 0x5C)) ++ Sha512.digest ((key.map (· ^^^ 0x36)) ++ message))

end StompBroker.Hmac
