/-!
# The SHA-256 digest

The digest of a message is computed over lists of bytes: the message is padded to whole blocks of
64 bytes, and the state of eight words passes through one compression for each block.
-/

namespace FlightRule.Digest

/-- The first 32 bits of the fractional parts of the square roots of the first eight primes. -/
def initialState : List UInt32 := [
  0x6a09e667, 0xbb67ae85, 0x3c6ef372, 0xa54ff53a, 0x510e527f, 0x9b05688c, 0x1f83d9ab, 0x5be0cd19]

/-- The first 32 bits of the fractional parts of the cube roots of the first 64 primes. -/
def roundConstants : List UInt32 := [
  0x428a2f98, 0x71374491, 0xb5c0fbcf, 0xe9b5dba5, 0x3956c25b, 0x59f111f1, 0x923f82a4, 0xab1c5ed5,
  0xd807aa98, 0x12835b01, 0x243185be, 0x550c7dc3, 0x72be5d74, 0x80deb1fe, 0x9bdc06a7, 0xc19bf174,
  0xe49b69c1, 0xefbe4786, 0x0fc19dc6, 0x240ca1cc, 0x2de92c6f, 0x4a7484aa, 0x5cb0a9dc, 0x76f988da,
  0x983e5152, 0xa831c66d, 0xb00327c8, 0xbf597fc7, 0xc6e00bf3, 0xd5a79147, 0x06ca6351, 0x14292967,
  0x27b70a85, 0x2e1b2138, 0x4d2c6dfc, 0x53380d13, 0x650a7354, 0x766a0abb, 0x81c2c92e, 0x92722c85,
  0xa2bfe8a1, 0xa81a664b, 0xc24b8b70, 0xc76c51a3, 0xd192e819, 0xd6990624, 0xf40e3585, 0x106aa070,
  0x19a4c116, 0x1e376c08, 0x2748774c, 0x34b0bcb5, 0x391c0cb3, 0x4ed8aa4a, 0x5b9cca4f, 0x682e6ff3,
  0x748f82ee, 0x78a5636f, 0x84c87814, 0x8cc70208, 0x90befffa, 0xa4506ceb, 0xbef9a3f7, 0xc67178f2]

/-- Turn a word to the right by some bits. -/
def rotate (word : UInt32) (bits : UInt32) : UInt32 :=
  (word >>> bits) ||| (word <<< (32 - bits))

/-- The bytes of a number, the highest first, in the given count. -/
def bytesOfNat (count number : Nat) : List UInt8 :=
  (List.range count).reverse.map fun place => UInt8.ofNat (number >>> (8 * place))

/-- The message with a one bit, zeros up to a whole block, and its length in bits. -/
def padded (message : List UInt8) : List UInt8 :=
  let length := message.length
  message ++ 0x80 :: List.replicate ((119 - length % 64) % 64) 0 ++ bytesOfNat 8 (8 * length)

/-- Cut a list into pieces of four, each joined to a word; a shorter end is left out. -/
def words : List UInt8 → List UInt32
  | a :: b :: c :: d :: rest =>
    ((a.toUInt32 <<< 24) ||| (b.toUInt32 <<< 16) ||| (c.toUInt32 <<< 8) ||| d.toUInt32) ::
      words rest
  | _ => []

/-- The sixteen words of a block continued by a number of further words, the latest first. -/
def extend : Nat → List UInt32 → List UInt32
  | 0, latest => latest
  | count + 1, latest =>
    let word (back : Nat) : UInt32 := latest.getD (back - 1) 0
    let far := word 15
    let near := word 2
    let farMix := rotate far 7 ^^^ rotate far 18 ^^^ (far >>> 3)
    let nearMix := rotate near 17 ^^^ rotate near 19 ^^^ (near >>> 10)
    extend count ((word 16 + farMix + word 7 + nearMix) :: latest)

/-- The 64 words that a block of sixteen is extended to. -/
def schedule (block : List UInt32) : List UInt32 :=
  (extend 48 block.reverse).reverse

/-- One round of the compression with the sum of its constant and its word. -/
def round (state : List UInt32) (addend : UInt32) : List UInt32 :=
  match state with
  | [a, b, c, d, e, f, g, h] =>
    let choice := (e &&& f) ^^^ (~~~e &&& g)
    let majority := (a &&& b) ^^^ (a &&& c) ^^^ (b &&& c)
    let first := h + (rotate e 6 ^^^ rotate e 11 ^^^ rotate e 25) + choice + addend
    let second := (rotate a 2 ^^^ rotate a 13 ^^^ rotate a 22) + majority
    [first + second, a, b, c, d + first, e, f, g]
  | _ => state

/-- The state after a block. -/
def compress (state block : List UInt32) : List UInt32 :=
  let rounds := List.zipWith (· + ·) roundConstants (schedule block)
  List.zipWith (· + ·) state (rounds.foldl round state)

/-- The state after all blocks of sixteen words; a shorter end is left out. -/
def absorb (state : List UInt32) (message : List UInt32) : List UInt32 :=
  if message.length < 16 then state
  else absorb (compress state (message.take 16)) (message.drop 16)
termination_by message.length
decreasing_by
  rw [List.length_drop]
  omega

/-- The 32 bytes of the digest of a message. -/
def sha256 (message : List UInt8) : List UInt8 :=
  (absorb initialState (words (padded message))).flatMap fun word => bytesOfNat 4 word.toNat

end FlightRule.Digest
