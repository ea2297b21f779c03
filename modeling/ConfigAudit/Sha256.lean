/-!
# The SHA-256 digest

The digest of a byte sequence: padding to blocks of 64 bytes, the message schedule of a block, and
the 64 rounds of compression, all on words of 32 bits that wrap.
-/

namespace ConfigAudit

namespace Sha256

/-- The round constants: the first 32 bits of the fractional parts of the cube roots of the first
64 primes. -/
def roundConstants : List UInt32 := [
  0x428a2f98, 0x71374491, 0xb5c0fbcf, 0xe9b5dba5, 0x3956c25b, 0x59f111f1, 0x923f82a4, 0xab1c5ed5,
  0xd807aa98, 0x12835b01, 0x243185be, 0x550c7dc3, 0x72be5d74, 0x80deb1fe, 0x9bdc06a7, 0xc19bf174,
  0xe49b69c1, 0xefbe4786, 0x0fc19dc6, 0x240ca1cc, 0x2de92c6f, 0x4a7484aa, 0x5cb0a9dc, 0x76f988da,
  0x983e5152, 0xa831c66d, 0xb00327c8, 0xbf597fc7, 0xc6e00bf3, 0xd5a79147, 0x06ca6351, 0x14292967,
  0x27b70a85, 0x2e1b2138, 0x4d2c6dfc, 0x53380d13, 0x650a7354, 0x766a0abb, 0x81c2c92e, 0x92722c85,
  0xa2bfe8a1, 0xa81a664b, 0xc24b8b70, 0xc76c51a3, 0xd192e819, 0xd6990624, 0xf40e3585, 0x106aa070,
  0x19a4c116, 0x1e376c08, 0x2748774c, 0x34b0bcb5, 0x391c0cb3, 0x4ed8aa4a, 0x5b9cca4f, 0x682e6ff3,
  0x748f82ee, 0x78a5636f, 0x84c87814, 0x8cc70208, 0x90befffa, 0xa4506ceb, 0xbef9a3f7, 0xc67178f2]

/-- The eight words between two blocks. -/
structure State where
  a : UInt32
  b : UInt32
  c : UInt32
  d : UInt32
  e : UInt32
  f : UInt32
  g : UInt32
  h : UInt32
deriving DecidableEq, Repr

/-- The words before the first block: the first 32 bits of the fractional parts of the square roots
of the first 8 primes. -/
def initial : State :=
  ⟨0x6a09e667, 0xbb67ae85, 0x3c6ef372, 0xa54ff53a, 0x510e527f, 0x9b05688c, 0x1f83d9ab, 0x5be0cd19⟩

/-- Rotate a word to the right by an amount between 1 and 31. -/
def rotate (word : UInt32) (amount : UInt32) : UInt32 :=
  (word >>> amount) ||| (word <<< (32 - amount))

/-- The bytes of a number below `2 ^ (8 * count)`, most significant first. -/
def bigEndian (count value : Nat) : List UInt8 :=
  (List.range count).reverse.map fun place => UInt8.ofNat (value >>> (8 * place))

/-- A message with its padding: a one bit, zeros, and the length in bits, filling whole blocks. -/
def pad (message : List UInt8) : List UInt8 :=
  let zeros := (119 - message.length % 64) % 64
  message ++ 0x80 :: List.replicate zeros 0 ++ bigEndian 8 (8 * message.length)

/-- The words of a byte sequence, four bytes each, most significant first. -/
def words : List UInt8 → List UInt32
  | a :: b :: c :: d :: rest =>
    ((a.toUInt32 <<< 24) ||| (b.toUInt32 <<< 16) ||| (c.toUInt32 <<< 8) ||| d.toUInt32) ::
      words rest
  | _ => []

/-- The next word of the message schedule, computed from the last sixteen, oldest first. -/
def nextWord (window : List UInt32) : UInt32 :=
  let old := window.getD 0 0
  let second := window.getD 1 0
  let middle := window.getD 9 0
  let recent := window.getD 14 0
  let low := rotate second 7 ^^^ rotate second 18 ^^^ (second >>> 3)
  let high := rotate recent 17 ^^^ rotate recent 19 ^^^ (recent >>> 10)
  old + low + middle + high

/-- The words of the schedule that follow a window of sixteen. -/
def extendSchedule (window : List UInt32) : Nat → List UInt32
  | 0 => []
  | count + 1 =>
    let word := nextWord window
    word :: extendSchedule (window.tail ++ [word]) count

/-- The 64 words of the schedule of a block. -/
def schedule (block : List UInt32) : List UInt32 :=
  block ++ extendSchedule block 48

/-- One round of compression. -/
def round (state : State) (input : UInt32 × UInt32) : State :=
  let spread := rotate state.e 6 ^^^ rotate state.e 11 ^^^ rotate state.e 25
  let choice := (state.e &&& state.f) ^^^ (~~~state.e &&& state.g)
  let first := state.h + spread + choice + input.1 + input.2
  let mixed := rotate state.a 2 ^^^ rotate state.a 13 ^^^ rotate state.a 22
  let majority := (state.a &&& state.b) ^^^ (state.a &&& state.c) ^^^ (state.b &&& state.c)
  let second := mixed + majority
  { a := first + second, b := state.a, c := state.b, d := state.c
    e := state.d + first, f := state.e, g := state.f, h := state.g }

/-- The state after a block of sixteen words. -/
def compress (state : State) (block : List UInt32) : State :=
  let final := (roundConstants.zip (schedule block)).foldl round state
  { a := state.a + final.a, b := state.b + final.b, c := state.c + final.c, d := state.d + final.d
    e := state.e + final.e, f := state.f + final.f, g := state.g + final.g, h := state.h + final.h }

/-- The state after as many blocks of sixteen words as given. -/
def absorb (state : State) (input : List UInt32) : Nat → State
  | 0 => state
  | blocks + 1 => absorb (compress state (input.take 16)) (input.drop 16) blocks

/-- The digest of a message, as eight words. -/
def digest (message : List UInt8) : List UInt32 :=
  let input := words (pad message)
  let state := absorb initial input (input.length / 16)
  [state.a, state.b, state.c, state.d, state.e, state.f, state.g, state.h]

/-- A word as eight hexadecimal digits. -/
def hexWord (word : UInt32) : List Char :=
  let digits := Nat.toDigits 16 word.toNat
  List.replicate (8 - digits.length) '0' ++ digits

/-- The digest of a text's UTF-8 bytes, as 64 hexadecimal digits. -/
def hexDigest (text : String) : String :=
  String.ofList ((digest text.toUTF8.toList).flatMap hexWord)

end Sha256

end ConfigAudit
