/-!
# `KeyTree.Layout.Sha256`: the SHA-256 digest

The digest of a list of bytes as the standard defines it: the message is
padded to whole blocks of sixteen words, each block is stretched to
sixty-four words and mixed into a state of eight words. `Sha256.hex` is
the digest in hexadecimal digits.
-/

set_option autoImplicit false

namespace KeyTree.Sha256

/-- The first 32 bits of the fractional parts of the cube roots of the
first sixty-four primes. -/
def roundConstants : List UInt32 :=
  [ 0x428a2f98, 0x71374491, 0xb5c0fbcf, 0xe9b5dba5, 0x3956c25b, 0x59f111f1, 0x923f82a4,
    0xab1c5ed5, 0xd807aa98, 0x12835b01, 0x243185be, 0x550c7dc3, 0x72be5d74, 0x80deb1fe,
    0x9bdc06a7, 0xc19bf174, 0xe49b69c1, 0xefbe4786, 0x0fc19dc6, 0x240ca1cc, 0x2de92c6f,
    0x4a7484aa, 0x5cb0a9dc, 0x76f988da, 0x983e5152, 0xa831c66d, 0xb00327c8, 0xbf597fc7,
    0xc6e00bf3, 0xd5a79147, 0x06ca6351, 0x14292967, 0x27b70a85, 0x2e1b2138, 0x4d2c6dfc,
    0x53380d13, 0x650a7354, 0x766a0abb, 0x81c2c92e, 0x92722c85, 0xa2bfe8a1, 0xa81a664b,
    0xc24b8b70, 0xc76c51a3, 0xd192e819, 0xd6990624, 0xf40e3585, 0x106aa070, 0x19a4c116,
    0x1e376c08, 0x2748774c, 0x34b0bcb5, 0x391c0cb3, 0x4ed8aa4a, 0x5b9cca4f, 0x682e6ff3,
    0x748f82ee, 0x78a5636f, 0x84c87814, 0x8cc70208, 0x90befffa, 0xa4506ceb, 0xbef9a3f7,
    0xc67178f2 ]

/-- The state of eight words that a message is mixed into. -/
structure State where
  a : UInt32
  b : UInt32
  c : UInt32
  d : UInt32
  e : UInt32
  f : UInt32
  g : UInt32
  h : UInt32
  deriving DecidableEq, Repr

/-- The first 32 bits of the fractional parts of the square roots of the
first eight primes. -/
def State.initial : State :=
  ⟨0x6a09e667, 0xbb67ae85, 0x3c6ef372, 0xa54ff53a, 0x510e527f, 0x9b05688c, 0x1f83d9ab,
    0x5be0cd19⟩

/-- A word turned to the right by some bits. -/
def turn (word bits : UInt32) : UInt32 := (word >>> bits) ||| (word <<< (32 - bits))

/-- Word by word sums. -/
def State.add (s t : State) : State :=
  ⟨s.a + t.a, s.b + t.b, s.c + t.c, s.d + t.d, s.e + t.e, s.f + t.f, s.g + t.g, s.h + t.h⟩

/-- One round: mixes a word of the schedule, with its constant added, into
the state. -/
def State.round (s : State) (word : UInt32) : State :=
  let sumE := turn s.e 6 ^^^ turn s.e 11 ^^^ turn s.e 25
  let choice := (s.e &&& s.f) ^^^ ((~~~ s.e) &&& s.g)
  let first := s.h + sumE + choice + word
  let sumA := turn s.a 2 ^^^ turn s.a 13 ^^^ turn s.a 22
  let majority := (s.a &&& s.b) ^^^ (s.a &&& s.c) ^^^ (s.b &&& s.c)
  ⟨first + (sumA + majority), s.a, s.b, s.c, s.d + first, s.e, s.f, s.g⟩

/-- The next `count` words of a schedule, from the sixteen words before. -/
def stretch : Nat → List UInt32 → List UInt32
  | 0, _ => []
  | count + 1, window =>
    let first := window.getD 1 0
    let last := window.getD 14 0
    let small := turn first 7 ^^^ turn first 18 ^^^ (first >>> 3)
    let great := turn last 17 ^^^ turn last 19 ^^^ (last >>> 10)
    let word := window.getD 0 0 + small + window.getD 9 0 + great
    word :: stretch count (window.drop 1 ++ [word])

/-- Mixes a block of sixteen words into the state. -/
def State.compress (s : State) (block : List UInt32) : State :=
  let schedule := block ++ stretch 48 block
  s.add ((List.zipWith (· + ·) schedule roundConstants).foldl State.round s)

/-- The bytes of a word, the greatest place first. -/
def wordBytes (word : UInt32) : List UInt8 :=
  [(word >>> 24).toUInt8, (word >>> 16).toUInt8, (word >>> 8).toUInt8, word.toUInt8]

/-- The words that bytes make, four to a word; left-over bytes are dropped. -/
def words : List UInt8 → List UInt32
  | a :: b :: c :: d :: rest =>
    ((a.toUInt32 <<< 24) ||| (b.toUInt32 <<< 16) ||| (c.toUInt32 <<< 8) ||| d.toUInt32)
      :: words rest
  | _ => []

/-- A message with a one bit, zeros up to a whole block, and its length in
bits as two words. -/
def padded (message : List UInt8) : List UInt8 :=
  let bits := 8 * message.length
  let zeros := (119 - message.length % 64) % 64
  message ++ 0x80 :: List.replicate zeros 0
    ++ wordBytes (UInt32.ofNat (bits / 0x100000000)) ++ wordBytes (UInt32.ofNat bits)

/-- Mixes one block after another into the state; the fuel is the number of
blocks. -/
def mix : Nat → State → List UInt32 → State
  | 0, s, _ => s
  | fuel + 1, s, text => mix fuel (s.compress (text.take 16)) (text.drop 16)

/-- The digest of a message. -/
def digest (message : List UInt8) : State :=
  let text := words (padded message)
  mix (text.length / 16) .initial text

/-- A word as eight hexadecimal digits. -/
def wordHex (word : UInt32) : List Char :=
  let digits := Nat.toDigits 16 word.toNat
  List.replicate (8 - digits.length) '0' ++ digits

/-- The digest of a message in hexadecimal digits. -/
def hex (message : List UInt8) : String :=
  let s := digest message
  String.ofList ([s.a, s.b, s.c, s.d, s.e, s.f, s.g, s.h].flatMap wordHex)

end KeyTree.Sha256
