import LinkMonitor.Bytes.BigEndian

/-!
# SHA-256
-/

namespace LinkMonitor.Sha256

/-- The fractions of the cube roots of the first 64 primes. -/
def roundConstants : List UInt32 :=
  [0x428a2f98, 0x71374491, 0xb5c0fbcf, 0xe9b5dba5, 0x3956c25b, 0x59f111f1, 0x923f82a4, 0xab1c5ed5,
   0xd807aa98, 0x12835b01, 0x243185be, 0x550c7dc3, 0x72be5d74, 0x80deb1fe, 0x9bdc06a7, 0xc19bf174,
   0xe49b69c1, 0xefbe4786, 0x0fc19dc6, 0x240ca1cc, 0x2de92c6f, 0x4a7484aa, 0x5cb0a9dc, 0x76f988da,
   0x983e5152, 0xa831c66d, 0xb00327c8, 0xbf597fc7, 0xc6e00bf3, 0xd5a79147, 0x06ca6351, 0x14292967,
   0x27b70a85, 0x2e1b2138, 0x4d2c6dfc, 0x53380d13, 0x650a7354, 0x766a0abb, 0x81c2c92e, 0x92722c85,
   0xa2bfe8a1, 0xa81a664b, 0xc24b8b70, 0xc76c51a3, 0xd192e819, 0xd6990624, 0xf40e3585, 0x106aa070,
   0x19a4c116, 0x1e376c08, 0x2748774c, 0x34b0bcb5, 0x391c0cb3, 0x4ed8aa4a, 0x5b9cca4f, 0x682e6ff3,
   0x748f82ee, 0x78a5636f, 0x84c87814, 0x8cc70208, 0x90befffa, 0xa4506ceb, 0xbef9a3f7, 0xc67178f2]

/-- The eight words of the running hash. -/
structure State where
  a : UInt32
  b : UInt32
  c : UInt32
  d : UInt32
  e : UInt32
  f : UInt32
  g : UInt32
  h : UInt32
  deriving DecidableEq, Repr

/-- The fractions of the square roots of the first eight primes. -/
def initial : State :=
  ⟨0x6a09e667, 0xbb67ae85, 0x3c6ef372, 0xa54ff53a,
   0x510e527f, 0x9b05688c, 0x1f83d9ab, 0x5be0cd19⟩

def rotateRight (x : UInt32) (n : UInt32) : UInt32 := (x >>> n) ||| (x <<< (32 - n))

def round (s : State) (key word : UInt32) : State :=
  let mix1 := rotateRight s.e 6 ^^^ rotateRight s.e 11 ^^^ rotateRight s.e 25
  let choice := (s.e &&& s.f) ^^^ ((~~~ s.e) &&& s.g)
  let t1 := s.h + mix1 + choice + key + word
  let mix0 := rotateRight s.a 2 ^^^ rotateRight s.a 13 ^^^ rotateRight s.a 22
  let majority := (s.a &&& s.b) ^^^ (s.a &&& s.c) ^^^ (s.b &&& s.c)
  ⟨t1 + (mix0 + majority), s.a, s.b, s.c, s.d + t1, s.e, s.f, s.g⟩

/-- The word that follows the sixteen before it. -/
def nextWord (window : List UInt32) : UInt32 :=
  match window with
  | [w0, w1, _, _, _, _, _, _, _, w9, _, _, _, _, w14, _] =>
    let low := rotateRight w1 7 ^^^ rotateRight w1 18 ^^^ (w1 >>> 3)
    let high := rotateRight w14 17 ^^^ rotateRight w14 19 ^^^ (w14 >>> 10)
    w0 + low + w9 + high
  | _ => 0

/-- One round for each key; the window holds the next sixteen words. -/
def rounds : List UInt32 → List UInt32 → State → State
  | key :: keys, word :: words, s =>
    rounds keys (words ++ [nextWord (word :: words)]) (round s key word)
  | _, _, s => s

def add (s t : State) : State :=
  ⟨s.a + t.a, s.b + t.b, s.c + t.c, s.d + t.d, s.e + t.e, s.f + t.f, s.g + t.g, s.h + t.h⟩

/-- The words of a block, four bytes each. -/
def wordsOf : List UInt8 → List UInt32
  | a :: b :: c :: d :: rest =>
    ((a.toUInt32 <<< 24) ||| (b.toUInt32 <<< 16) ||| (c.toUInt32 <<< 8) ||| d.toUInt32) ::
      wordsOf rest
  | _ => []

def compress (s : State) (block : List UInt8) : State :=
  add s (rounds roundConstants (wordsOf block) s)

/-- The blocks of 64 bytes, `count` of them. -/
def absorb : Nat → List UInt8 → State → State
  | 0, _, s => s
  | count + 1, bytes, s => absorb count (bytes.drop 64) (compress s (bytes.take 64))

/-- What follows a message of `length` bytes: a one bit, zeros and the length in bits, so that it is a
multiple of 64 bytes in all. -/
def padding (length : Nat) : List UInt8 :=
  0x80 :: List.replicate ((119 - length % 64) % 64) 0 ++ Bytes.bigEndian 8 (length * 8)

def State.bytes (s : State) : List UInt8 :=
  [s.a, s.b, s.c, s.d, s.e, s.f, s.g, s.h].flatMap fun w => Bytes.bigEndian 4 w.toNat

/-- The hash after the blocks of 64 bytes. -/
def absorbAll (bytes : List UInt8) (s : State) : State := absorb (bytes.length / 64) bytes s

def digest (bytes : List UInt8) : List UInt8 :=
  (absorbAll (bytes ++ padding bytes.length) initial).bytes

/-! ### Messages in pieces -/

/-- A message as far as it is known. -/
structure Hasher where
  /-- The hash of the full blocks. -/
  state : State := initial
  /-- The bytes behind the full blocks. -/
  waiting : List UInt8 := []
  /-- The number of all bytes. -/
  length : Nat := 0
  deriving DecidableEq, Repr

namespace Hasher

def update (h : Hasher) (bytes : List UInt8) : Hasher :=
  let waiting := h.waiting ++ bytes
  { state := absorbAll waiting h.state
    waiting := waiting.drop (64 * (waiting.length / 64))
    length := h.length + bytes.length }

/-- The digest of the message, if nothing follows. -/
def digest (h : Hasher) : List UInt8 :=
  (absorbAll (h.waiting ++ padding h.length) h.state).bytes

end Hasher

end LinkMonitor.Sha256
