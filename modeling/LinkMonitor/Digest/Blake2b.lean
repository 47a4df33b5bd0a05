/-!
# BLAKE2b

Without a key, for digests of up to 64 bytes.
-/

namespace LinkMonitor.Blake2b

/-- The fractions of the square roots of the first eight primes. -/
def initial : List UInt64 :=
  [0x6a09e667f3bcc908, 0xbb67ae8584caa73b, 0x3c6ef372fe94f82b, 0xa54ff53a5f1d36f1,
   0x510e527fade682d1, 0x9b05688c2b3e6c1f, 0x1f83d9abfb41bd6b, 0x5be0cd19137e2179]

/-- The order of the message words in each of the twelve rounds. -/
def schedule : List (List Nat) :=
  [[0, 1, 2, 3, 4, 5, 6, 7, 8, 9, 10, 11, 12, 13, 14, 15],
   [14, 10, 4, 8, 9, 15, 13, 6, 1, 12, 0, 2, 11, 7, 5, 3],
   [11, 8, 12, 0, 5, 2, 15, 13, 10, 14, 3, 6, 7, 1, 9, 4],
   [7, 9, 3, 1, 13, 12, 11, 14, 2, 6, 5, 10, 4, 0, 15, 8],
   [9, 0, 5, 7, 2, 4, 10, 15, 14, 1, 11, 12, 6, 8, 3, 13],
   [2, 12, 6, 10, 0, 11, 8, 3, 4, 13, 7, 5, 15, 14, 1, 9],
   [12, 5, 1, 15, 14, 13, 4, 10, 0, 7, 6, 3, 9, 2, 8, 11],
   [13, 11, 7, 14, 12, 1, 3, 9, 5, 0, 15, 4, 8, 6, 2, 10],
   [6, 15, 14, 9, 11, 3, 0, 8, 12, 2, 13, 7, 1, 4, 10, 5],
   [10, 2, 8, 4, 7, 6, 1, 5, 15, 11, 9, 14, 3, 12, 13, 0],
   [0, 1, 2, 3, 4, 5, 6, 7, 8, 9, 10, 11, 12, 13, 14, 15],
   [14, 10, 4, 8, 9, 15, 13, 6, 1, 12, 0, 2, 11, 7, 5, 3]]

/-- The positions that one mixing step works on: first the columns, then the diagonals. -/
def lanes : List (Nat × Nat × Nat × Nat) :=
  [(0, 4, 8, 12), (1, 5, 9, 13), (2, 6, 10, 14), (3, 7, 11, 15),
   (0, 5, 10, 15), (1, 6, 11, 12), (2, 7, 8, 13), (3, 4, 9, 14)]

def rotateRight (x : UInt64) (n : UInt64) : UInt64 := (x >>> n) ||| (x <<< (64 - n))

def mix (v : Array UInt64) (lane : Nat × Nat × Nat × Nat) (x y : UInt64) : Array UInt64 :=
  let (ia, ib, ic, id) := lane
  let a := v.getD ia 0 + v.getD ib 0 + x
  let d := rotateRight (v.getD id 0 ^^^ a) 32
  let c := v.getD ic 0 + d
  let b := rotateRight (v.getD ib 0 ^^^ c) 24
  let a := a + b + y
  let d := rotateRight (d ^^^ a) 16
  let c := c + d
  let b := rotateRight (b ^^^ c) 63
  (((v.setIfInBounds ia a).setIfInBounds ib b).setIfInBounds ic c).setIfInBounds id d

/-- One round takes two message words for each lane. -/
def round (message : Array UInt64) : List (Nat × Nat × Nat × Nat) → List Nat → Array UInt64 →
    Array UInt64
  | lane :: rest, i :: j :: order, v =>
    round message rest order (mix v lane (message.getD i 0) (message.getD j 0))
  | _, _, v => v

/-- Eight bytes make a word, the lowest first. -/
def wordsOf : List UInt8 → List UInt64
  | a :: b :: c :: d :: e :: f :: g :: h :: rest =>
    let halves (x : UInt8) (n : UInt64) : UInt64 := x.toUInt64 <<< n
    (halves a 0 ||| halves b 8 ||| halves c 16 ||| halves d 24 ||| halves e 32 ||| halves f 40 |||
      halves g 48 ||| halves h 56) :: wordsOf rest
  | _ => []

/-- Takes a block of 128 bytes into the hash; `count` bytes have been read with it. -/
def compress (state : List UInt64) (block : List UInt8) (count : Nat) (isLast : Bool) :
    List UInt64 :=
  let v := (state ++ initial).toArray
  let v := v.setIfInBounds 12 (v.getD 12 0 ^^^ UInt64.ofNat count)
  let v := v.setIfInBounds 13 (v.getD 13 0 ^^^ UInt64.ofNat (count >>> 64))
  let v := if isLast then v.setIfInBounds 14 (~~~ v.getD 14 0) else v
  let message := (wordsOf block).toArray
  let v := schedule.foldl (fun v order => round message lanes order v) v
  (List.range 8).map fun i => state.getD i 0 ^^^ v.getD i 0 ^^^ v.getD (i + 8) 0

/-- The full blocks before the last one, `blocks` of them, then the last one filled with zeros. -/
def absorb : Nat → Nat → List UInt8 → List UInt64 → List UInt64
  | 0, count, bytes, state =>
    compress state (bytes ++ List.replicate (128 - bytes.length) 0) (count + bytes.length) true
  | blocks + 1, count, bytes, state =>
    absorb blocks (count + 128) (bytes.drop 128)
      (compress state (bytes.take 128) (count + 128) false)

def bytesOf (word : UInt64) : List UInt8 :=
  (List.range 8).map fun i => (word >>> UInt64.ofNat (8 * i)).toUInt8

/-- The digest of `size` bytes. -/
def digest (size : Nat) (bytes : List UInt8) : List UInt8 :=
  let start := match initial with
    | h :: rest => (h ^^^ 0x01010000 ^^^ UInt64.ofNat size) :: rest
    | [] => []
  ((absorb ((bytes.length - 1) / 128) 0 bytes start).flatMap bytesOf).take size

end LinkMonitor.Blake2b
