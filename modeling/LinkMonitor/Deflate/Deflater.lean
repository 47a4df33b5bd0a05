import LinkMonitor.Deflate.Stored

/-!
# Writing a stream piece by piece

The bytes come in pieces of any size. A block goes out as soon as it is known not to be the last one.
-/

namespace LinkMonitor.Deflate

/-- A stream that is being written. -/
structure Deflater where
  /-- What goes out before anything else. -/
  unsent : List UInt8 := [0x78, 0x9c]
  /-- Bytes that wait for their block. -/
  waiting : List UInt8 := []
  sum : Adler32 := {}
  deriving DecidableEq, Repr

namespace Deflater

/-- The first `count` full blocks, none of which is the last one of the stream. -/
def fullBlocks : Nat → List UInt8 → List UInt8
  | 0, _ => []
  | count + 1, bytes =>
    storedHeader false blockSize ++ bytes.take blockSize ++ fullBlocks count (bytes.drop blockSize)

/-- Takes in more bytes; what goes out may be empty. -/
def compress (s : Deflater) (bytes : List UInt8) : List UInt8 × Deflater :=
  let waiting := s.waiting ++ bytes
  let count := (waiting.length - 1) / blockSize
  (s.unsent ++ fullBlocks count waiting,
    ⟨[], waiting.drop (count * blockSize), bytes.foldl Adler32.add s.sum⟩)

/-- What goes out at the end: the last block and the checksum. -/
def finish (s : Deflater) : List UInt8 :=
  s.unsent ++ storedHeader true s.waiting.length ++ s.waiting ++ Bytes.bigEndian 4 s.sum.value

end Deflater
end LinkMonitor.Deflate
