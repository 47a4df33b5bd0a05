import LinkMonitor.Bytes.BigEndian
import LinkMonitor.Digest.Adler32

/-!
# Writing a stream

The content goes into the stream as it is, in blocks of at most 65535 bytes.
-/

namespace LinkMonitor.Deflate

def blockSize : Nat := 65535

/-- Header of a stored block: whether it is the last one, its length and the complement of it. -/
def storedHeader (isLast : Bool) (length : Nat) : List UInt8 :=
  let low := UInt8.ofNat length
  let high := UInt8.ofNat (length / 256)
  [if isLast then 1 else 0, low, high, ~~~low, ~~~high]

def storedBlocks (bytes : List UInt8) : List UInt8 :=
  if bytes.length ≤ blockSize then storedHeader true bytes.length ++ bytes
  else storedHeader false blockSize ++ bytes.take blockSize ++ storedBlocks (bytes.drop blockSize)
termination_by bytes.length
decreasing_by simp_all [blockSize]; omega

/-- A stream that inflates to the given bytes. -/
def deflate (bytes : List UInt8) : List UInt8 :=
  [0x78, 0x9c] ++ storedBlocks bytes ++ Bytes.bigEndian 4 (Adler32.ofBytes bytes)

end LinkMonitor.Deflate
