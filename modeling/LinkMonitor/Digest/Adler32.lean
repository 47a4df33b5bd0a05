/-!
# Adler-32

The sum of the bytes and the sum of the sums, both modulo the largest prime below `2 ^ 16`.
-/

namespace LinkMonitor

/-- The running sums of an Adler-32 checksum. -/
structure Adler32 where
  low : Nat := 1
  high : Nat := 0
  deriving DecidableEq, Repr

namespace Adler32

def modulus : Nat := 65521

def add (s : Adler32) (b : UInt8) : Adler32 :=
  let low := (s.low + b.toNat) % modulus
  ⟨low, (s.high + low) % modulus⟩

def value (s : Adler32) : Nat := s.high * 65536 + s.low

def ofBytes (bytes : List UInt8) : Nat := (bytes.foldl add {}).value

end Adler32
end LinkMonitor
