/-!
# Unread bits

Bits are taken from the low end of every byte first. Taking fails without effect where too few are
left.
-/

namespace LinkMonitor.Deflate

/-- Why reading cannot go on. -/
inductive Stop
  /-- More input is needed. -/
  | starved
  /-- More room for output is needed. -/
  | full
  | invalid
  deriving DecidableEq, Repr

/-- The low `count` bits of `pending`, then the bytes of `rest`. -/
structure Bits where
  pending : Nat
  count : Nat
  rest : List UInt8
  deriving DecidableEq, Repr

namespace Bits

/-- The number of unread bits. -/
def size (b : Bits) : Nat := b.count + 8 * b.rest.length

def takeFrom (n pending count : Nat) : List UInt8 → Except Stop (Nat × Bits)
  | [] =>
    if n ≤ count then .ok (pending % (1 <<< n), ⟨pending >>> n, count - n, []⟩)
    else .error .starved
  | byte :: rest =>
    if n ≤ count then .ok (pending % (1 <<< n), ⟨pending >>> n, count - n, byte :: rest⟩)
    else takeFrom n (pending + byte.toNat <<< count) (count + 8) rest

/-- The next `n` bits as a number, the first one lowest. -/
def take (n : Nat) (b : Bits) : Except Stop (Nat × Bits) := takeFrom n b.pending b.count b.rest

theorem takeFrom_size {n pending count v : Nat} {bytes : List UInt8} {b : Bits}
    (h : takeFrom n pending count bytes = .ok (v, b)) :
    b.size + n = count + 8 * bytes.length := by
  induction bytes generalizing pending count with
  | nil =>
    simp only [takeFrom] at h
    split at h
    · cases h; simp [size]; omega
    · cases h
  | cons byte rest ih =>
    simp only [takeFrom] at h
    split at h
    · cases h; simp [size]; omega
    · have := ih h; simp only [List.length_cons]; omega

theorem take_size {n v : Nat} {b c : Bits} (h : b.take n = .ok (v, c)) : c.size + n = b.size :=
  takeFrom_size h

/-- Drops the bits up to the next whole byte. -/
def align (b : Bits) : Bits := ⟨b.pending >>> (b.count % 8), b.count - b.count % 8, b.rest⟩

theorem align_size (b : Bits) : b.align.size ≤ b.size := by
  simp only [align, size]; omega

/-- The same bits with more bytes behind them. -/
def append (b : Bits) (bytes : List UInt8) : Bits := { b with rest := b.rest ++ bytes }

end Bits
end LinkMonitor.Deflate
