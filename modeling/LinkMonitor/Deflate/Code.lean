import LinkMonitor.Deflate.Bits

/-!
# Canonical prefix codes

A code is given by the lengths of the code words of the symbols 0, 1, 2 and so on, where zero stands
for a symbol without a word. Words of one length are consecutive numbers in the order of their
symbols, and shorter words come before longer ones.
-/

namespace LinkMonitor.Deflate

structure Code where
  /-- The number of words of length 1, of length 2 and so on; at least one entry. -/
  counts : List Nat
  /-- The symbols in the order of their words. -/
  symbols : Array Nat
  deriving DecidableEq, Repr

namespace Code

/-- The longest word. -/
def maxLength : Nat := 15

def countsOf (lengths : List Nat) : List Nat :=
  (List.range (lengths.foldl max 1)).map fun i => lengths.count (i + 1)

def symbolsOf (lengths : List Nat) : List Nat :=
  (List.range maxLength).flatMap fun i =>
    (lengths.zipIdx.filter fun p => p.1 == i + 1).map (·.2)

def ofLengths (lengths : List Nat) : Code := ⟨countsOf lengths, (symbolsOf lengths).toArray⟩

/-- The words of the longest length that are left over: negative if there are too many words. -/
def spare (c : Code) : Int := c.counts.foldl (fun (left : Int) (n : Nat) => 2 * left - n) 1

/-- Every sequence of bits has a word. -/
def isComplete (c : Code) : Bool := c.spare = 0

/-- The one kind of code that may be incomplete has words of at most one bit. -/
def isUsable (c : Code) : Bool := c.isComplete || (c.spare > 0 && c.counts.length = 1)

/-- Reads a word bit by bit. `first` is the first word of the present length, `index` the position of
its symbol, and `word` the bits so far with a zero added. -/
def readFrom (symbols : Array Nat) (first index word : Nat) :
    List Nat → Bits → Except Stop (Nat × Bits)
  | [], _ => .error .invalid
  | count :: counts, b => do
    let (bit, b) ← b.take 1
    let word := word + bit
    if word < first + count then
      match symbols[index + (word - first)]? with
      | some symbol => return (symbol, b)
      | none => throw .invalid
    else readFrom symbols (2 * (first + count)) (index + count) (2 * word) counts b

def read (c : Code) (b : Bits) : Except Stop (Nat × Bits) := readFrom c.symbols 0 0 0 c.counts b

theorem readFrom_size {symbols : Array Nat} {first index word symbol : Nat} {counts : List Nat}
    {b b' : Bits} (h : readFrom symbols first index word counts b = .ok (symbol, b')) :
    b'.size < b.size := by
  induction counts generalizing first index word b with
  | nil => cases h
  | cons count counts ih =>
    simp only [readFrom] at h
    cases ht : b.take 1 with
    | error e => simp [ht, bind, Except.bind] at h
    | ok p =>
      obtain ⟨bit, c⟩ := p
      have hc := Bits.take_size ht
      simp only [ht, bind, Except.bind] at h
      split at h
      · split at h
        · cases h; omega
        · cases h
      · have := ih h; omega

theorem read_size {c : Code} {symbol : Nat} {b b' : Bits} (h : c.read b = .ok (symbol, b')) :
    b'.size < b.size :=
  readFrom_size h

end Code
end LinkMonitor.Deflate
