import LinkMonitor.Deflate.Code
import LinkMonitor.Digest.Adler32
import LinkMonitor.Proofs.Results

/-!
# Inflating a compressed stream

A stream is a header of two bytes, blocks, and the Adler-32 checksum of the output. An `Inflater` is
a point in a stream; `step` goes on by one item and `run` as far as input and room for output allow.
A step that cannot be completed leaves the point where it was, so that more input can be fed later.
-/

namespace LinkMonitor.Deflate

/-- What comes next in a stream. -/
inductive Phase
  | header
  /-- A preset dictionary is wanted, which no stream of ours has. -/
  | dictionary
  | blockStart
  | storedStart
  | stored (left : Nat)
  | codesStart
  /-- The lengths of the words for lengths, `left` of them still to come. -/
  | metaLengths (literals distances left : Nat) (read : List Nat)
  /-- The lengths of the words for literals and distances; the last one read comes first. -/
  | lengths (literals distances : Nat) (code : Option Code) (read : List Nat)
  | symbols (literals distances : Code)
  /-- Bytes of the output that are still to be repeated. -/
  | copying (literals distances : Code) (bytes : List UInt8)
  | trailer
  | done
  deriving DecidableEq, Repr

structure Inflater where
  phase : Phase := .header
  bits : Bits
  /-- What has been put out, the last byte first. -/
  output : List UInt8 := []
  /-- The present block is the last one. -/
  isLast : Bool := false
  deriving DecidableEq, Repr

namespace Inflater

/-- The order in which the lengths of the words for lengths are given. -/
def metaOrder : List Nat := [16, 17, 18, 0, 8, 7, 9, 6, 10, 5, 11, 4, 12, 3, 13, 2, 14, 1, 15]

/-- Smallest length and number of further bits, for the symbols from 257 on. -/
def lengthBases : List (Nat × Nat) :=
  [(3, 0), (4, 0), (5, 0), (6, 0), (7, 0), (8, 0), (9, 0), (10, 0), (11, 1), (13, 1), (15, 1),
   (17, 1), (19, 2), (23, 2), (27, 2), (31, 2), (35, 3), (43, 3), (51, 3), (59, 3), (67, 4),
   (83, 4), (99, 4), (115, 4), (131, 5), (163, 5), (195, 5), (227, 5), (258, 0)]

/-- Smallest distance and number of further bits. -/
def distanceBases : List (Nat × Nat) :=
  [(1, 0), (2, 0), (3, 0), (4, 0), (5, 1), (7, 1), (9, 2), (13, 2), (17, 3), (25, 3), (33, 4),
   (49, 4), (65, 5), (97, 5), (129, 6), (193, 6), (257, 7), (385, 7), (513, 8), (769, 8),
   (1025, 9), (1537, 9), (2049, 10), (3073, 10), (4097, 11), (6145, 11), (8193, 12), (12289, 12),
   (16385, 13), (24577, 13)]

def fixedLiterals : Code :=
  Code.ofLengths (List.replicate 144 8 ++ List.replicate 112 9 ++ List.replicate 24 7 ++
    List.replicate 8 8)

def fixedDistances : Code := Code.ofLengths (List.replicate 32 5)

/-- The value of a symbol with its further bits. -/
def withExtra (bases : List (Nat × Nat)) (symbol : Nat) (b : Bits) : Except Stop (Nat × Bits) :=
  match bases[symbol]? with
  | none => .error .invalid
  | some (base, extra) => do
    let (more, b) ← b.take extra
    return (base + more, b)

/-- After the end of a block. -/
def blockEnd (s : Inflater) : Inflater :=
  if s.isLast then { s with phase := .trailer, bits := s.bits.align }
  else { s with phase := .blockStart }

def readHeader (s : Inflater) : Except Stop Inflater := do
  let (word, bits) ← s.bits.take 16
  let method := word % 256
  let flags := word / 256
  if (method * 256 + flags) % 31 ≠ 0 ∨ method % 16 ≠ 8 ∨ method / 16 > 7 then throw .invalid
  return { s with bits, phase := if flags / 32 % 2 = 1 then .dictionary else .blockStart }

def readBlockStart (s : Inflater) : Except Stop Inflater := do
  let (word, bits) ← s.bits.take 3
  let isLast := word % 2 = 1
  match word / 2 with
  | 0 => return { s with bits, isLast, phase := .storedStart }
  | 1 => return { s with bits, isLast, phase := .symbols fixedLiterals fixedDistances }
  | 2 => return { s with bits, isLast, phase := .codesStart }
  | _ => throw .invalid

def readStoredStart (s : Inflater) : Except Stop Inflater := do
  let (word, bits) ← s.bits.align.take 32
  if word % 65536 + word / 65536 ≠ 65535 then throw .invalid
  return { s with bits, phase := .stored (word % 65536) }

def emit (limit : Option Nat) (s : Inflater) (byte : UInt8) : Except Stop Inflater :=
  match limit with
  | none => .ok { s with output := byte :: s.output }
  | some n =>
    if s.output.length < n then .ok { s with output := byte :: s.output } else .error .full

def readStored (limit : Option Nat) (s : Inflater) (left : Nat) : Except Stop Inflater :=
  match left with
  | 0 => .ok (blockEnd s)
  | left + 1 => do
    let (byte, bits) ← s.bits.take 8
    emit limit { s with bits, phase := .stored left } (UInt8.ofNat byte)

def readCodesStart (s : Inflater) : Except Stop Inflater := do
  let (word, bits) ← s.bits.take 14
  let literals := word % 32 + 257
  let distances := word / 32 % 32 + 1
  if literals > 286 ∨ distances > 30 then throw .invalid
  return { s with bits, phase := .metaLengths literals distances (word / 1024 + 4) [] }

/-- The code for lengths; `none` if no symbol has a word. -/
def metaCode? (read : List Nat) : Except Stop (Option Code) :=
  let given := metaOrder.zip read
  let lengths := (List.range 19).map fun symbol => (given.lookup symbol).getD 0
  let code := Code.ofLengths lengths
  if lengths.all (· == 0) then .ok none
  else if code.isComplete then .ok (some code)
  else .error .invalid

def readMetaLengths (s : Inflater) (literals distances left : Nat) (read : List Nat) :
    Except Stop Inflater := do
  let (length, bits) ← s.bits.take 3
  let read := read ++ [length]
  match left with
  | 0 | 1 => return { s with bits, phase := .lengths literals distances (← metaCode? read) [] }
  | left + 1 => return { s with bits, phase := .metaLengths literals distances left read }

/-- The codes of a block from the lengths of their words. -/
def withCodes (s : Inflater) (literals : Nat) (lengths : List Nat) : Except Stop Inflater :=
  let literalCode := Code.ofLengths (lengths.take literals)
  let distanceCode := Code.ofLengths (lengths.drop literals)
  if lengths[256]?.getD 0 = 0 ∨ !literalCode.isUsable ∨ !distanceCode.isUsable then .error .invalid
  else .ok { s with phase := .symbols literalCode distanceCode }

/-- The lengths that a symbol stands for, the last one first: itself, a repetition of the length
before it, or a run of zeros. A code without words gives a zero for every bit. -/
def readLengthRun (code : Option Code) (read : List Nat) (b : Bits) :
    Except Stop (List Nat × Bits) :=
  match code with
  | none => do
    let (_, b) ← b.take 1
    return ([0], b)
  | some code => do
    let (symbol, b) ← code.read b
    if symbol < 16 then return ([symbol], b)
    else if symbol = 16 then
      let (more, b) ← b.take 2
      match read with
      | [] => throw .invalid
      | before :: _ => return (List.replicate (more + 3) before, b)
    else if symbol = 17 then
      let (more, b) ← b.take 3
      return (List.replicate (more + 3) 0, b)
    else
      let (more, b) ← b.take 7
      return (List.replicate (more + 11) 0, b)

def readLengths (s : Inflater) (literals distances : Nat) (code : Option Code) (read : List Nat) :
    Except Stop Inflater := do
  let (run, bits) ← readLengthRun code read s.bits
  let read := run ++ read
  if read.length > literals + distances then throw .invalid
  else if read.length = literals + distances then withCodes { s with bits } literals read.reverse
  else return { s with bits, phase := .lengths literals distances code read }

/-- `count` bytes of a source that is repeated as often as needed; the present pass has `bytes`
left. -/
def cycle (source : List UInt8) : List UInt8 → Nat → List UInt8
  | _, 0 => []
  | byte :: rest, count + 1 => byte :: cycle source rest count
  | [], count + 1 =>
    match source with
    | [] => []
    | byte :: rest => byte :: cycle source rest count

/-- The `length` bytes that follow the point `distance` bytes before the end of the output, with
those that this very repetition adds. -/
def repetition? (output : List UInt8) (length distance : Nat) : Option (List UInt8) :=
  match output.drop (distance - 1) with
  | [] => none
  | _ =>
    let source := ((output.drop (distance - length)).take (min length distance)).reverse
    some (cycle source source length)

/-- Reads length and distance after the symbol of a length. -/
def readMatch (s : Inflater) (literals distances : Code) (symbol : Nat) (b : Bits) :
    Except Stop Inflater := do
  let (length, b) ← withExtra lengthBases (symbol - 257) b
  let (symbol, b) ← distances.read b
  let (distance, b) ← withExtra distanceBases symbol b
  match repetition? s.output length distance with
  | none => throw .invalid
  | some bytes => return { s with bits := b, phase := .copying literals distances bytes }

def readSymbol (limit : Option Nat) (s : Inflater) (literals distances : Code) :
    Except Stop Inflater := do
  let (symbol, b) ← literals.read s.bits
  if symbol < 256 then emit limit { s with bits := b } (UInt8.ofNat symbol)
  else if symbol = 256 then return blockEnd { s with bits := b }
  else readMatch s literals distances symbol b

def copyByte (limit : Option Nat) (s : Inflater) (literals distances : Code)
    (bytes : List UInt8) : Except Stop Inflater :=
  match bytes with
  | [] => .ok { s with phase := .symbols literals distances }
  | byte :: rest => emit limit { s with phase := .copying literals distances rest } byte

def readTrailer (s : Inflater) : Except Stop Inflater := do
  let (word, bits) ← s.bits.take 32
  let sum := ((word % 256 * 256 + word / 256 % 256) * 256 + word / 65536 % 256) * 256 +
    word / 16777216
  if sum = Adler32.ofBytes s.output.reverse then return { s with bits, phase := .done }
  else throw .invalid

/-- One item of the stream; at its end there is none. -/
def step (limit : Option Nat) (s : Inflater) : Except Stop Inflater :=
  match s.phase with
  | .header => readHeader s
  | .dictionary => do
    let _ ← s.bits.take 32
    throw .invalid
  | .blockStart => readBlockStart s
  | .storedStart => readStoredStart s
  | .stored left => readStored limit s left
  | .codesStart => readCodesStart s
  | .metaLengths literals distances left read => readMetaLengths s literals distances left read
  | .lengths literals distances code read => readLengths s literals distances code read
  | .symbols literals distances => readSymbol limit s literals distances
  | .copying literals distances bytes => copyByte limit s literals distances bytes
  | .trailer => readTrailer s
  | .done => .error .starved

/-! ### Running to the end of the input -/

/-- The steps that a phase can take without reading. -/
def idleSteps : Phase → Nat
  | .stored 0 => 1
  | .copying _ _ bytes => bytes.length + 1
  | _ => 0

/-- The second point comes after the first: there is less to read, or the same and fewer steps to take
without reading. -/
def Precedes (s t : Inflater) : Prop :=
  t.bits.size < s.bits.size ∨ t.bits.size ≤ s.bits.size ∧ idleSteps t.phase < idleSteps s.phase

theorem emit_bits {limit : Option Nat} {s t : Inflater} {byte : UInt8}
    (h : emit limit s byte = .ok t) : t.bits = s.bits ∧ t.phase = s.phase := by
  unfold emit at h
  split at h
  · cases h; exact ⟨rfl, rfl⟩
  · split at h
    · cases h; exact ⟨rfl, rfl⟩
    · cases h

theorem blockEnd_size (s : Inflater) : (blockEnd s).bits.size ≤ s.bits.size := by
  unfold blockEnd
  split
  · exact Bits.align_size _
  · exact Nat.le_refl _

theorem withExtra_size {bases : List (Nat × Nat)} {symbol value : Nat} {b b' : Bits}
    (h : withExtra bases symbol b = .ok (value, b')) : b'.size ≤ b.size := by
  unfold withExtra at h
  split at h
  · cases h
  · obtain ⟨⟨more, c⟩, ht, h⟩ := ok_of_bind h
    cases h
    have := Bits.take_size ht
    omega

theorem readHeader_size {s t : Inflater} (h : readHeader s = .ok t) :
    t.bits.size < s.bits.size := by
  obtain ⟨⟨word, bits⟩, ht, h⟩ := ok_of_bind h
  have := Bits.take_size ht
  dsimp only at h
  split at h
  · cases h
  · cases h; dsimp only; omega

theorem readBlockStart_size {s t : Inflater} (h : readBlockStart s = .ok t) :
    t.bits.size < s.bits.size := by
  obtain ⟨⟨word, bits⟩, ht, h⟩ := ok_of_bind h
  have := Bits.take_size ht
  dsimp only at h
  split at h <;> cases h <;> dsimp only <;> omega

theorem readStoredStart_size {s t : Inflater} (h : readStoredStart s = .ok t) :
    t.bits.size < s.bits.size := by
  obtain ⟨⟨word, bits⟩, ht, h⟩ := ok_of_bind h
  have := Bits.take_size ht
  have := Bits.align_size s.bits
  dsimp only at h
  split at h
  · cases h
  · cases h; dsimp only; omega

theorem readStored_precedes {limit : Option Nat} {s t : Inflater} {left : Nat}
    (hs : s.phase = .stored left) (h : readStored limit s left = .ok t) : Precedes s t := by
  cases left with
  | zero =>
    cases h
    refine .inr ⟨blockEnd_size s, ?_⟩
    unfold blockEnd
    split <;> simp [hs, idleSteps]
  | succ left =>
    obtain ⟨⟨byte, bits⟩, ht, h⟩ := ok_of_bind h
    have := Bits.take_size ht
    have := (emit_bits h).1
    exact .inl (by rw [this]; dsimp only; omega)

theorem readCodesStart_size {s t : Inflater} (h : readCodesStart s = .ok t) :
    t.bits.size < s.bits.size := by
  obtain ⟨⟨word, bits⟩, ht, h⟩ := ok_of_bind h
  have := Bits.take_size ht
  dsimp only at h
  split at h
  · cases h
  · cases h; dsimp only; omega

theorem readMetaLengths_size {s t : Inflater} {literals distances left : Nat} {read : List Nat}
    (h : readMetaLengths s literals distances left read = .ok t) :
    t.bits.size < s.bits.size := by
  obtain ⟨⟨length, bits⟩, ht, h⟩ := ok_of_bind h
  have := Bits.take_size ht
  dsimp only at h
  split at h
  · obtain ⟨code, _, h⟩ := ok_of_bind h
    cases h; dsimp only; omega
  · obtain ⟨code, _, h⟩ := ok_of_bind h
    cases h; dsimp only; omega
  · cases h; dsimp only; omega

theorem withCodes_bits {s t : Inflater} {literals : Nat} {lengths : List Nat}
    (h : withCodes s literals lengths = .ok t) : t.bits = s.bits := by
  unfold withCodes at h
  dsimp only at h
  split at h
  · cases h
  · cases h; rfl

theorem readLengthRun_size {code : Option Code} {read run : List Nat} {b b' : Bits}
    (h : readLengthRun code read b = .ok (run, b')) : b'.size < b.size := by
  cases code with
  | none =>
    obtain ⟨⟨bit, c⟩, ht, h⟩ := ok_of_bind h
    have := Bits.take_size ht
    cases h; omega
  | some code =>
    obtain ⟨⟨symbol, c⟩, ht, h⟩ := ok_of_bind h
    have := Code.read_size ht
    dsimp only at h
    split at h
    · cases h; omega
    · split at h
      · obtain ⟨⟨more, d⟩, hd, h⟩ := ok_of_bind h
        have := Bits.take_size hd
        dsimp only at h
        split at h <;> cases h
        omega
      · split at h
        all_goals
          obtain ⟨⟨more, d⟩, hd, h⟩ := ok_of_bind h
          have := Bits.take_size hd
          cases h
          dsimp only
          omega

theorem readLengths_size {s t : Inflater} {literals distances : Nat} {code : Option Code}
    {read : List Nat} (h : readLengths s literals distances code read = .ok t) :
    t.bits.size < s.bits.size := by
  obtain ⟨⟨run, bits⟩, hr, h⟩ := ok_of_bind h
  have := readLengthRun_size hr
  dsimp only at h
  split at h
  · cases h
  · split at h
    · rw [withCodes_bits h]; exact this
    · cases h; exact this

theorem readMatch_size {s t : Inflater} {literals distances : Code} {symbol : Nat} {b : Bits}
    (h : readMatch s literals distances symbol b = .ok t) : t.bits.size < b.size := by
  obtain ⟨⟨length, b1⟩, h1, h⟩ := ok_of_bind h
  obtain ⟨⟨symbol, b2⟩, h2, h⟩ := ok_of_bind h
  obtain ⟨⟨distance, b3⟩, h3, h⟩ := ok_of_bind h
  have := withExtra_size h1
  have := Code.read_size h2
  have := withExtra_size h3
  dsimp only at h
  split at h
  · cases h
  · cases h; dsimp only; omega

theorem readSymbol_size {limit : Option Nat} {s t : Inflater} {literals distances : Code}
    (h : readSymbol limit s literals distances = .ok t) : t.bits.size < s.bits.size := by
  obtain ⟨⟨symbol, b⟩, hr, h⟩ := ok_of_bind h
  have := Code.read_size hr
  dsimp only at h
  split at h
  · rw [(emit_bits h).1]; exact this
  · split at h
    · cases h
      exact Nat.lt_of_le_of_lt (blockEnd_size _) this
    · exact Nat.lt_trans (readMatch_size h) this

theorem copyByte_precedes {limit : Option Nat} {s t : Inflater} {literals distances : Code}
    {bytes : List UInt8} (hs : s.phase = .copying literals distances bytes)
    (h : copyByte limit s literals distances bytes = .ok t) : Precedes s t := by
  unfold copyByte at h
  split at h
  · cases h
    exact .inr ⟨Nat.le_refl _, by simp [hs, idleSteps]⟩
  · obtain ⟨hb, hp⟩ := emit_bits h
    exact .inr ⟨hb ▸ Nat.le_refl _, by simp [hp, hs, idleSteps]⟩

theorem readTrailer_size {s t : Inflater} (h : readTrailer s = .ok t) :
    t.bits.size < s.bits.size := by
  obtain ⟨⟨word, bits⟩, ht, h⟩ := ok_of_bind h
  have := Bits.take_size ht
  dsimp only at h
  split at h
  · cases h; dsimp only; omega
  · cases h

theorem step_precedes {limit : Option Nat} {s t : Inflater} (h : step limit s = .ok t) :
    Precedes s t := by
  unfold step at h
  split at h
  · exact .inl (readHeader_size h)
  · obtain ⟨_, _, h⟩ := ok_of_bind h
    cases h
  · exact .inl (readBlockStart_size h)
  · exact .inl (readStoredStart_size h)
  · next hs => exact readStored_precedes hs h
  · exact .inl (readCodesStart_size h)
  · exact .inl (readMetaLengths_size h)
  · exact .inl (readLengths_size h)
  · exact .inl (readSymbol_size h)
  · next hs => exact copyByte_precedes hs h
  · exact .inl (readTrailer_size h)
  · cases h

/-- Goes on as far as possible: the last point reached, and why it is the last one. -/
def run (limit : Option Nat) (s : Inflater) : Inflater × Stop :=
  match _h : step limit s with
  | .ok t => run limit t
  | .error stop => (s, stop)
termination_by (s.bits.size, idleSteps s.phase)
decreasing_by
  rcases step_precedes _h with h | ⟨h1, h2⟩
  · exact Prod.Lex.left _ _ h
  · rcases Nat.lt_or_eq_of_le h1 with h1 | h1
    · exact Prod.Lex.left _ _ h1
    · rw [h1]; exact Prod.Lex.right _ h2

/-- The start of a stream, with nothing to read yet. -/
def start : Inflater := { bits := ⟨0, 0, []⟩ }

def feed (s : Inflater) (bytes : List UInt8) : Inflater :=
  { s with bits := { s.bits with rest := s.bits.rest ++ bytes } }

def isDone (s : Inflater) : Bool := s.phase = .done

end Inflater

/-- What a sequence of bytes is as a compressed stream. -/
inductive Inflated
  /-- A whole stream, and the bytes behind it. -/
  | finished (output rest : List UInt8)
  /-- The beginning of a stream. -/
  | truncated
  | invalid
  deriving DecidableEq, Repr

def inflate (bytes : List UInt8) : Inflated :=
  match Inflater.run none (Inflater.start.feed bytes) with
  | (_, .invalid) => .invalid
  | (s, _) => if s.isDone then .finished s.output.reverse s.bits.rest else .truncated

/-- The first `count` bytes of the output, fewer if the stream is shorter, read in chunks of 64 bytes
and no further than needed; `none` if the stream turns out invalid on the way. -/
def inflateFront (count : Nat) (s : Inflater) (bytes : List UInt8) : Option (List UInt8) :=
  match Inflater.run (some count) (s.feed (bytes.take 64)) with
  | (_, .invalid) => none
  | (s, _) =>
    if s.isDone || count ≤ s.output.length || bytes.length ≤ 64 then some s.output.reverse
    else inflateFront count s (bytes.drop 64)
termination_by bytes.length
decreasing_by simp_all; omega

end LinkMonitor.Deflate
