import LinkMonitor.Deflate.Inflate
import LinkMonitor.Proofs.Deflate.Stored

/-!
# Inflating in pieces

More input does not change what has been read before. So it makes no difference in which pieces a
stream is fed.
-/

namespace LinkMonitor.Deflate

variable {α β : Type}

/-- The second result is the first one with more input, unless the first one lacked input. -/
def Persists (grow : α → α) (x y : Except Stop α) : Prop := x = .error .starved ∨ y = grow <$> x

theorem persists_ok (grow : α → α) (a : α) : Persists grow (.ok a) (.ok (grow a)) := .inr rfl

theorem persists_error (grow : α → α) (stop : Stop) : Persists grow (.error stop) (.error stop) :=
  .inr rfl

theorem persists_bind {grow : α → α} {grow' : β → β} {x y : Except Stop α}
    {f : α → Except Stop β} (h : Persists grow x y)
    (hf : ∀ a, Persists grow' (f a) (f (grow a))) : Persists grow' (x >>= f) (y >>= f) := by
  rcases h with rfl | rfl
  · exact .inl rfl
  · cases x with
    | error stop => exact persists_error grow' stop
    | ok a => exact hf a

/-- What has been read, with more bytes behind the bits that are left. -/
def growBits (more : List UInt8) (p : α × Bits) : α × Bits := (p.1, p.2.append more)

variable (more : List UInt8)

theorem Bits.takeFrom_persists (n pending count : Nat) (bytes : List UInt8) :
    Persists (growBits more) (takeFrom n pending count bytes)
      (takeFrom n pending count (bytes ++ more)) := by
  induction bytes generalizing pending count with
  | nil =>
    rw [takeFrom]
    split
    · next enough =>
      rw [List.nil_append, takeFrom_of_le enough]
      exact persists_ok (growBits more) _
    · exact .inl rfl
  | cons byte bytes ih =>
    rw [List.cons_append, takeFrom, takeFrom]
    split
    · exact persists_ok (growBits more) _
    · exact ih _ _

theorem Bits.take_persists (n : Nat) (b : Bits) :
    Persists (growBits more) (b.take n) ((b.append more).take n) :=
  takeFrom_persists more n b.pending b.count b.rest

theorem Code.readFrom_persists (symbols : Array Nat) (first index word : Nat) (counts : List Nat)
    (b : Bits) :
    Persists (growBits more) (readFrom symbols first index word counts b)
      (readFrom symbols first index word counts (b.append more)) := by
  induction counts generalizing first index word b with
  | nil => exact persists_error _ _
  | cons count counts ih =>
    refine persists_bind (Bits.take_persists more 1 b) fun (bit, b) => ?_
    dsimp only [growBits]
    split
    · split
      · exact persists_ok (growBits more) _
      · exact persists_error _ _
    · exact ih _ _ _ b

theorem Code.read_persists (c : Code) (b : Bits) :
    Persists (growBits more) (c.read b) (c.read (b.append more)) :=
  readFrom_persists more c.symbols 0 0 0 c.counts b

namespace Inflater

variable (limit : Option Nat) (s : Inflater)

/-- A point with more input. -/
abbrev Grows (x y : Except Stop Inflater) : Prop := Persists (fun s => s.feed more) x y

theorem grows_ok : Grows more (.ok s) (.ok (s.feed more)) := .inr rfl

theorem feed_append (first second : List UInt8) :
    s.feed (first ++ second) = (s.feed first).feed second := by
  simp [feed]

theorem blockEnd_feed : blockEnd (s.feed more) = (blockEnd s).feed more := by
  unfold blockEnd
  rw [show (s.feed more).isLast = s.isLast from rfl]
  split <;> rfl

theorem emit_grows (byte : UInt8) : Grows more (emit limit s byte) (emit limit (s.feed more) byte) := by
  cases limit with
  | none => exact grows_ok more _
  | some n =>
    rw [emit, emit, show (s.feed more).output = s.output from rfl]
    split
    · exact grows_ok more _
    · exact persists_error _ _

theorem withExtra_persists (bases : List (Nat × Nat)) (symbol : Nat) (b : Bits) :
    Persists (growBits more) (withExtra bases symbol b) (withExtra bases symbol (b.append more)) := by
  unfold withExtra
  split
  · exact persists_error _ _
  · exact persists_bind (Bits.take_persists more _ b) fun _ => persists_ok (growBits more) _

theorem readHeader_grows : Grows more (readHeader s) (readHeader (s.feed more)) := by
  refine persists_bind (Bits.take_persists more 16 s.bits) fun (word, bits) => ?_
  dsimp only [growBits]
  split
  · exact persists_error _ _
  · exact grows_ok more _

theorem readBlockStart_grows : Grows more (readBlockStart s) (readBlockStart (s.feed more)) := by
  refine persists_bind (Bits.take_persists more 3 s.bits) fun (word, bits) => ?_
  dsimp only [growBits]
  split
  · exact grows_ok more _
  · exact grows_ok more _
  · exact grows_ok more _
  · exact persists_error _ _

theorem readStoredStart_grows : Grows more (readStoredStart s) (readStoredStart (s.feed more)) := by
  refine persists_bind (Bits.take_persists more 32 s.bits.align) fun (word, bits) => ?_
  dsimp only [growBits]
  split
  · exact persists_error _ _
  · exact grows_ok more _

theorem readStored_grows (left : Nat) :
    Grows more (readStored limit s left) (readStored limit (s.feed more) left) := by
  cases left with
  | zero =>
    rw [readStored, readStored, blockEnd_feed]
    exact grows_ok more _
  | succ left =>
    exact persists_bind (Bits.take_persists more 8 s.bits) fun _ => emit_grows more limit _ _

theorem readCodesStart_grows : Grows more (readCodesStart s) (readCodesStart (s.feed more)) := by
  refine persists_bind (Bits.take_persists more 14 s.bits) fun (word, bits) => ?_
  dsimp only [growBits]
  split
  · exact persists_error _ _
  · exact grows_ok more _

theorem readMetaLengths_grows (literals distances left : Nat) (read : List Nat) :
    Grows more (readMetaLengths s literals distances left read)
      (readMetaLengths (s.feed more) literals distances left read) := by
  refine persists_bind (Bits.take_persists more 3 s.bits) fun (length, bits) => ?_
  dsimp only [growBits]
  split
  · cases metaCode? (read ++ [length]) with
    | error stop => exact persists_error _ _
    | ok code => exact grows_ok more _
  · cases metaCode? (read ++ [length]) with
    | error stop => exact persists_error _ _
    | ok code => exact grows_ok more _
  · exact grows_ok more _

theorem withCodes_grows (literals : Nat) (lengths : List Nat) :
    Grows more (withCodes s literals lengths) (withCodes (s.feed more) literals lengths) := by
  unfold withCodes
  dsimp only
  split
  · exact persists_error _ _
  · exact grows_ok more _

theorem readLengthRun_persists (code : Option Code) (read : List Nat) (b : Bits) :
    Persists (growBits more) (readLengthRun code read b)
      (readLengthRun code read (b.append more)) := by
  cases code with
  | none => exact persists_bind (Bits.take_persists more 1 b) fun _ => persists_ok (growBits more) _
  | some code =>
    refine persists_bind (Code.read_persists more code b) fun (symbol, b) => ?_
    dsimp only [growBits]
    split
    · exact persists_ok (growBits more) _
    · split
      · refine persists_bind (Bits.take_persists more 2 b) fun (count, b) => ?_
        cases read with
        | nil => exact persists_error _ _
        | cons before read => exact persists_ok (growBits more) _
      · split
        · exact persists_bind (Bits.take_persists more 3 b) fun _ => persists_ok (growBits more) _
        · exact persists_bind (Bits.take_persists more 7 b) fun _ => persists_ok (growBits more) _

theorem readLengths_grows (literals distances : Nat) (code : Option Code) (read : List Nat) :
    Grows more (readLengths s literals distances code read)
      (readLengths (s.feed more) literals distances code read) := by
  refine persists_bind (readLengthRun_persists more code read s.bits) fun (run, bits) => ?_
  dsimp only [growBits]
  split
  · exact persists_error _ _
  · split
    · exact withCodes_grows more { s with bits } _ _
    · exact grows_ok more _

theorem readMatch_grows (literals distances : Code) (symbol : Nat) (b : Bits) :
    Grows more (readMatch s literals distances symbol b)
      (readMatch (s.feed more) literals distances symbol (b.append more)) := by
  refine persists_bind (withExtra_persists more _ _ b) fun (length, b) => ?_
  refine persists_bind (Code.read_persists more distances b) fun (symbol, b) => ?_
  refine persists_bind (withExtra_persists more _ _ b) fun (distance, b) => ?_
  dsimp only [growBits]
  split
  · exact persists_error _ _
  · exact grows_ok more _

theorem readSymbol_grows (literals distances : Code) :
    Grows more (readSymbol limit s literals distances)
      (readSymbol limit (s.feed more) literals distances) := by
  refine persists_bind (Code.read_persists more literals s.bits) fun (symbol, b) => ?_
  dsimp only [growBits]
  split
  · exact emit_grows more limit { s with bits := b } _
  · split
    · exact .inr (congrArg Except.ok (blockEnd_feed more { s with bits := b }))
    · exact readMatch_grows more s literals distances symbol b

theorem copyByte_grows (literals distances : Code) (bytes : List UInt8) :
    Grows more (copyByte limit s literals distances bytes)
      (copyByte limit (s.feed more) literals distances bytes) := by
  cases bytes with
  | nil => exact grows_ok more _
  | cons byte rest => exact emit_grows more limit _ byte

theorem readTrailer_grows : Grows more (readTrailer s) (readTrailer (s.feed more)) := by
  refine persists_bind (Bits.take_persists more 32 s.bits) fun (word, bits) => ?_
  dsimp only [growBits]
  split
  · exact grows_ok more _
  · exact persists_error _ _

/-- A step that does not lack input is the same step with more of it. -/
theorem step_grows : Grows more (step limit s) (step limit (s.feed more)) := by
  unfold step
  rw [show (s.feed more).phase = s.phase from rfl]
  cases s.phase with
  | header => exact readHeader_grows more s
  | dictionary =>
    exact persists_bind (Bits.take_persists more 32 s.bits) fun _ => persists_error _ _
  | blockStart => exact readBlockStart_grows more s
  | storedStart => exact readStoredStart_grows more s
  | stored left => exact readStored_grows more limit s left
  | codesStart => exact readCodesStart_grows more s
  | metaLengths literals distances left read => exact readMetaLengths_grows more s _ _ left read
  | lengths literals distances code read => exact readLengths_grows more s _ _ code read
  | symbols literals distances => exact readSymbol_grows more limit s literals distances
  | copying literals distances bytes => exact copyByte_grows more limit s _ _ bytes
  | trailer => exact readTrailer_grows more s
  | done => exact .inl rfl

/-! ### Runs -/

/-- To run, then feed and run is to feed and run. -/
theorem run_feed_run : run limit ((run limit s).1.feed more) = run limit (s.feed more) := by
  induction s using run.induct limit with
  | case1 s t h ih =>
    have fed : step limit (s.feed more) = .ok (t.feed more) := by
      rcases step_grows more limit s with starved | same
      · rw [h] at starved
        cases starved
      · rw [same, h]
        rfl
    rw [run_of_step h, ih, run_of_step fed]
  | case2 s stop h => rw [run_of_stop h]

theorem step_run : step limit (run limit s).1 = .error (run limit s).2 := by
  induction s using run.induct limit with
  | case1 s t h ih => rw [run_of_step h, ih]
  | case2 s stop h => rw [run_of_stop h, h]

/-- What makes a stream invalid does so whatever follows. -/
theorem run_feed_of_invalid {s : Inflater} (h : (run limit s).2 = .invalid) :
    (run limit (s.feed more)).2 = .invalid := by
  have last := step_run limit s
  rw [h] at last
  have fed : step limit ((run limit s).1.feed more) = .error .invalid := by
    rcases step_grows more limit (run limit s).1 with starved | same
    · rw [last] at starved
      cases starved
    · rw [same, last]
      rfl
  rw [← run_feed_run, run_of_stop fed]

end Inflater
end LinkMonitor.Deflate
