import LinkMonitor.Deflate.Deflater

/-!
# Deflating in pieces

The stream does not depend on the pieces in which its content comes.
-/

namespace LinkMonitor.Deflate

namespace Deflater

theorem fullBlocks_append {count : Nat} {bytes : List UInt8} (h : count * blockSize ≤ bytes.length)
    (more : List UInt8) : fullBlocks count (bytes ++ more) = fullBlocks count bytes := by
  induction count generalizing bytes with
  | zero => rfl
  | succ count ih =>
    rw [Nat.succ_mul] at h
    rw [fullBlocks, fullBlocks, List.take_append_of_le_length (by omega),
      List.drop_append_of_le_length (by omega), ih (by rw [List.length_drop]; omega)]

theorem fullBlocks_add (first second : Nat) (bytes : List UInt8) :
    fullBlocks (first + second) bytes =
      fullBlocks first bytes ++ fullBlocks second (bytes.drop (first * blockSize)) := by
  induction first generalizing bytes with
  | zero => rw [Nat.zero_add, Nat.zero_mul, List.drop_zero, fullBlocks, List.nil_append]
  | succ first ih =>
    rw [Nat.succ_add_eq_add_succ, Nat.add_succ, fullBlocks, ih, fullBlocks, List.drop_drop,
      Nat.succ_mul, Nat.add_comm blockSize, ← List.append_assoc]

/-- The number of blocks before the last one. -/
def blocksBefore (length : Nat) : Nat := (length - 1) / blockSize

def lastBlock (bytes : List UInt8) : List UInt8 :=
  bytes.drop (blocksBefore bytes.length * blockSize)

theorem blocksBefore_le (length : Nat) : blocksBefore length * blockSize ≤ length :=
  Nat.le_trans (Nat.div_mul_le_self _ _) (Nat.sub_le _ _)

theorem lastBlock_length (bytes : List UInt8) :
    (lastBlock bytes).length = bytes.length - blocksBefore bytes.length * blockSize :=
  List.length_drop

theorem blocksBefore_append (bytes more : List UInt8) :
    blocksBefore (bytes ++ more).length =
      blocksBefore bytes.length + blocksBefore (lastBlock bytes ++ more).length := by
  simp only [List.length_append, lastBlock_length, blocksBefore, blockSize]
  omega

theorem storedBlocks_eq (bytes : List UInt8) :
    storedBlocks bytes = fullBlocks (blocksBefore bytes.length) bytes ++
      (storedHeader true (lastBlock bytes).length ++ lastBlock bytes) := by
  induction bytes using storedBlocks.induct with
  | case1 bytes h =>
    have none : blocksBefore bytes.length = 0 := by
      simp only [blocksBefore, blockSize] at h ⊢
      omega
    rw [storedBlocks, if_pos h, lastBlock, none, Nat.zero_mul, List.drop_zero, fullBlocks,
      List.nil_append]
  | case2 bytes h ih =>
    have one : blocksBefore bytes.length = blocksBefore (bytes.drop blockSize).length + 1 := by
      rw [List.length_drop]
      simp only [blocksBefore, blockSize] at h ⊢
      omega
    have last : lastBlock bytes = lastBlock (bytes.drop blockSize) := by
      rw [lastBlock, lastBlock, one, List.drop_drop, Nat.succ_mul, Nat.add_comm]
    rw [storedBlocks, if_neg h, ih, one, last, fullBlocks, List.append_assoc _ (fullBlocks _ _)]

/-! ### A stream that is being written -/

/-- The deflater has taken in `input` and put out `sent`. -/
structure HasWritten (s : Deflater) (input sent : List UInt8) : Prop where
  blocks : sent ++ s.unsent = [0x78, 0x9c] ++ fullBlocks (blocksBefore input.length) input
  waiting : s.waiting = lastBlock input
  sum : s.sum = input.foldl Adler32.add {}

variable {s : Deflater} {input sent : List UInt8}

theorem hasWritten_nil : HasWritten {} [] [] := ⟨rfl, rfl, rfl⟩

theorem HasWritten.compress (h : HasWritten s input sent) (more : List UInt8) :
    HasWritten (s.compress more).2 (input ++ more) (sent ++ (s.compress more).1) := by
  have full := blocksBefore_le input.length
  have behind : (input ++ more).drop (blocksBefore input.length * blockSize) =
      s.waiting ++ more := by
    rw [List.drop_append_of_le_length full, h.waiting, lastBlock]
  constructor
  · rw [blocksBefore_append, fullBlocks_add, fullBlocks_append full, behind, ← h.waiting,
      ← List.append_assoc, ← h.blocks]
    simp only [Deflater.compress, blocksBefore, List.append_nil, List.append_assoc]
  · rw [lastBlock, blocksBefore_append, Nat.add_mul, ← List.drop_drop, behind, ← h.waiting]
    rfl
  · rw [List.foldl_append, ← h.sum]
    rfl

/-- In the end everything is in the stream. -/
theorem HasWritten.finish (h : HasWritten s input sent) : sent ++ s.finish = deflate input := by
  rw [Deflater.finish, deflate, storedBlocks_eq, h.waiting, h.sum, Adler32.ofBytes]
  simp only [← List.append_assoc]
  rw [h.blocks]

end Deflater
end LinkMonitor.Deflate
