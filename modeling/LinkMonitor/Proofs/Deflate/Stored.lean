import LinkMonitor.Deflate.Inflate
import LinkMonitor.Deflate.Stored
import LinkMonitor.Proofs.Bytes.BigEndian

/-!
# Inflating stored blocks

A stream that was written block by block inflates to what was put into it, with nothing left over.
-/

namespace LinkMonitor.Deflate

/-- The number that bytes make when the lowest one comes first. -/
def littleEndian : List UInt8 → Nat
  | [] => 0
  | b :: rest => b.toNat + 256 * littleEndian rest

namespace Bits

theorem takeFrom_of_le {n pending count : Nat} (h : n ≤ count) (rest : List UInt8) :
    takeFrom n pending count rest =
      .ok (pending % (1 <<< n), ⟨pending >>> n, count - n, rest⟩) := by
  cases rest <;> rw [takeFrom, if_pos h]

theorem takeFrom_bytes (bytes rest : List UInt8) {pending count : Nat} (h : pending < 2 ^ count) :
    takeFrom (count + 8 * bytes.length) pending count (bytes ++ rest) =
      .ok (pending + 2 ^ count * littleEndian bytes, ⟨0, 0, rest⟩) := by
  induction bytes generalizing pending count with
  | nil =>
    rw [List.length_nil, Nat.mul_zero, Nat.add_zero, List.nil_append,
      takeFrom_of_le (Nat.le_refl count), Nat.shiftLeft_eq, Nat.one_mul, Nat.mod_eq_of_lt h,
      Nat.shiftRight_eq_div_pow, Nat.div_eq_of_lt h]
    simp [littleEndian]
  | cons b bytes ih =>
    have room : ¬count + 8 * (b :: bytes).length ≤ count := by simp
    have fits : pending + b.toNat <<< count < 2 ^ (count + 8) := by
      have := b.toNat_lt
      rw [Nat.shiftLeft_eq, Nat.pow_add]
      have := Nat.mul_le_mul_right (2 ^ count) (show b.toNat ≤ 255 by omega)
      omega
    have count' : count + 8 * (b :: bytes).length = count + 8 + 8 * bytes.length := by
      rw [List.length_cons]
      omega
    rw [List.cons_append, takeFrom, if_neg room, count', ih fits, littleEndian,
      Nat.shiftLeft_eq, Nat.pow_add]
    congr 2
    ring

theorem take_bytes (bytes rest : List UInt8) {n : Nat} (h : n = 8 * bytes.length) :
    (⟨0, 0, bytes ++ rest⟩ : Bits).take n = .ok (littleEndian bytes, ⟨0, 0, rest⟩) := by
  have empty : 0 < 2 ^ 0 := by decide
  simpa [take, h] using takeFrom_bytes bytes rest empty

theorem take_low {n : Nat} (b : UInt8) (rest : List UInt8) (pos : 0 < n) (h : n ≤ 8) :
    (⟨0, 0, b :: rest⟩ : Bits).take n =
      .ok (b.toNat % (1 <<< n), ⟨b.toNat >>> n, 8 - n, rest⟩) := by
  rw [take, takeFrom, if_neg (by simp; omega), takeFrom_of_le (by omega)]
  simp

end Bits

namespace Inflater

theorem run_of_step {limit : Option Nat} {s t : Inflater} (h : step limit s = .ok t) :
    run limit s = run limit t := by
  rw [run]
  split
  · next u same => rw [h] at same; cases same; rfl
  · next stop same => rw [h] at same; cases same

theorem run_of_stop {limit : Option Nat} {s : Inflater} {stop : Stop}
    (h : step limit s = .error stop) : run limit s = (s, stop) := by
  rw [run]
  split
  · next u same => rw [h] at same; cases same
  · next stop' same => rw [h] at same; cases same; rfl

/-! ### One block -/

theorem run_stored (bytes rest output : List UInt8) (isLast : Bool) :
    run none ⟨.stored bytes.length, ⟨0, 0, bytes ++ rest⟩, output, isLast⟩ =
      run none ⟨.stored 0, ⟨0, 0, rest⟩, bytes.reverse ++ output, isLast⟩ := by
  induction bytes generalizing output with
  | nil => rfl
  | cons b bytes ih =>
    have taken := Bits.take_bytes [b] (bytes ++ rest) (n := 8) rfl
    have step : step none ⟨.stored (b :: bytes).length, ⟨0, 0, b :: bytes ++ rest⟩, output, isLast⟩ =
        .ok ⟨.stored bytes.length, ⟨0, 0, bytes ++ rest⟩, b :: output, isLast⟩ := by
      simp only [List.singleton_append] at taken
      simp [step, readStored, taken, bind, Except.bind, emit, littleEndian]
    rw [run_of_step step, ih]
    simp

/-- The complement of the length makes up for it in every byte. -/
theorem littleEndian_storedLength {length : Nat} (h : length ≤ blockSize) (isLast : Bool) :
    let word := littleEndian ((storedHeader isLast length).drop 1)
    word % 65536 = length ∧ word / 65536 = 65535 - length := by
  have low : (UInt8.ofNat length).toNat = length % 256 := by simp
  have high : (UInt8.ofNat (length / 256)).toNat = length / 256 % 256 := by simp
  have lowRest : (~~~UInt8.ofNat length).toNat = 255 - length % 256 := by
    rw [UInt8.toNat_not, low]; rfl
  have highRest : (~~~UInt8.ofNat (length / 256)).toNat = 255 - length / 256 % 256 := by
    rw [UInt8.toNat_not, high]; rfl
  simp only [blockSize] at h
  simp only [storedHeader, List.drop_succ_cons, List.drop_zero, littleEndian, low, high, lowRest,
    highRest]
  omega

theorem run_block {bytes : List UInt8} (h : bytes.length ≤ blockSize) (rest output : List UInt8)
    (isLast before : Bool) :
    run none ⟨.blockStart, ⟨0, 0, storedHeader isLast bytes.length ++ bytes ++ rest⟩, output, before⟩ =
      run none ⟨.stored 0, ⟨0, 0, rest⟩, bytes.reverse ++ output, isLast⟩ := by
  have start : step none
      ⟨.blockStart, ⟨0, 0, storedHeader isLast bytes.length ++ bytes ++ rest⟩, output, before⟩ =
      .ok ⟨.storedStart,
        ⟨0, 5, (storedHeader isLast bytes.length).drop 1 ++ (bytes ++ rest)⟩, output, isLast⟩ := by
    have first := Bits.take_low (n := 3) (if isLast then 1 else 0)
      ((storedHeader isLast bytes.length).drop 1 ++ (bytes ++ rest)) (by decide) (by decide)
    have split : storedHeader isLast bytes.length ++ bytes ++ rest =
        (if isLast then 1 else 0) ::
          ((storedHeader isLast bytes.length).drop 1 ++ (bytes ++ rest)) := by
      simp [storedHeader]
    simp only [step, readBlockStart, split, first, bind, Except.bind]
    cases isLast <;> rfl
  have taken := Bits.take_bytes ((storedHeader isLast bytes.length).drop 1) (bytes ++ rest)
    (n := 32) rfl
  obtain ⟨low, high⟩ := littleEndian_storedLength h isLast
  have length : step none ⟨.storedStart,
      ⟨0, 5, (storedHeader isLast bytes.length).drop 1 ++ (bytes ++ rest)⟩, output, isLast⟩ =
      .ok ⟨.stored bytes.length, ⟨0, 0, bytes ++ rest⟩, output, isLast⟩ := by
    have aligned : Bits.align ⟨0, 5, (storedHeader isLast bytes.length).drop 1 ++ (bytes ++ rest)⟩ =
        ⟨0, 0, (storedHeader isLast bytes.length).drop 1 ++ (bytes ++ rest)⟩ := by
      simp [Bits.align]
    have whole : bytes.length + (65535 - bytes.length) = 65535 := by
      simp only [blockSize] at h
      omega
    simp only [step, readStoredStart, aligned, taken, bind, Except.bind, low, high, whole]
    rfl
  rw [run_of_step start, run_of_step length, run_stored]

/-! ### A whole stream -/

theorem run_storedBlocks (bytes rest output : List UInt8) (before : Bool) :
    run none ⟨.blockStart, ⟨0, 0, storedBlocks bytes ++ rest⟩, output, before⟩ =
      run none ⟨.trailer, ⟨0, 0, rest⟩, bytes.reverse ++ output, true⟩ := by
  induction bytes using storedBlocks.induct generalizing output before with
  | case1 bytes h =>
    rw [storedBlocks, if_pos h, run_block h]
    exact run_of_step rfl
  | case2 bytes h ih =>
    have full : (bytes.take blockSize).length = blockSize := by simp; omega
    have block := run_block (Nat.le_of_eq full) (storedBlocks (bytes.drop blockSize) ++ rest) output
      false before
    rw [full] at block
    rw [storedBlocks, if_neg h, List.append_assoc _ (storedBlocks _) rest, block, run_of_step rfl]
    rw [blockEnd, if_neg (by simp), ih, ← List.append_assoc, ← List.reverse_append,
      List.take_append_drop]

end Inflater

theorem Adler32.ofBytes_lt (bytes : List UInt8) : Adler32.ofBytes bytes < 2 ^ 32 := by
  have bounds (s : Adler32) (h : s.low < Adler32.modulus ∧ s.high < Adler32.modulus) :
      (bytes.foldl Adler32.add s).low < Adler32.modulus ∧
        (bytes.foldl Adler32.add s).high < Adler32.modulus := by
    induction bytes generalizing s with
    | nil => exact h
    | cons b bytes ih =>
      apply ih
      exact ⟨Nat.mod_lt _ (by decide), Nat.mod_lt _ (by decide)⟩
  have := bounds {} (by decide)
  simp only [Adler32.modulus] at this
  simp only [Adler32.ofBytes, Adler32.value]
  omega

theorem littleEndian_cons_div (b : UInt8) (rest : List UInt8) :
    littleEndian (b :: rest) % 256 = b.toNat ∧ littleEndian (b :: rest) / 256 = littleEndian rest := by
  have := b.toNat_lt
  rw [littleEndian]
  omega

/-- The checksum is written with its highest byte first. -/
theorem littleEndian_trailer {sum : Nat} (h : sum < 2 ^ 32) :
    let word := littleEndian (Bytes.bigEndian 4 sum)
    ((word % 256 * 256 + word / 256 % 256) * 256 + word / 65536 % 256) * 256 + word / 16777216 =
      sum := by
  have swapped (a b c d : UInt8) :
      let word := littleEndian [a, b, c, d]
      ((word % 256 * 256 + word / 256 % 256) * 256 + word / 65536 % 256) * 256 + word / 16777216 =
        Bytes.ofBigEndian [a, b, c, d] := by
    intro word
    have second : word / 65536 = word / 256 / 256 := (Nat.div_div_eq_div_mul word 256 256).symm
    have third : word / 16777216 = word / 256 / 256 / 256 := by
      rw [Nat.div_div_eq_div_mul, Nat.div_div_eq_div_mul]
    simp only [second, third, word, littleEndian_cons_div]
    simp [littleEndian, Bytes.ofBigEndian]
  exact (swapped _ _ _ _).trans (Bytes.ofBigEndian_bigEndian_of_lt 4 h)

open Inflater in
theorem inflate_deflate (bytes : List UInt8) : inflate (deflate bytes) = .finished bytes [] := by
  have header : step none (start.feed (deflate bytes)) =
      .ok ⟨.blockStart, ⟨0, 0, storedBlocks bytes ++ Bytes.bigEndian 4 (Adler32.ofBytes bytes)⟩,
        [], false⟩ := by
    have taken := Bits.take_bytes [0x78, 0x9c]
      (storedBlocks bytes ++ Bytes.bigEndian 4 (Adler32.ofBytes bytes)) (n := 16) rfl
    rw [List.cons_append, List.cons_append, List.nil_append] at taken
    simp only [step, start, feed, deflate, readHeader, List.nil_append, List.cons_append, taken,
      bind, Except.bind, littleEndian]
    simp [pure, Except.pure]
  have trailer : step none
      ⟨.trailer, ⟨0, 0, Bytes.bigEndian 4 (Adler32.ofBytes bytes)⟩, bytes.reverse ++ [], true⟩ =
      .ok ⟨.done, ⟨0, 0, []⟩, bytes.reverse ++ [], true⟩ := by
    have taken := Bits.take_bytes (Bytes.bigEndian 4 (Adler32.ofBytes bytes)) [] (n := 32) rfl
    have sum := littleEndian_trailer (Adler32.ofBytes_lt bytes)
    rw [List.append_nil] at taken
    simp only at sum
    simp only [step, readTrailer, taken, bind, Except.bind, sum, List.append_nil,
      List.reverse_reverse, if_pos]
    rfl
  rw [inflate, run_of_step header, run_storedBlocks, run_of_step trailer, run_of_stop rfl]
  simp [isDone]

end LinkMonitor.Deflate
