import LinkMonitor.Bytes.BigEndian
import Mathlib.Tactic.Positivity
import Mathlib.Tactic.Ring

/-!
# Reading numbers back from bytes

Reading undoes writing, for unsigned numbers up to the width and for signed ones within its range.
-/

namespace LinkMonitor.Bytes

private theorem foldl_bytes (bytes : List UInt8) (start : Nat) :
    bytes.foldl (fun n b => n * 256 + b.toNat) start =
      start * 256 ^ bytes.length + ofBigEndian bytes := by
  induction bytes generalizing start with
  | nil => simp [ofBigEndian]
  | cons b rest ih =>
    have first : ofBigEndian (b :: rest) = b.toNat * 256 ^ rest.length + ofBigEndian rest := by
      simpa [ofBigEndian] using ih b.toNat
    rw [List.foldl_cons, ih, first, List.length_cons, pow_succ]
    ring

theorem ofBigEndian_append (front rest : List UInt8) :
    ofBigEndian (front ++ rest) = ofBigEndian front * 256 ^ rest.length + ofBigEndian rest := by
  rw [ofBigEndian, List.foldl_append, foldl_bytes]
  rfl

theorem ofBigEndian_cons (b : UInt8) (rest : List UInt8) :
    ofBigEndian (b :: rest) = b.toNat * 256 ^ rest.length + ofBigEndian rest := by
  have := ofBigEndian_append [b] rest
  simpa [ofBigEndian] using this

theorem ofBigEndian_bigEndian (width n : Nat) :
    ofBigEndian (bigEndian width n) = n % 256 ^ width := by
  induction width with
  | zero => simp [bigEndian, ofBigEndian, Nat.mod_one]
  | succ width ih =>
    have shift : n >>> (8 * width) = n / 256 ^ width := by
      rw [Nat.shiftRight_eq_div_pow, pow_mul]
      norm_num
    rw [bigEndian, ofBigEndian_cons, ih, bigEndian_length, shift, UInt8.toNat_ofNat',
      show (2 : Nat) ^ 8 = 256 from rfl, Nat.pow_succ, Nat.mod_mul, Nat.mul_comm, Nat.add_comm]

theorem ofBigEndian_bigEndian_of_lt (width : Nat) {n : Nat} (h : n < 256 ^ width) :
    ofBigEndian (bigEndian width n) = n := by
  rw [ofBigEndian_bigEndian, Nat.mod_eq_of_lt h]

theorem ofBigEndian_lt (bytes : List UInt8) : ofBigEndian bytes < 256 ^ bytes.length := by
  induction bytes with
  | nil => simp [ofBigEndian]
  | cons b rest ih =>
    have first := Nat.mul_le_mul_right (256 ^ rest.length) (show b.toNat ≤ 255 by
      have := b.toNat_lt
      omega)
    rw [ofBigEndian_cons, List.length_cons, pow_succ]
    omega

/-- Bytes of one length are told apart by the number that they make. -/
theorem ofBigEndian_injective {front other : List UInt8} (width : front.length = other.length)
    (value : ofBigEndian front = ofBigEndian other) : front = other := by
  induction front generalizing other with
  | nil => exact (List.eq_nil_of_length_eq_zero width.symm).symm
  | cons b rest ih =>
    obtain ⟨c, more, rfl⟩ := List.exists_cons_of_length_eq_add_one width.symm
    have same : rest.length = more.length := by simpa using width
    rw [ofBigEndian_cons, ofBigEndian_cons, ← same] at value
    have low := ofBigEndian_lt rest
    have low' := ofBigEndian_lt more
    rw [← same] at low'
    have base : 0 < 256 ^ rest.length := Nat.pow_pos (by decide)
    have high := congrArg (· / 256 ^ rest.length) value
    simp only [Nat.mul_comm _ (256 ^ rest.length), Nat.mul_add_div base, Nat.div_eq_of_lt low,
      Nat.div_eq_of_lt low', Nat.add_zero] at high
    rw [high] at value
    rw [UInt8.toNat_inj.mp high, ih same (Nat.add_left_cancel value)]

/-- Bytes are the number that they make, written at their own width. -/
theorem bigEndian_ofBigEndian (bytes : List UInt8) :
    bigEndian bytes.length (ofBigEndian bytes) = bytes := by
  refine ofBigEndian_injective (bigEndian_length _ _) ?_
  exact ofBigEndian_bigEndian_of_lt _ (ofBigEndian_lt bytes)

theorem ofSignedBigEndian_signedBigEndian (width : Nat) {n : Int}
    (low : -(2 ^ (8 * width) : Int) ≤ 2 * n) (high : 2 * n < 2 ^ (8 * width)) :
    ofSignedBigEndian (signedBigEndian width n) = n := by
  have span : (1 <<< (8 * width) : Nat) = 2 ^ (8 * width) := by
    rw [Nat.shiftLeft_eq, Nat.one_mul]
  have base : (256 : Nat) ^ width = 2 ^ (8 * width) := by
    rw [pow_mul]
    norm_num
  have pos : (0 : Int) < 2 ^ (8 * width) := by positivity
  have whole : ((2 ^ (8 * width) : Nat) : Int) = 2 ^ (8 * width) := by norm_cast
  have rest := Int.emod_nonneg n pos.ne'
  have bound := Int.emod_lt_of_pos n pos
  have small : (n % 2 ^ (8 * width)).toNat < 256 ^ width := by
    rw [base]
    omega
  rw [ofSignedBigEndian, signedBigEndian, bigEndian_length, span, whole,
    ofBigEndian_bigEndian_of_lt width small]
  by_cases sign : 0 ≤ n
  · have same : n % 2 ^ (8 * width) = n := Int.emod_eq_of_lt sign (by omega)
    rw [if_pos (by omega)]
    omega
  · have same : n % 2 ^ (8 * width) = n + 2 ^ (8 * width) := by
      rw [← Int.add_emod_right]
      exact Int.emod_eq_of_lt (by omega) (by omega)
    rw [if_neg (by omega)]
    omega

/-- A signed number of some bytes is in the range of their width. -/
theorem ofSignedBigEndian_bounds (bytes : List UInt8) :
    -(2 ^ (8 * bytes.length) : Int) ≤ 2 * ofSignedBigEndian bytes ∧
      2 * ofSignedBigEndian bytes < 2 ^ (8 * bytes.length) := by
  have value := ofBigEndian_lt bytes
  rw [show (256 : Nat) = 2 ^ 8 from rfl, ← pow_mul] at value
  have whole : ((2 ^ (8 * bytes.length) : Nat) : Int) = 2 ^ (8 * bytes.length) := by norm_cast
  rw [ofSignedBigEndian, Nat.shiftLeft_eq, Nat.one_mul]
  split <;> omega

theorem signedBigEndian_ofSignedBigEndian (bytes : List UInt8) :
    signedBigEndian bytes.length (ofSignedBigEndian bytes) = bytes := by
  have value := ofBigEndian_lt bytes
  rw [show (256 : Nat) = 2 ^ 8 from rfl, ← pow_mul] at value
  have rest : ofSignedBigEndian bytes % ((2 ^ (8 * bytes.length) : Nat) : Int) =
      ofBigEndian bytes := by
    rw [ofSignedBigEndian, Nat.shiftLeft_eq, Nat.one_mul]
    split
    · exact Int.emod_eq_of_lt (by omega) (by omega)
    · rw [← Int.add_emod_right, Int.sub_add_cancel]
      exact Int.emod_eq_of_lt (by omega) (by omega)
  rw [signedBigEndian, Nat.shiftLeft_eq, Nat.one_mul, rest, Int.toNat_natCast,
    bigEndian_ofBigEndian]

end LinkMonitor.Bytes
