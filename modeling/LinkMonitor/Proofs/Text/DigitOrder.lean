import LinkMonitor.Proofs.Text.Digits
import Mathlib.Data.String.Basic

/-!
# Digits in the order of texts

Texts of equally many digits are ordered as their numbers are. If a mark that comes before all digits ends
the number, the shorter number is compared with as many leading digits of the longer one.
-/

namespace LinkMonitor
namespace Text

theorem lt_iff_toNat {c d : Char} : c < d ↔ c.toNat < d.toNat :=
  Char.lt_def.trans UInt32.lt_iff_toNat_lt

theorem append_lt_append_iff {a b s t : List Char} (same : a.length = b.length) (other : a ≠ b) :
    a ++ s < b ++ t ↔ a < b := by
  induction a generalizing b with
  | nil => exact absurd (List.eq_nil_of_length_eq_zero same.symm).symm other
  | cons c a ih =>
    cases b with
    | nil => simp at same
    | cons d b =>
      simp only [List.cons_append, List.cons_lt_cons_iff]
      refine or_congr_right (and_congr_right fun equal => ?_)
      subst equal
      exact ih (by simpa using same) (by simpa using other)

/-! ### The number of some digits -/

section Number

variable {a b s t : List Char}

theorem ofDigitChars_append_zero :
    Nat.ofDigitChars 10 (s ++ t) 0 =
      10 ^ t.length * Nat.ofDigitChars 10 s 0 + Nat.ofDigitChars 10 t 0 := by
  rw [Nat.ofDigitChars_append, Nat.ofDigitChars_eq_ofDigitChars_zero]

theorem ofDigitChars_cons_zero {c : Char} :
    Nat.ofDigitChars 10 (c :: s) 0 =
      10 ^ s.length * (c.toNat - '0'.toNat) + Nat.ofDigitChars 10 s 0 := by
  rw [Nat.ofDigitChars_cons, Nat.ofDigitChars_eq_ofDigitChars_zero, Nat.mul_zero, Nat.zero_add]

theorem ofDigitChars_lt (digits : ∀ c ∈ s, c.isDigit = true) :
    Nat.ofDigitChars 10 s 0 < 10 ^ s.length := by
  induction s with
  | nil => simp
  | cons c s ih =>
    have rest := ih fun d member => digits d (List.mem_cons_of_mem c member)
    have range := Char.isDigit_iff_toNat.mp (digits c List.mem_cons_self)
    have digit : c.toNat - '0'.toNat ≤ 9 := by
      have : '9'.toNat = '0'.toNat + 9 := rfl
      omega
    have most := Nat.mul_le_mul_left (10 ^ s.length) digit
    rw [ofDigitChars_cons_zero, List.length_cons, Nat.pow_succ]
    omega

theorem lt_iff_ofDigitChars_lt (digits : ∀ c ∈ a, c.isDigit = true)
    (digits' : ∀ c ∈ b, c.isDigit = true) (same : a.length = b.length) :
    a < b ↔ Nat.ofDigitChars 10 a 0 < Nat.ofDigitChars 10 b 0 := by
  induction a generalizing b with
  | nil => simp [List.eq_nil_of_length_eq_zero same.symm]
  | cons c a ih =>
    cases b with
    | nil => simp at same
    | cons d b =>
      have same : a.length = b.length := by simpa using same
      have rest : ∀ e ∈ a, e.isDigit = true := fun e member => digits e (List.mem_cons_of_mem c member)
      have rest' : ∀ e ∈ b, e.isDigit = true := fun e member => digits' e (List.mem_cons_of_mem d member)
      have below := ofDigitChars_lt rest
      have below' := ofDigitChars_lt rest'
      have low := (Char.isDigit_iff_toNat.mp (digits c List.mem_cons_self)).1
      have low' := (Char.isDigit_iff_toNat.mp (digits' d List.mem_cons_self)).1
      rw [List.cons_lt_cons_iff, ih rest rest' same, lt_iff_toNat, ← Char.toNat_inj,
        ofDigitChars_cons_zero, ofDigitChars_cons_zero]
      rw [same] at below ⊢
      -- The first digits decide, unless they are the same.
      rcases Nat.lt_trichotomy (c.toNat - '0'.toNat) (d.toNat - '0'.toNat) with less | equal | more
      · have := Nat.mul_le_mul_left (10 ^ b.length) (Nat.succ_le_of_lt less)
        rw [Nat.mul_succ] at this
        omega
      · rw [equal]
        omega
      · have := Nat.mul_le_mul_left (10 ^ b.length) (Nat.succ_le_of_lt more)
        rw [Nat.mul_succ] at this
        omega

theorem eq_of_ofDigitChars_eq (digits : ∀ c ∈ a, c.isDigit = true)
    (digits' : ∀ c ∈ b, c.isDigit = true) (same : a.length = b.length)
    (equal : Nat.ofDigitChars 10 a 0 = Nat.ofDigitChars 10 b 0) : a = b := by
  have notLess : ¬a < b := by
    rw [lt_iff_ofDigitChars_lt digits digits' same]
    omega
  have notMore : ¬b < a := by
    rw [lt_iff_ofDigitChars_lt digits' digits same.symm]
    omega
  exact (lt_trichotomy a b).resolve_left notLess |>.resolve_right notMore

end Number

/-! ### Printed numbers -/

theorem length_toDigits_mono {m n : Nat} (order : m ≤ n) :
    (Nat.toDigits 10 m).length ≤ (Nat.toDigits 10 n).length := by
  have positive : 0 < (Nat.toDigits 10 n).length := List.length_pos_of_ne_nil Nat.toDigits_ne_nil
  have fits := (Nat.length_toDigits_le_iff (by decide : 1 < 10) positive).mp le_rfl
  exact (Nat.length_toDigits_le_iff (by decide) positive).mpr (by omega)

/-- Without its last `k` digits a number is divided by a power of ten. -/
theorem exists_leading {n k : Nat} (few : k ≤ (Nat.toDigits 10 n).length) :
    ∃ front back, Nat.toDigits 10 n = front ++ back ∧ back.length = k ∧
      (∀ c ∈ front, c.isDigit = true) ∧ (∀ c ∈ back, c.isDigit = true) ∧
      Nat.ofDigitChars 10 front 0 = n / 10 ^ k := by
  let kept := (Nat.toDigits 10 n).length - k
  let front := (Nat.toDigits 10 n).take kept
  let back := (Nat.toDigits 10 n).drop kept
  have split : Nat.toDigits 10 n = front ++ back := (List.take_append_drop kept _).symm
  have backLength : back.length = k := by
    rw [List.length_drop]
    omega
  have frontDigits : ∀ c ∈ front, c.isDigit = true := fun c member =>
    isDigit_toDigits n c (List.mem_of_mem_take member)
  have backDigits : ∀ c ∈ back, c.isDigit = true := fun c member =>
    isDigit_toDigits n c (List.mem_of_mem_drop member)
  have value : 10 ^ k * Nat.ofDigitChars 10 front 0 + Nat.ofDigitChars 10 back 0 = n := by
    rw [← backLength, ← ofDigitChars_append_zero, ← split, Nat.ofDigitChars_ten_toDigits]
  have below := ofDigitChars_lt backDigits
  rw [backLength] at below
  refine ⟨front, back, split, backLength, frontDigits, backDigits, ?_⟩
  rw [← value, Nat.mul_add_div (Nat.pow_pos (by decide)), Nat.div_eq_of_lt below, Nat.add_zero]

/-- Two numbers that end with a mark are compared by as many leading digits of the greater one as the
other has; the texts behind decide between a number and itself. -/
theorem toDigits_mark_lt_iff {m n : Nat} {mark : Char} {s t : List Char} (before : mark < '0')
    (order : m ≤ n) (tie : m = n → s < t) :
    Nat.toDigits 10 m ++ mark :: s < Nat.toDigits 10 n ++ mark :: t ↔
      m ≤ n / 10 ^ ((Nat.toDigits 10 n).length - (Nat.toDigits 10 m).length) := by
  have fewer := length_toDigits_mono order
  generalize count : (Nat.toDigits 10 n).length - (Nat.toDigits 10 m).length = k
  obtain ⟨front, back, split, backLength, frontDigits, backDigits, value⟩ :=
    exists_leading (show k ≤ (Nat.toDigits 10 n).length by omega)
  have frontLength : (Nat.toDigits 10 m).length = front.length := by
    have := congrArg List.length split
    rw [List.length_append] at this
    omega
  have numbers := lt_iff_ofDigitChars_lt (isDigit_toDigits m) frontDigits frontLength
  rw [Nat.ofDigitChars_ten_toDigits, value] at numbers
  rw [split, List.append_assoc]
  by_cases same : Nat.toDigits 10 m = front
  · -- The digits are the same as far as the shorter number goes.
    have equal : m = n / 10 ^ k := by
      rw [← value, ← same, Nat.ofDigitChars_ten_toDigits]
    refine iff_of_true ?_ equal.le
    rw [same]
    refine List.append_left_lt ?_
    cases back with
    | nil =>
      obtain rfl : 0 = k := backLength
      rw [Nat.pow_zero, Nat.div_one] at equal
      exact List.cons_lt_cons_iff.mpr (.inr ⟨rfl, tie equal⟩)
    | cons c back =>
      have digit := (Char.isDigit_iff_toNat.mp (backDigits c List.mem_cons_self)).1
      refine List.cons_lt_cons_iff.mpr (.inl ?_)
      rw [lt_iff_toNat] at before ⊢
      omega
  · have other : m ≠ n / 10 ^ k := by
      rw [← value]
      intro equal
      rw [← Nat.ofDigitChars_ten_toDigits (n := m)] at equal
      exact same (eq_of_ofDigitChars_eq (isDigit_toDigits m) frontDigits frontLength equal)
    rw [append_lt_append_iff frontLength same, numbers]
    omega

end Text
end LinkMonitor
