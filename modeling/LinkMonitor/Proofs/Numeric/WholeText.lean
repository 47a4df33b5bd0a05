import LinkMonitor.Numeric.WholeText
import LinkMonitor.Proofs.Text.Digits
import Mathlib.Data.List.TakeWhile

/-!
# Reading a printed whole number

The decimal digits of a natural number, with a line break behind them, are read as that number.
-/

namespace LinkMonitor

namespace Text

theorem toNat_of_isDigit {c : Char} (h : c.isDigit = true) : 48 ≤ c.toNat ∧ c.toNat ≤ 57 := by
  simpa [Char.isDigit, UInt32.le_iff_toNat_le] using h

theorem digitValue?_of_isDigit {c : Char} (h : c.isDigit = true) :
    digitValue? c = some (c.toNat - '0'.toNat) := by
  have range := toNat_of_isDigit h
  rw [digitValue?, if_pos (by omega), if_pos h]
  rfl

theorem isBlank_of_isDigit {c : Char} (h : c.isDigit = true) : isBlank c = false := by
  have range := toNat_of_isDigit h
  simp only [isBlank, Bool.or_eq_false_iff, Bool.and_eq_false_iff, decide_eq_false_iff_not,
    beq_eq_false_iff_ne]
  omega

theorem dropWhile_append_of_kept {p : Char → Bool} {s : List Char} (t : List Char) (filled : s ≠ [])
    (kept : ∀ c ∈ s, p c = false) : (s ++ t).dropWhile p = s ++ t := by
  cases s with
  | nil => exact absurd rfl filled
  | cons c s => rw [List.cons_append, List.dropWhile_cons_of_neg (by simp [kept c])]

/-- Blanks behind a text without blanks are all that is stripped. -/
theorem stripWhile_append {p : Char → Bool} {s t : List Char} (filled : s ≠ [])
    (kept : ∀ c ∈ s, p c = false) (blank : ∀ c ∈ t, p c = true) : stripWhile p (s ++ t) = s := by
  have front := dropWhile_append_of_kept t filled kept
  have back := dropWhile_append_of_kept [] (List.reverse_ne_nil_iff.mpr filled)
    fun c member => kept c (List.mem_reverse.mp member)
  rw [List.append_nil] at back
  have gone : t.reverse.dropWhile p = [] :=
    List.dropWhile_eq_nil_iff.mpr fun c member => blank c (List.mem_reverse.mp member)
  rw [stripWhile, front, List.reverse_append, List.dropWhile_append, gone, List.isEmpty_nil,
    if_pos rfl, back, List.reverse_reverse]

end Text

theorem Literal.sign_of_isDigit {s : List Char} (h : ∀ c ∈ s, c.isDigit = true) :
    sign s = (false, s) := by
  unfold sign
  split
  · exact absurd (h '-' (by simp)) (by decide)
  · exact absurd (h '+' (by simp)) (by decide)
  · rfl

namespace WholeText

open Text

theorem digits?_of_isDigit {s : List Char} (filled : s ≠ []) (h : ∀ c ∈ s, c.isDigit = true) :
    digits? s = some (s.map fun c => c.toNat - '0'.toNat) := by
  fun_induction digits? s with
  | case1 => exact absurd rfl filled
  | case2 c => rw [digitValue?_of_isDigit (h c (by simp))]; rfl
  | case3 c rest ih => exact absurd (h '_' (by simp)) (by decide)
  | case4 c rest more other ih =>
    rw [digitValue?_of_isDigit (h c (by simp)), ih more fun d member => h d (by simp [member])]
    rfl

/-- A number that is printed on a line of its own is read as it is, if it is not too long. -/
theorem parse?_line {n : Nat} (short : (Nat.toDigits 10 n).length ≤ maxDigits) :
    parse? (toString n ++ "\n") = some (n : Int) := by
  have digits := isDigit_toDigits n
  have lineBreak : ∀ c ∈ "\n".toList, isBlank c = true := by
    intro c member
    obtain rfl : c = '\n' := by simpa using member
    rfl
  have stripped : stripWhile isBlank (toString n ++ "\n").toList = Nat.toDigits 10 n := by
    rw [String.toList_append, Nat.toString_eq_ofList_toDigits, String.toList_ofList]
    refine stripWhile_append Nat.toDigits_ne_nil (fun c member => ?_) lineBreak
    exact isBlank_of_isDigit (digits c member)
  have unsigned := Literal.sign_of_isDigit digits
  have value : ((Nat.toDigits 10 n).map fun c => c.toNat - '0'.toNat).foldl
      (fun n d => n * 10 + d) 0 = n := by
    rw [List.foldl_map]
    exact foldl_toDigits n
  rw [parse?, stripped, unsigned]
  dsimp only
  rw [digits?_of_isDigit Nat.toDigits_ne_nil digits]
  dsimp only
  rw [List.length_map, if_neg (Nat.not_lt_of_le short), value]
  rfl

end WholeText
end LinkMonitor
