import LinkMonitor.Text.Hexadecimal
import Mathlib.Data.List.Basic

/-!
# The digits of a number

A printed number has digits of its base only and no zero in front, and is what its digits say.
-/

namespace LinkMonitor.Text

theorem hexValue?_digitChar {d : Nat} (h : d < 16) : hexValue? d.digitChar = some d := by
  have : ∀ i : Fin 16, hexValue? (Nat.digitChar i.val) = some i.val := by decide
  exact this ⟨d, h⟩

theorem digitChar_of_mem_toDigits {b n : Nat} {c : Char} (hb : 1 < b)
    (h : c ∈ Nat.toDigits b n) : ∃ d < b, c = d.digitChar := by
  induction n using Nat.base_induction b hb with
  | single m hm =>
    rw [Nat.toDigits_of_lt_base hm] at h
    exact ⟨m, hm, by simpa using h⟩
  | digit m k hk hm ih =>
    rw [← Nat.toDigits_append_toDigits hb hm hk, Nat.toDigits_of_lt_base hk, List.mem_append] at h
    rcases h with front | last
    · exact ih front
    · exact ⟨k, hk, by simpa using last⟩

theorem notMem_toDigits {b n : Nat} {c : Char} (hb : 1 < b) (free : ∀ d < b, d.digitChar ≠ c) :
    c ∉ Nat.toDigits b n := by
  intro h
  obtain ⟨d, small, same⟩ := digitChar_of_mem_toDigits hb h
  exact free d small same.symm

theorem head?_toDigits_ne_zero {b n : Nat} (hb : 1 < b) (pos : 0 < n) :
    (Nat.toDigits b n).head? ≠ some '0' := by
  induction n using Nat.base_induction b hb with
  | single m hm =>
    rw [Nat.toDigits_of_lt_base hm]
    simp
    omega
  | digit m k hk hm ih =>
    rw [← Nat.toDigits_append_toDigits hb hm hk, List.head?_append_of_ne_nil _ Nat.toDigits_ne_nil]
    exact ih hm

theorem isDigit_toDigits (n : Nat) : ∀ c ∈ Nat.toDigits 10 n, c.isDigit = true :=
  fun _ member => Nat.isDigit_of_mem_toDigits (by decide) (by decide) member

theorem foldl_toDigits (n : Nat) :
    (Nat.toDigits 10 n).foldl (fun n c => n * 10 + (c.toNat - '0'.toNat)) 0 = n := by
  have value := Nat.ofDigitChars_ten_toDigits (n := n)
  rw [Nat.ofDigitChars] at value
  simpa only [Nat.mul_comm 10] using value

end LinkMonitor.Text
