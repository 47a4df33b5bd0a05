import LinkMonitor.Proofs.Numeric.FloorDiv
import Mathlib.Algebra.Order.Field.Power

/-!
# Rounding keeps the order

The double next to a number is at most half a unit away from it. Of two numbers that are not negative,
the smaller one is not rounded to the greater double.
-/

namespace LinkMonitor

/-! ### To whole numbers -/

theorem abs_roundHalfEven_sub_le (x : Rat) : |(roundHalfEven x : Rat) - x| ≤ 1 / 2 := by
  have low : (x.floor : Rat) ≤ x := Rat.floor_le x
  have high : x < x.floor + 1 := by exact_mod_cast Int.lt_floor_add_one x
  rw [abs_le]
  simp only [roundHalfEven]
  split_ifs <;> push_cast <;> constructor <;> linarith

theorem roundHalfEven_mono {x y : Rat} (h : x ≤ y) : roundHalfEven x ≤ roundHalfEven y := by
  by_contra less
  have apart : (roundHalfEven y : Rat) + 1 ≤ roundHalfEven x := by exact_mod_cast Int.not_le.mp less
  have below := (abs_le.mp (abs_roundHalfEven_sub_le x)).2
  have above := (abs_le.mp (abs_roundHalfEven_sub_le y)).1
  -- Both are half a unit away, so there is one number only.
  obtain rfl : x = y := le_antisymm h (by linarith)
  exact less (Int.le_refl _)

namespace Binary64

/-! ### The size of a number -/

theorem two_zpow_sub (a b : Nat) : (2 : Rat) ^ ((a : Int) - b) = 2 ^ a / 2 ^ b := by
  rw [zpow_sub₀ (by norm_num), zpow_natCast, zpow_natCast]

theorem binaryExponent_spec {x : Rat} (pos : 0 < x) :
    (2 : Rat) ^ binaryExponent x ≤ x ∧ x < (2 : Rat) ^ (binaryExponent x + 1) := by
  have num_pos : 0 < x.num := Rat.num_pos.mpr pos
  have num_ne : x.num.natAbs ≠ 0 := by omega
  have den_pos : (0 : Rat) < x.den := by exact_mod_cast x.den_pos
  have quotient : x = x.num.natAbs / x.den := by
    rw [Nat.cast_natAbs, abs_of_pos num_pos, Rat.num_div_den]
  have num_low : (2 : Rat) ^ x.num.natAbs.log2 ≤ x.num.natAbs := by
    exact_mod_cast Nat.log2_self_le num_ne
  have num_high : (x.num.natAbs : Rat) < 2 ^ (x.num.natAbs.log2 + 1) := by
    exact_mod_cast Nat.lt_log2_self
  have den_low : (2 : Rat) ^ x.den.log2 ≤ x.den := by
    exact_mod_cast Nat.log2_self_le x.den_nz
  have den_high : (x.den : Rat) < 2 ^ (x.den.log2 + 1) := by
    exact_mod_cast Nat.lt_log2_self
  -- The lengths of the numerator and the denominator tell the exponent up to one.
  have above : x < 2 ^ (((x.num.natAbs.log2 + 1 : Nat) : Int) - x.den.log2) := by
    rw [two_zpow_sub]
    conv_lhs => rw [quotient]
    exact div_lt_div₀ num_high den_low (by positivity) (by positivity)
  have below : 2 ^ ((x.num.natAbs.log2 : Int) - (x.den.log2 + 1 : Nat)) ≤ x := by
    rw [two_zpow_sub]
    conv_rhs => rw [quotient]
    exact div_le_div₀ (by positivity) num_low den_pos den_high.le
  rw [binaryExponent]
  split
  · next reached =>
    refine ⟨reached, ?_⟩
    convert above using 2
    push_cast
    ring
  · next missed =>
    constructor
    · convert below using 2
      push_cast
      ring
    · rw [Int.sub_add_cancel]
      exact not_le.mp missed

theorem binaryExponent_mono {x y : Rat} (pos : 0 < x) (h : x ≤ y) :
    binaryExponent x ≤ binaryExponent y := by
  have low := (binaryExponent_spec pos).1
  have high := (binaryExponent_spec (pos.trans_le h)).2
  have powers : (2 : Rat) ^ binaryExponent x < 2 ^ (binaryExponent y + 1) := by linarith
  have := (zpow_lt_zpow_iff_right₀ (by norm_num : (1 : Rat) < 2)).mp powers
  omega

/-! ### To doubles -/

theorem magnitude_of_nonneg {x : Rat} (nonneg : 0 ≤ x) : magnitude x = x :=
  if_neg (not_lt.mpr nonneg)

theorem abs_nearest_sub_le (x : Rat) : |nearest x - x| ≤ unit (magnitude x) / 2 := by
  have pos := unit_pos (magnitude x)
  have scaled : nearest x - x =
      (roundHalfEven (x / unit (magnitude x)) - x / unit (magnitude x)) * unit (magnitude x) := by
    rw [nearest, sub_mul, div_mul_cancel₀ _ pos.ne']
  have half := mul_le_mul_of_nonneg_right (abs_roundHalfEven_sub_le (x / unit (magnitude x))) pos.le
  rw [scaled, abs_mul, abs_of_pos pos]
  linarith

theorem le_nearest_of_multiple {x : Rat} (k : Int) (h : k * unit (magnitude x) ≤ x) :
    k * unit (magnitude x) ≤ nearest x := by
  have pos := unit_pos (magnitude x)
  have rounded := roundHalfEven_mono ((le_div_iff₀ pos).mpr h)
  rw [roundHalfEven_intCast] at rounded
  exact mul_le_mul_of_nonneg_right (by exact_mod_cast rounded) pos.le

theorem nearest_le_of_multiple {x : Rat} (k : Int) (h : x ≤ k * unit (magnitude x)) :
    nearest x ≤ k * unit (magnitude x) := by
  have pos := unit_pos (magnitude x)
  have rounded := roundHalfEven_mono ((div_le_iff₀ pos).mpr h)
  rw [roundHalfEven_intCast] at rounded
  exact mul_le_mul_of_nonneg_right (by exact_mod_cast rounded) pos.le

theorem nearest_nonneg {x : Rat} (nonneg : 0 ≤ x) : 0 ≤ nearest x := by
  simpa using le_nearest_of_multiple 0 (by simpa using nonneg)

/-- A power of two from the last place on is a multiple of the unit. -/
theorem zpow_eq_mul_unit {x : Rat} {e : Int} (nonneg : 0 ≤ x) (h : lastPlace x ≤ e) :
    ∃ k : Int, (2 : Rat) ^ e = k * unit (magnitude x) := by
  refine ⟨2 ^ (e - lastPlace x).toNat, ?_⟩
  rw [magnitude_of_nonneg nonneg, unit, Int.cast_pow, Int.cast_ofNat, ← zpow_natCast,
    ← zpow_add₀ (by norm_num)]
  congr 1
  omega

theorem nearest_mono {x y : Rat} (nonneg : 0 ≤ x) (h : x ≤ y) : nearest x ≤ nearest y := by
  have nonneg' : 0 ≤ y := nonneg.trans h
  rcases nonneg.eq_or_lt with rfl | pos
  · have zero : nearest 0 = 0 := by exact_mod_cast nearest_intCast (n := 0) (by decide)
    rw [zero]
    exact nearest_nonneg nonneg'
  have sizes := binaryExponent_mono pos h
  have high := (binaryExponent_spec pos).2
  have low := (binaryExponent_spec (pos.trans_le h)).1
  by_cases same : lastPlace x = lastPlace y
  · -- The multiples of one unit are in the order of the quotients.
    have unit_eq : unit (magnitude x) = unit (magnitude y) := by
      rw [magnitude_of_nonneg nonneg, magnitude_of_nonneg nonneg', unit, unit, same]
    rw [nearest, nearest, unit_eq]
    have rounded := roundHalfEven_mono (div_le_div_of_nonneg_right h (unit_pos (magnitude y)).le)
    exact mul_le_mul_of_nonneg_right (by exact_mod_cast rounded) (unit_pos _).le
  · -- A power of two stands between the two numbers, and neither is rounded across it.
    have places : binaryExponent x < binaryExponent y ∧ lastPlace x ≤ binaryExponent y ∧
        lastPlace y ≤ binaryExponent y := by
      rw [lastPlace, lastPlace] at same ⊢
      omega
    obtain ⟨k, here⟩ := zpow_eq_mul_unit nonneg places.2.1
    obtain ⟨l, there⟩ := zpow_eq_mul_unit nonneg' places.2.2
    have between : x ≤ 2 ^ binaryExponent y :=
      high.le.trans (zpow_le_zpow_right₀ (by norm_num) places.1)
    calc nearest x
        ≤ 2 ^ binaryExponent y := by
          rw [here] at between ⊢
          exact nearest_le_of_multiple k between
      _ ≤ nearest y := by
          rw [there] at low ⊢
          exact le_nearest_of_multiple l low

/-! ### Between whole numbers -/

variable {n : Int} {x : Rat}

theorem intCast_le_nearest (small : n.natAbs ≤ 2 ^ 53) (nonneg : 0 ≤ n) (h : n ≤ x) :
    n ≤ nearest x := by
  have rounded := nearest_mono (by exact_mod_cast nonneg) h
  rwa [nearest_intCast small] at rounded

theorem nearest_le_intCast (small : n.natAbs ≤ 2 ^ 53) (nonneg : 0 ≤ x) (h : x ≤ n) :
    nearest x ≤ n := by
  have rounded := nearest_mono nonneg h
  rwa [nearest_intCast small] at rounded

/-- No rounding to an infinity: the number is not above a small whole number. -/
theorem ofRat_of_le (small : n.natAbs ≤ 2 ^ 53) (nonneg : 0 ≤ x) (h : x ≤ n) :
    ofRat x = .finite (nearest x) := by
  have low := nearest_nonneg nonneg
  have high : nearest x < limit := by
    have below := nearest_le_intCast small nonneg h
    have size := natAbs_lt_limit small
    rw [Nat.cast_natAbs, Int.cast_abs] at size
    exact (below.trans (le_abs_self _)).trans_lt size
  rw [ofRat]
  split
  · next zero => rw [if_neg (not_lt.mpr nonneg), zero]
  · rw [if_neg (not_le.mpr high), if_neg (by linarith)]

/-- No rounding below a small whole number. -/
theorem ofRat_of_ge (small : n.natAbs ≤ 2 ^ 53) (pos : 0 < n) (h : n ≤ x) :
    ofRat x = .infinity ∨ ∃ v, ofRat x = .finite v ∧ n ≤ v := by
  have least := intCast_le_nearest small pos.le h
  have positive : (0 : Rat) < n := by exact_mod_cast pos
  have limited : 0 < limit := by norm_num [limit]
  have nonzero : nearest x ≠ 0 := by linarith
  have above : ¬nearest x ≤ -limit := by linarith
  rw [ofRat, if_neg nonzero, if_neg above]
  split
  · exact .inl rfl
  · exact .inr ⟨nearest x, rfl, least⟩

end Binary64
end LinkMonitor
