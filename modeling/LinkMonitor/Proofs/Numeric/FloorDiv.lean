import LinkMonitor.Numeric.Number
import Mathlib.Data.Rat.Floor
import Mathlib.Tactic.FieldSimp
import Mathlib.Tactic.Linarith

/-!
# Division of small numbers

Whole numbers up to `2 ^ 53` are doubles. So the rounded division of a smaller double by a whole number
is the exact one: its remainder is exact, and all other numbers on the way are whole.
-/

namespace LinkMonitor
namespace Binary64

/-! ### Whole numbers that are doubles -/

theorem magnitude_intCast (n : Int) : magnitude n = (n.natAbs : Rat) := by
  rw [magnitude]
  split
  · next negative =>
    have : n < 0 := by exact_mod_cast negative
    rw [← Int.cast_natCast, Int.ofNat_natAbs_of_nonpos (by omega), Int.cast_neg]
  · next positive =>
    have : 0 ≤ n := by exact_mod_cast not_lt.mp positive
    rw [← Int.cast_natCast, Int.natAbs_of_nonneg this]

theorem unit_pos (x : Rat) : 0 < unit x := by
  rw [unit]
  exact zpow_pos (by norm_num) _

theorem nearest_of_multiple {x : Rat} (k : Int) (h : x = k * unit (magnitude x)) :
    nearest x = x := by
  have quotient : x / unit (magnitude x) = k := by
    rw [div_eq_iff (unit_pos _).ne', ← h]
  rw [nearest, quotient, roundHalfEven_intCast, ← h]

theorem binaryExponent_natCast_le (n : Nat) : binaryExponent n ≤ n.log2 := by
  have one : Nat.log2 1 = 0 := by decide
  simp only [binaryExponent, Rat.num_natCast, Int.natAbs_natCast, Rat.den_natCast, one]
  split <;> omega

theorem nearest_intCast {n : Int} (small : n.natAbs ≤ 2 ^ 53) : nearest n = n := by
  rcases Nat.lt_or_eq_of_le small with less | limit
  · have exponent : lastPlace (magnitude n) ≤ 0 := by
      have size : n.natAbs.log2 ≤ 52 := by
        rcases Nat.eq_zero_or_pos n.natAbs with zero | positive
        · rw [zero]
          decide
        · have := (Nat.log2_lt positive.ne').mpr less
          omega
      have := binaryExponent_natCast_le n.natAbs
      rw [magnitude_intCast, lastPlace]
      omega
    obtain ⟨k, place⟩ := Int.eq_ofNat_of_zero_le (Int.neg_nonneg.mpr exponent)
    apply nearest_of_multiple (n * 2 ^ k)
    rw [unit, show lastPlace (magnitude n) = -(k : Int) by omega, zpow_neg, zpow_natCast]
    push_cast
    field_simp
  · -- The greatest one is the first beyond the numbers whose last place is 1, and is even.
    rcases (by omega : n = 2 ^ 53 ∨ n = -2 ^ 53) with rfl | rfl
    · decide +kernel
    · decide +kernel

theorem natAbs_lt_limit {n : Int} (small : n.natAbs ≤ 2 ^ 53) : (n.natAbs : Rat) < limit := by
  have size : (n.natAbs : Rat) ≤ 2 ^ 53 := by exact_mod_cast small
  have : (2 : Rat) ^ 53 < limit := by decide +kernel
  linarith

theorem ofInt?_of_small {n : Int} (small : n.natAbs ≤ 2 ^ 53) : ofInt? n = some (.finite n) := by
  have below : magnitude n < limit := by
    rw [magnitude_intCast]
    exact natAbs_lt_limit small
  rw [ofInt?, nearest_intCast small, if_neg (not_le.mpr below)]

theorem truncate_ofRat {n : Int} (small : n.natAbs ≤ 2 ^ 53) : (ofRat n).truncate = .ok n := by
  have size := natAbs_lt_limit small
  rw [Nat.cast_natAbs] at size
  have above : (n : Rat) ≤ (|n| : Int) := by exact_mod_cast le_abs_self n
  have below : -((|n| : Int) : Rat) ≤ n := by exact_mod_cast neg_abs_le n
  rw [ofRat, nearest_intCast small]
  split
  · next zero =>
    have : n = 0 := by exact_mod_cast zero
    subst this
    rfl
  · rw [if_neg (by linarith), if_neg (by linarith), truncate, toWhole, roundToward0_intCast]

/-! ### Division -/

/-- The quotient without its fraction is on the same side of zero, and no further from it. -/
theorem abs_roundToward0_le (q : Rat) : |(roundToward0 q : Rat)| ≤ |q| := by
  rw [roundToward0]
  split
  · next negative =>
    have low : ((-q).floor : Rat) ≤ -q := Rat.floor_le _
    have : (0 : Rat) ≤ (-q).floor := by
      exact_mod_cast Rat.le_floor_iff.mpr (by push_cast; linarith)
    rw [Int.cast_neg, abs_neg, abs_of_nonneg this, abs_of_neg negative]
    exact low
  · next positive =>
    have low : (q.floor : Rat) ≤ q := Rat.floor_le _
    have : (0 : Rat) ≤ q.floor := by
      exact_mod_cast Rat.le_floor_iff.mpr (by push_cast; linarith)
    rw [abs_of_nonneg this, abs_of_nonneg (not_lt.mp positive)]
    exact low

theorem floor_eq_roundToward0 (q : Rat) :
    q.floor = if q < roundToward0 q then roundToward0 q - 1 else roundToward0 q := by
  show ⌊q⌋ = _
  rw [roundToward0]
  split
  · next negative =>
    have low : ((-q).floor : Rat) ≤ -q := Rat.floor_le _
    have high : -q < (-q).floor + 1 := by exact_mod_cast Int.lt_floor_add_one (-q)
    split
    · next fraction =>
      rw [Int.floor_eq_iff]
      push_cast at fraction ⊢
      constructor <;> linarith
    · next whole =>
      rw [Int.floor_eq_iff]
      push_cast at whole ⊢
      constructor <;> linarith
  · have low : (q.floor : Rat) ≤ q := Rat.floor_le _
    rw [if_neg (not_lt.mpr low)]
    rfl

/-- The division of a small number by a whole one is exact. -/
theorem truncate_floorDiv {v : Rat} {n : Int} (small : |v| < 2 ^ 53) (pos : 0 < n) :
    ((finite v).floorDiv n).truncate = .ok (v / n).floor := by
  have pos' : (0 : Rat) < n := by exact_mod_cast pos
  have size := abs_roundToward0_le (v / n)
  have floor := floor_eq_roundToward0 (v / n)
  rw [floorDiv]
  generalize roundToward0 (v / n) = k at *
  have wide : (k * n).natAbs < 2 ^ 53 := by
    have : |((k * n : Int) : Rat)| < 2 ^ 53 := by
      rw [abs_div, abs_of_pos pos', le_div_iff₀ pos'] at size
      rw [Int.cast_mul, abs_mul, abs_of_pos pos']
      linarith
    have : |k * n| < 2 ^ 53 := by exact_mod_cast this
    rw [Int.abs_eq_natAbs] at this
    omega
  have narrow : k.natAbs < 2 ^ 53 := by
    rw [Int.natAbs_mul] at wide
    exact lt_of_le_of_lt (Nat.le_mul_of_pos_right _ (by omega)) wide
  have multiple : nearest (v - (v - k * n)) = ((k * n : Int) : Rat) := by
    rw [← nearest_intCast wide.le]
    push_cast
    congr 1
    ring
  have quotient : ((k * n : Int) : Rat) / n = k := by
    push_cast
    field_simp
  have fraction : v - k * n < 0 ↔ v / n < k := by
    rw [div_lt_iff₀ pos', sub_neg]
  have stepped : (if v - k * n < 0 then nearest (k - 1) else (k : Rat)) = ((v / n).floor : Rat) := by
    rw [floor]
    split
    · next below =>
      rw [if_pos (fraction.mp below), ← Int.cast_one, ← Int.cast_sub]
      exact nearest_intCast (by omega)
    · next above => rw [if_neg (mt fraction.mpr above)]
  have bound : (v / n).floor.natAbs ≤ 2 ^ 53 := by
    rw [floor]
    split <;> omega
  simp only [multiple, quotient, nearest_intCast narrow.le, stepped, Rat.floor_intCast]
  rw [if_neg (by norm_num)]
  exact truncate_ofRat bound

end Binary64

/-! ### Readings of a clock -/

namespace Number

/-- A clock shows a value: a whole number, or a double whose size is below `2 ^ 53`. -/
inductive IsReading : Number → Rat → Prop
  | whole (n : Int) : IsReading (.whole n) n
  | float {x : Binary64} {v : Rat} (exact : x.value? = some v) (small : |v| < 2 ^ 53) :
    IsReading (.float x) v

variable {x : Number} {v : Rat} {n : Int}

theorem floorDiv_whole (m n : Int) : (whole m).floorDiv n = .ok (m / n) := rfl

theorem floorDiv_float (x : Binary64) (small : n.natAbs ≤ 2 ^ 53) :
    (float x).floorDiv n = (x.floorDiv n).truncate := by
  have divisor := Binary64.ofInt?_of_small small
  unfold Number.floorDiv
  simp only [divisor]

theorem IsReading.floorDiv (reading : x.IsReading v) (pos : 0 < n) (small : n < 2 ^ 53) :
    x.floorDiv n = .ok (v / n).floor := by
  cases reading with
  | whole m =>
    lift n to Nat using pos.le
    rw [floorDiv_whole]
    congr 1
    exact (Rat.floor_intCast_div_natCast m n).symm
  | @float y v exact size =>
    rw [floorDiv_float y (by omega)]
    cases y with
    | nan => cases exact
    | infinity => cases exact
    | negInfinity => cases exact
    | negZero =>
      cases exact
      rw [zero_div]
      rfl
    | finite w =>
      cases exact
      exact Binary64.truncate_floorDiv size pos

end Number
end LinkMonitor
