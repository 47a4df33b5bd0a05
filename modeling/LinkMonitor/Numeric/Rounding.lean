/-!
# Rounding of rationals

`roundHalfEven` is the nearest whole number, `roundToward0` drops the fraction.
-/

namespace LinkMonitor

/-- The nearest whole number; a half goes to the even neighbour. -/
def roundHalfEven (x : Rat) : Int :=
  let low := x.floor
  let rest := x - low
  if rest < 1 / 2 then low
  else if 1 / 2 < rest then low + 1
  else if low % 2 = 0 then low
  else low + 1

/-- The whole number left when the fraction is dropped. -/
def roundToward0 (x : Rat) : Int :=
  if x < 0 then -(-x).floor else x.floor

@[simp] theorem roundHalfEven_intCast (n : Int) : roundHalfEven n = n := by
  have h : ((n : Rat) - (n : Rat)) < 1 / 2 := by rw [Rat.sub_self]; decide +kernel
  simp only [roundHalfEven, Rat.floor_intCast, h, if_true]

@[simp] theorem roundToward0_intCast (n : Int) : roundToward0 n = n := by
  unfold roundToward0
  split
  · rw [← Rat.intCast_neg, Rat.floor_intCast]; omega
  · rw [Rat.floor_intCast]

end LinkMonitor
