import LinkMonitor.Numeric.Rounding

/-!
# Double precision numbers

A finite number is its exact rational value. Every operation computes on exact values and rounds
once with `ofRat`: to the nearest multiple of the unit in the last place, a half going to the even
neighbour, and to an infinity from `2 ^ 1024` on.
-/

namespace LinkMonitor

/-- A double precision number; `finite 0` is the positive zero. -/
inductive Binary64
  | nan
  | negInfinity
  | infinity
  | negZero
  | finite (value : Rat)
  deriving DecidableEq, Repr, Inhabited

namespace Binary64

/-- The `e` with `2 ^ e ≤ x < 2 ^ (e + 1)`, for a positive `x`. -/
def binaryExponent (x : Rat) : Int :=
  let guess : Int := (x.num.natAbs.log2 : Int) - (x.den.log2 : Int)
  if (2 : Rat) ^ guess ≤ x then guess else guess - 1

/-- The exponent of the last of the 53 bits of a number of size `x`. -/
def lastPlace (x : Rat) : Int :=
  max (binaryExponent x - 52) (-1074)

/-- Distance between neighbours among the numbers of size `x`. -/
def unit (x : Rat) : Rat :=
  (2 : Rat) ^ lastPlace x

def magnitude (x : Rat) : Rat :=
  if x < 0 then -x else x

/-- The nearest multiple of the unit, without a bound on the exponent. -/
def nearest (x : Rat) : Rat :=
  let u := unit (magnitude x)
  (roundHalfEven (x / u) : Rat) * u

/-- The least magnitude that is rounded to an infinity. -/
def limit : Rat := (2 : Rat) ^ (1024 : Nat)

/-- The double nearest to `x`. -/
def ofRat (x : Rat) : Binary64 :=
  let r := nearest x
  if r = 0 then (if x < 0 then negZero else finite 0)
  else if limit ≤ r then infinity
  else if r ≤ -limit then negInfinity
  else finite r

/-- `none` where the nearest double would be an infinity. -/
def ofInt? (n : Int) : Option Binary64 :=
  let r := nearest n
  if limit ≤ magnitude r then none else some (finite r)

/-- The exact value of a finite number. -/
def value? : Binary64 → Option Rat
  | negZero => some 0
  | finite v => some v
  | _ => none

def isNegative : Binary64 → Bool
  | negInfinity | negZero => true
  | finite v => decide (v < 0)
  | _ => false

def neg : Binary64 → Binary64
  | nan => nan
  | negInfinity => infinity
  | infinity => negInfinity
  | negZero => finite 0
  | finite v => if v = 0 then negZero else finite (-v)

/-- A zero or an infinity of the given sign. -/
def signedZero (negative : Bool) : Binary64 := if negative then negZero else finite 0

def signedInfinity (negative : Bool) : Binary64 := if negative then negInfinity else infinity

def add (x y : Binary64) : Binary64 :=
  match x, y with
  | nan, _ | _, nan => nan
  | infinity, negInfinity | negInfinity, infinity => nan
  | infinity, _ | _, infinity => infinity
  | negInfinity, _ | _, negInfinity => negInfinity
  | negZero, negZero => negZero
  | negZero, finite w => finite w
  | finite v, negZero => finite v
  | finite v, finite w => ofRat (v + w)

def sub (x y : Binary64) : Binary64 := add x (neg y)

def mul (x y : Binary64) : Binary64 :=
  let negative := x.isNegative != y.isNegative
  match x.value?, y.value? with
  | some v, some w => if v * w = 0 then signedZero negative else ofRat (v * w)
  | some v, none => if y = nan ∨ v = 0 then nan else signedInfinity negative
  | none, some w => if x = nan ∨ w = 0 then nan else signedInfinity negative
  | none, none => if x = nan ∨ y = nan then nan else signedInfinity negative

/-- Exact order; nothing is related to `nan`. -/
def lt (x y : Binary64) : Bool :=
  match x, y with
  | nan, _ | _, nan => false
  | negInfinity, negInfinity => false
  | negInfinity, _ => true
  | _, negInfinity => false
  | infinity, _ => false
  | _, infinity => true
  | negZero, negZero => false
  | negZero, finite w => decide (0 < w)
  | finite v, negZero => decide (v < 0)
  | finite v, finite w => decide (v < w)

def le (x y : Binary64) : Bool :=
  match x, y with
  | nan, _ | _, nan => false
  | _, _ => !lt y x

/-- The quotient of two whole numbers, rounded once. -/
def ofRatio (num den : Int) : Binary64 := ofRat ((num : Rat) / (den : Rat))

/-- The whole quotient below `x / y` for a positive `y`, computed from the exact remainder: the
difference, the quotient and a final step down are each rounded. -/
def floorDiv (x : Binary64) (y : Rat) : Binary64 :=
  match x with
  | nan | infinity | negInfinity => nan
  | negZero => negZero
  | finite v =>
    let rest := v - (roundToward0 (v / y) : Rat) * y
    let quotient := nearest (nearest (v - rest) / y)
    let stepped := if rest < 0 then nearest (quotient - 1) else quotient
    let low : Rat := stepped.floor
    ofRat (if 1 / 2 < stepped - low then low + 1 else low)

/-- The 64 bits of the number, as a natural number. -/
def toBits : Binary64 → Nat
  | nan => 0x7ff8000000000000
  | infinity => 0x7ff0000000000000
  | negInfinity => 0xfff0000000000000
  | negZero => 0x8000000000000000
  | finite v =>
    if v = 0 then 0
    else
      let size := magnitude v
      let place := lastPlace size
      let significand := (size / (2 : Rat) ^ place).floor.toNat
      let bits := (place + 1074).toNat <<< 52 + significand
      if v < 0 then 0x8000000000000000 + bits else bits

end Binary64
end LinkMonitor
