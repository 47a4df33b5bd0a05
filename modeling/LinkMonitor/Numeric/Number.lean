import LinkMonitor.Numeric.Decimal

/-!
# Whole and fractional numbers

A `Number` is an exact whole number or a double. Mixed comparisons are exact; mixed arithmetic turns
the whole number into a double first, which fails when it is too large for one.
-/

namespace LinkMonitor

/-- Why a number could not be converted. -/
inductive NumberError
  | tooLargeForDouble
  | nanToWhole
  | infinityToWhole
  deriving DecidableEq, Repr

def NumberError.message : NumberError → String
  | tooLargeForDouble => "int too large to convert to float"
  | nanToWhole => "cannot convert float NaN to integer"
  | infinityToWhole => "cannot convert float infinity to integer"

inductive Number
  | whole (value : Int)
  | float (value : Binary64)
  deriving DecidableEq, Repr, Inhabited

namespace Binary64

/-- A whole number made of a finite double by `f`. -/
def toWhole (f : Rat → Int) : Binary64 → Except NumberError Int
  | nan => .error .nanToWhole
  | infinity | negInfinity => .error .infinityToWhole
  | negZero => .ok 0
  | finite v => .ok (f v)

def truncate (x : Binary64) : Except NumberError Int := x.toWhole roundToward0

def round (x : Binary64) : Except NumberError Int := x.toWhole roundHalfEven

end Binary64

namespace Number

def toDouble : Number → Except NumberError Binary64
  | whole n => match Binary64.ofInt? n with
    | some x => .ok x
    | none => .error .tooLargeForDouble
  | float x => .ok x

def truncate : Number → Except NumberError Int
  | whole n => .ok n
  | float x => x.truncate

def round : Number → Except NumberError Int
  | whole n => .ok n
  | float x => x.round

def mul (x y : Number) : Except NumberError Number :=
  match x, y with
  | whole m, whole n => .ok (whole (m * n))
  | x, y => do return float ((← x.toDouble).mul (← y.toDouble))

def add (x y : Number) : Except NumberError Number :=
  match x, y with
  | whole m, whole n => .ok (whole (m + n))
  | x, y => do return float ((← x.toDouble).add (← y.toDouble))

def sub (x y : Number) : Except NumberError Number :=
  match x, y with
  | whole m, whole n => .ok (whole (m - n))
  | x, y => do return float ((← x.toDouble).sub (← y.toDouble))

/-- How often a positive whole number goes into `x`, as a whole number. -/
def floorDiv (x : Number) (n : Int) : Except NumberError Int :=
  match x with
  | whole m => .ok (m / n)
  | float x =>
    match Binary64.ofInt? n with
    | some (.finite v) => (x.floorDiv v).truncate
    | _ => .error .tooLargeForDouble

/-- Exact order of two numbers; nothing is related to `nan`. -/
def lt : Number → Number → Bool
  | whole m, whole n => decide (m < n)
  | whole m, float y => Binary64.lt (.finite m) y
  | float x, whole n => Binary64.lt x (.finite n)
  | float x, float y => Binary64.lt x y

def le : Number → Number → Bool
  | whole m, whole n => decide (m ≤ n)
  | whole m, float y => Binary64.le (.finite m) y
  | float x, whole n => Binary64.le x (.finite n)
  | float x, float y => Binary64.le x y

def text : Number → String
  | whole n => toString n
  | float x => x.text

end Number
end LinkMonitor
