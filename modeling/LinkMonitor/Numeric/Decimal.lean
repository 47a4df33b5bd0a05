import LinkMonitor.Numeric.Binary64

/-!
# Decimal text of numbers

`shortest?` finds the fewest digits that read back as the same double, `Binary64.text` lays them
out, `fixed` writes a number with a given count of places.
-/

namespace LinkMonitor

def decimalDigits (n : Nat) : List Char := Nat.toDigits 10 n

/-- The text padded on the left to a width. -/
def padLeft (width : Nat) (fill : Char) (s : String) : String :=
  String.ofList (List.replicate (width - s.length) fill) ++ s

/-- The text padded on the right to a width. -/
def padRight (width : Nat) (fill : Char) (s : String) : String :=
  s ++ String.ofList (List.replicate (width - s.length) fill)

/-- A number written with leading zeros up to a width; a minus sign counts. -/
def zeroPadded (width : Nat) (n : Int) : String :=
  if n < 0 then "-" ++ padLeft (width - 1) '0' (toString n.natAbs)
  else padLeft width '0' (toString n.natAbs)

/-- Digits `d` and exponent `e` stand for `d * 10 ^ e`. -/
structure Decimal where
  digits : Nat
  exponent : Int
  deriving DecidableEq, Repr

namespace Decimal

def value (d : Decimal) : Rat := (d.digits : Rat) * (10 : Rat) ^ d.exponent

/-- The `e` with `10 ^ e ≤ x < 10 ^ (e + 1)`, for a positive `x`. -/
def decimalExponent (x : Rat) : Int :=
  let guess : Int := ((Nat.toDigits 10 x.num.natAbs).length : Int) -
    ((Nat.toDigits 10 x.den).length : Int)
  if (10 : Rat) ^ guess ≤ x then guess else guess - 1

/-- The nearer of the two decimals around `x` with `count` digits that read back as `x`. -/
def withDigits? (x : Rat) (count : Nat) : Option Decimal :=
  let e := decimalExponent x - (count : Int) + 1
  let scaled := x / (10 : Rat) ^ e
  let low : Decimal := ⟨scaled.floor.toNat, e⟩
  let high : Decimal := ⟨scaled.floor.toNat + 1, e⟩
  let readsBack (d : Decimal) : Bool := Binary64.ofRat d.value == .finite x
  match readsBack low, readsBack high with
  | true, true => if high.value - x < x - low.value then some high else some low
  | true, false => some low
  | false, true => some high
  | false, false => none

/-- The fewest digits that read back as the double of value `x`. Seventeen always do. -/
def shortest? (x : Rat) : Option Decimal :=
  (List.range 17).findSome? fun n => withDigits? x (n + 1)

def dropTrailingZeros (d : Decimal) : Decimal :=
  let kept := (decimalDigits d.digits).reverse.dropWhile (· == '0')
  let dropped := (decimalDigits d.digits).length - kept.length
  ⟨kept.reverse.foldl (fun n c => n * 10 + (c.toNat - '0'.toNat)) 0, d.exponent + (dropped : Int)⟩

/-- Positional from `1e-4` up to `1e16`, with at least one digit after the point; scientific with a
sign and two exponent digits elsewhere. -/
def text (d : Decimal) : String :=
  let digits := decimalDigits d.digits
  let point : Int := (digits.length : Int) + d.exponent
  if -4 < point ∧ point ≤ 16 then
    if point ≤ 0 then
      "0." ++ String.ofList (List.replicate (-point).toNat '0' ++ digits)
    else
      let whole := digits.take point.toNat
      let rest := digits.drop point.toNat
      String.ofList (whole ++ List.replicate (point.toNat - whole.length) '0') ++ "." ++
        (if rest.isEmpty then "0" else String.ofList rest)
  else
    let mantissa := match digits with
      | [] => ""
      | [c] => String.ofList [c]
      | c :: rest => String.ofList (c :: '.' :: rest)
    let e := point - 1
    mantissa ++ "e" ++ (if e < 0 then "-" else "+") ++ padLeft 2 '0' (toString e.natAbs)

end Decimal

/-- The shortest text that reads back as the same number. -/
def Binary64.text : Binary64 → String
  | nan => "nan"
  | infinity => "inf"
  | negInfinity => "-inf"
  | negZero => "-0.0"
  | finite v =>
    if v = 0 then "0.0"
    else
      let shown := match Decimal.shortest? (magnitude v) with
        | some d => d.dropTrailingZeros.text
        | none => ""
      if v < 0 then "-" ++ shown else shown

/-- A rational with `places` digits after the point, a half going to the even digit. -/
def fixedPlaces (places : Nat) (x : Rat) : String :=
  let scaled := (roundHalfEven (Binary64.magnitude x * (10 : Rat) ^ places)).toNat
  let digits := padLeft (places + 1) '0' (toString scaled)
  let cut := digits.length - places
  let whole := String.ofList (digits.toList.take cut)
  let rest := String.ofList (digits.toList.drop cut)
  (if x < 0 then "-" else "") ++ whole ++ (if places = 0 then "" else "." ++ rest)

def Binary64.fixed (places : Nat) : Binary64 → String
  | nan => "nan"
  | infinity => "inf"
  | negInfinity => "-inf"
  | negZero => "-" ++ fixedPlaces places 0
  | finite v => fixedPlaces places v

end LinkMonitor
