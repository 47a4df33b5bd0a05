import LinkMonitor.Numeric.Decimal

/-!
# Decimal literals

A sign, digits with or without a point, and an exponent, as in `-12.5e3`.
-/

namespace LinkMonitor

/-- The number `± digits * 10 ^ exponent`. -/
structure Literal where
  negative : Bool
  digits : Nat
  exponent : Int
  deriving DecidableEq, Repr

namespace Literal

def digitsValue (s : List Char) : Nat :=
  s.foldl (fun n c => n * 10 + (c.toNat - '0'.toNat)) 0

/-- A sign, if there is one, and what follows it. -/
def sign : List Char → Bool × List Char
  | '-' :: rest => (true, rest)
  | '+' :: rest => (false, rest)
  | s => (false, s)

/-- The exponent at the end of a literal: none at all counts as zero. -/
def exponent? : List Char → Option Int
  | [] => some 0
  | c :: rest =>
    if c = 'e' ∨ c = 'E' then
      let (negative, digits) := sign rest
      if digits.isEmpty || !digits.all Char.isDigit then none
      else some (if negative then -(digitsValue digits : Int) else digitsValue digits)
    else none

def parse? (s : List Char) : Option Literal :=
  let (negative, s) := sign s
  let whole := s.takeWhile Char.isDigit
  let s := s.dropWhile Char.isDigit
  let (places, s) := match s with
    | '.' :: rest => (rest.takeWhile Char.isDigit, rest.dropWhile Char.isDigit)
    | _ => ([], s)
  if whole.isEmpty && places.isEmpty then none
  else (exponent? s).map fun e =>
    ⟨negative, digitsValue (whole ++ places), e - (places.length : Int)⟩

/-- The nearest double. Far outside the range of doubles the power of ten is not computed. -/
def toDouble (l : Literal) : Binary64 :=
  let size : Int := ((decimalDigits l.digits).length : Int) + l.exponent
  if l.digits = 0 ∨ size < -400 then Binary64.signedZero l.negative
  else if 400 < size then Binary64.signedInfinity l.negative
  else
    let value := (l.digits : Rat) * (10 : Rat) ^ l.exponent
    Binary64.ofRat (if l.negative then -value else value)

end Literal
end LinkMonitor
