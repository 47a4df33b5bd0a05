import LinkMonitor.Numeric.Decimal

/-!
# Severity of an outage

How many of the enabled combinations failed. A severity that exists has at least one failed
combination and no more than are enabled.
-/

namespace LinkMonitor

structure Severity where
  failed : Nat
  enabled : Nat
  failed_pos : 0 < failed
  failed_le : failed ≤ enabled
  deriving DecidableEq

namespace Severity

def make? (failed enabled : Int) : Option Severity :=
  if h : 0 < failed ∧ failed ≤ enabled then
    some ⟨failed.toNat, enabled.toNat, by omega, by omega⟩
  else none

def isComplete (s : Severity) : Bool := s.failed = s.enabled

/-- The share of the failed combinations, in percent. -/
def percentage (s : Severity) : Binary64 := Binary64.ofRatio (s.failed * 100) s.enabled

/-- Numerator and denominator of the share, reduced. -/
def fraction (s : Severity) : Nat × Nat :=
  let divisor := Nat.gcd s.failed s.enabled
  (s.failed / divisor, s.enabled / divisor)

/-- By share, exactly. -/
def compareShare (s t : Severity) : Ordering :=
  compare (s.failed * t.enabled) (t.failed * s.enabled)

def text (s : Severity) : String :=
  if s.isComplete then "Complete" else "Partial (" ++ s.percentage.fixed 1 ++ "%)"

end Severity
end LinkMonitor
