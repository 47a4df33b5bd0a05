import LinkMonitor.Numeric.Literal
import LinkMonitor.Text.Blank
import LinkMonitor.Text.DecimalDigit

/-!
# Whole numbers in text

Blanks around the number, a sign, decimal digits of any script, and single underscores between digits
are accepted; more than 4300 digits are not.
-/

namespace LinkMonitor

namespace WholeText

def maxDigits : Nat := 4300

/-- The values of digits with single underscores between them. -/
def digits? : List Char → Option (List Nat)
  | [] => none
  | [c] => (Text.digitValue? c).map fun d => [d]
  | c :: '_' :: rest => do return (← Text.digitValue? c) :: (← digits? rest)
  | c :: rest => do return (← Text.digitValue? c) :: (← digits? rest)

def parse? (text : String) : Option Int :=
  let (negative, s) := Literal.sign (Text.stripWhile Text.isBlank text.toList)
  match digits? s with
  | none => none
  | some ds =>
    if ds.length > maxDigits then none
    else
      let n : Nat := ds.foldl (fun n d => n * 10 + d) 0
      some (if negative then -(n : Int) else n)

end WholeText
end LinkMonitor
