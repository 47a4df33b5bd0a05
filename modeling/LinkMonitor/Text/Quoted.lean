import LinkMonitor.Text.Hexadecimal
import LinkMonitor.Text.Printable

/-!
# Quoted text

A text between quotes: single ones, or double ones if it holds a single quote and no double one.
Backslash, the quote and what cannot be printed are escaped.
-/

namespace LinkMonitor.Text

/-- The shorter of the numeric escapes that holds the code. -/
def numericEscape (n : Nat) : List Char :=
  if n < 0x100 then '\\' :: 'x' :: hexDigits 2 n
  else if n < 0x10000 then '\\' :: 'u' :: hexDigits 4 n
  else '\\' :: 'U' :: hexDigits 8 n

def escape (printable : Char → Bool) (quote c : Char) : List Char :=
  if c = quote ∨ c = '\\' then ['\\', c]
  else if c = '\n' then ['\\', 'n']
  else if c = '\r' then ['\\', 'r']
  else if c = '\t' then ['\\', 't']
  else if printable c then [c]
  else numericEscape c.toNat

def quoteWith (printable : Char → Bool) (s : List Char) : List Char :=
  let quote := if s.contains '\'' && !s.contains '"' then '"' else '\''
  quote :: s.flatMap (escape printable quote) ++ [quote]

def quoted (s : String) : String := String.ofList (quoteWith isPrintable s.toList)

/-- Bytes as quoted text marked with `b`; only printable ASCII stands for itself. -/
def quotedBytes (bytes : List UInt8) : String :=
  String.ofList ('b' :: quoteWith (fun c => 0x20 ≤ c.toNat && c.toNat < 0x7f)
    (bytes.map fun b => Char.ofNat b.toNat))

end LinkMonitor.Text
