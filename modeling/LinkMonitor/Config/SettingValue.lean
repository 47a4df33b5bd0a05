import LinkMonitor.Numeric.Literal
import LinkMonitor.Numeric.Number
import LinkMonitor.Text.Blank

/-!
# Values of settings

A setting may be given as a text, a number or a truth value. Whole numbers, numbers and texts are read
from it by lenient rules: blanks around a number, a plus sign, leading zeros, single underscores
between digits, and a fraction of nothing but zeros are accepted.
-/

namespace LinkMonitor

inductive SettingValue
  | text (text : String)
  | number (value : Number)
  | flag (value : Bool)
  /-- Nothing, or a value with parts. -/
  | other
  deriving DecidableEq, Repr

/-- Why a value does not fit its setting. -/
inductive SettingFault
  | wholeSyntax
  | wholeTooLong
  | wholeWithFraction
  | notFinite
  | notWhole
  | numberSyntax
  | notNumber
  | notText
  | unknownLevel (level : String)
  deriving DecidableEq, Repr

namespace SettingFault

def label : SettingFault → String
  | wholeSyntax => "int_parsing"
  | wholeTooLong => "int_parsing_size"
  | wholeWithFraction => "int_from_float"
  | notFinite => "finite_number"
  | notWhole => "int_type"
  | numberSyntax => "float_parsing"
  | notNumber => "float_type"
  | notText => "string_type"
  | unknownLevel _ => "value_error"

def message : SettingFault → String
  | wholeSyntax => "Input should be a valid integer, unable to parse string as an integer"
  | wholeTooLong => "Unable to parse input string as an integer, exceeded maximum size"
  | wholeWithFraction => "Input should be a valid integer, got a number with a fractional part"
  | notFinite => "Input should be a finite number"
  | notWhole => "Input should be a valid integer"
  | numberSyntax => "Input should be a valid number, unable to parse string as a number"
  | notNumber => "Input should be a valid number"
  | notText => "Input should be a valid string"
  | unknownLevel level => "Value error, Unknown log level: " ++ level

end SettingFault

namespace SettingValue

/-! ### Whole numbers -/

def maxWholeLength : Nat := 4300

/-- A whole number in its plain form: an optional minus sign, and digits without leading zeros. -/
def plainWhole (s : List Char) : Except SettingFault Int :=
  let (negative, digits) := match s with
    | '-' :: rest => (true, rest)
    | s => (false, s)
  let run := digits.takeWhile Char.isDigit
  match run with
  | [] => .error .wholeSyntax
  | '0' :: _ => if digits.length = 1 then .ok 0 else .error .wholeSyntax
  | _ =>
    if maxWholeLength < s.length - (digits.length - run.length) then .error .wholeTooLong
    else if run.length < digits.length then .error .wholeSyntax
    else
      let n : Nat := Literal.digitsValue run
      .ok (if negative then -(n : Int) else n)

/-- A number that starts with zeros, from its first other digit on. Underscores may stand among the
zeros; one zero stays if nothing else is left, or a point follows. -/
def dropZeros (last : Char) : List Char → Option (List Char)
  | [] => some [last]
  | c :: rest =>
    if c = '0' ∨ c = '_' then dropZeros c rest
    else if c.isDigit then some (c :: rest)
    else if c = '.' then some (last :: c :: rest)
    else none

/-- Without leading zeros; `none` if the text starts with neither a digit nor a minus sign. -/
def withoutZeros? (s : List Char) : Option (List Char) :=
  match s with
  | '0' :: rest => dropZeros '0' rest
  | c :: _ => if c.isDigit ∨ c = '-' then some s else none
  | [] => none

/-- Without a point that only zeros follow. -/
def withoutFraction (s : List Char) : List Char :=
  match s.dropWhile (· != '.') with
  | [] => s
  | _ :: places => if places.all (· == '0') then s.takeWhile (· != '.') else s

def hasDoubleUnderscore : List Char → Bool
  | '_' :: '_' :: _ => true
  | _ :: rest => hasDoubleUnderscore rest
  | [] => false

/-- Without underscores, if they stand one by one between other characters. -/
def withoutUnderscores? (s : List Char) : Option (List Char) :=
  if s.head? == some '_' || s.getLast? == some '_' || !s.contains '_' || hasDoubleUnderscore s then
    none
  else some (s.filter (· != '_'))

/-- The plain form of a number that is written with some freedom. -/
def cleanWhole? (s : List Char) : Option (List Char) :=
  let s := Text.stripWhile Text.isWhiteSpace s
  let unsigned? := match s with
    | '+' :: '-' :: _ => none
    | '+' :: rest => some rest
    | s => some s
  (unsigned?.bind withoutZeros?).map fun s =>
    let s := withoutFraction s
    (withoutUnderscores? s).getD s

def wholeOfText (text : String) : Except SettingFault Int :=
  match plainWhole text.toList with
  | .ok n => .ok n
  | .error .wholeTooLong => .error .wholeTooLong
  | .error _ =>
    match cleanWhole? text.toList with
    | some s => plainWhole s
    | none => .error .wholeSyntax

/-- A double without a fraction, as long as 63 bits and a sign are enough for it. -/
def wholeOfDouble (x : Binary64) : Except SettingFault Int :=
  match x.value? with
  | none => .error .notFinite
  | some v =>
    if v.den ≠ 1 then .error .wholeWithFraction
    else if -0x8000000000000000 < v.num ∧ v.num < 0x8000000000000000 then .ok v.num
    else .error .wholeTooLong

def whole : SettingValue → Except SettingFault Int
  | text s => wholeOfText s
  | number (.whole n) => .ok n
  | number (.float x) => wholeOfDouble x
  | flag b => .ok (if b then 1 else 0)
  | other => .error .notWhole

/-! ### Numbers -/

def lowerAscii (s : List Char) : List Char := s.map Char.toLower

/-- A decimal literal, or a name of infinity or of no number. -/
def plainDouble? (s : List Char) : Option Binary64 :=
  let (negative, rest) := Literal.sign s
  let name := String.ofList (lowerAscii rest)
  if name = "inf" ∨ name = "infinity" then some (Binary64.signedInfinity negative)
  else if name = "nan" then some .nan
  else (Literal.parse? s).map Literal.toDouble

def doubleOfText (text : String) : Except SettingFault Binary64 :=
  let strip := Text.stripWhile Text.isWhiteSpace
  let s := text.toList
  match plainDouble? (strip s) <|> (withoutUnderscores? s).bind fun s => plainDouble? (strip s) with
  | some x => .ok x
  | none => .error .numberSyntax

def double : SettingValue → Except SettingFault Binary64
  | text s => doubleOfText s
  | number x =>
    match x.toDouble with
    | .ok x => .ok x
    | .error _ => .error .notNumber
  | flag b => .ok (.finite (if b then 1 else 0))
  | other => .error .notNumber

/-! ### Texts -/

def string : SettingValue → Except SettingFault String
  | text s => .ok s
  | _ => .error .notText

/-- The capital of a letter whose capital is in ASCII. -/
def capital (c : Char) : Char :=
  if c = 'ı' then 'I' else if c = 'ſ' then 'S' else c.toUpper

def levels : List String :=
  ["CRITICAL", "FATAL", "ERROR", "WARN", "WARNING", "INFO", "DEBUG", "NOTSET"]

/-- A level of the journal, in capitals. -/
def level (v : SettingValue) : Except SettingFault String := do
  let s ← v.string
  let name := String.ofList (s.toList.map capital)
  if levels.contains name then return name else throw (.unknownLevel s)

end SettingValue
end LinkMonitor
