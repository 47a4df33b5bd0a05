import LinkMonitor.Check.Combination
import LinkMonitor.Time.Calendar

/-!
# Check records

The outcome of one check at one time. A record that exists is valid: its latency is in range, its
target is an address, and its stack is the stack of that address.
-/

namespace LinkMonitor

/-- The greatest latency that a record can carry, in milliseconds. -/
def maxLatency : Nat := 65534

/-- Milliseconds from 0 to `maxLatency`. -/
abbrev Latency := Fin 65535

inductive Outcome
  | success (latency : Latency)
  | failure (cause : FailureCause)
  deriving DecidableEq, Repr

namespace Outcome

def isSuccess : Outcome → Bool
  | success _ => true
  | failure _ => false

def latency? : Outcome → Option Latency
  | success n => some n
  | failure _ => none

def cause? : Outcome → Option FailureCause
  | success _ => none
  | failure c => some c

end Outcome

structure CheckRecord where
  /-- Seconds since 1970. -/
  timestamp : Int
  kind : CheckKind
  target : Target
  outcome : Outcome
  deriving DecidableEq

/-- Why there is no record of the given parts. -/
inductive RecordError
  | outcomeUnclear
  | latencyOutOfRange (latency : Int)
  | badTarget (error : AddressError)
  | wrongStack (target : String) (stack : IpStack)
  deriving DecidableEq, Repr

def RecordError.message : RecordError → String
  | outcomeUnclear => "A check record needs either a latency (success) or a cause (failure)"
  | latencyOutOfRange n => "Latency out of range 0.." ++ toString maxLatency ++ ": " ++ toString n
  | badTarget e => e.message
  | wrongStack target stack => "Target " ++ target ++ " is not an " ++ stack.label ++ " address"

namespace CheckRecord

def stack (r : CheckRecord) : IpStack := r.target.stack

def combination (r : CheckRecord) : Combination := ⟨r.kind, r.stack⟩

def isSuccess (r : CheckRecord) : Bool := r.outcome.isSuccess

def latency? (r : CheckRecord) : Option Latency := r.outcome.latency?

def latencyOf (n : Int) : Except RecordError Latency :=
  if h : 0 ≤ n ∧ n ≤ 65534 then .ok ⟨n.toNat, by omega⟩ else .error (.latencyOutOfRange n)

/-- Exactly one of latency and cause makes an outcome. -/
def outcomeOf (latency? : Option Int) (cause? : Option FailureCause) :
    Except RecordError Outcome :=
  match latency?, cause? with
  | some n, none => Outcome.success <$> latencyOf n
  | none, some c => .ok (.failure c)
  | _, _ => .error .outcomeUnclear

/-- The target of a text that has to be an address of `stack`. -/
def targetOn (stack : IpStack) (text : String) : Except RecordError Target :=
  match Target.parse text with
  | .error e => .error (.badTarget e)
  | .ok target => if target.stack = stack then .ok target else .error (.wrongStack text stack)

def make (timestamp : Int) (combination : Combination) (target : String)
    (latency? : Option Int) (cause? : Option FailureCause) : Except RecordError CheckRecord := do
  let outcome ← outcomeOf latency? cause?
  let target ← targetOn combination.stack target
  return ⟨timestamp, combination.kind, target, outcome⟩

def success (timestamp : Int) (combination : Combination) (target : String) (latency : Int) :
    Except RecordError CheckRecord :=
  make timestamp combination target (some latency) none

def failure (timestamp : Int) (combination : Combination) (target : String)
    (cause : FailureCause) : Except RecordError CheckRecord :=
  make timestamp combination target none (some cause)

def outcomeText (r : CheckRecord) : String :=
  match r.outcome with
  | .success n => toString n.val ++ " ms"
  | .failure c => "FAILED (" ++ c.value ++ ")"

/-- The line that lists show for a record. -/
def describe (r : CheckRecord) : Except TimeError String := do
  let time ← formatTimestamp r.timestamp
  return time ++ "  " ++ padRight 7 ' ' r.kind.label ++ " " ++ r.stack.label ++ "  " ++
    padRight 22 ' ' r.target.text ++ " " ++ r.outcomeText

/-- A member of an enumeration as diagnostics show it. -/
def memberText (enumeration member value : String) : String :=
  "<" ++ enumeration ++ "." ++ member ++ ": '" ++ value ++ "'>"

def upperAscii (s : String) : String := String.ofList (s.toList.map Char.toUpper)

/-- The record with all fields, as diagnostics show it. -/
def fieldsText (r : CheckRecord) : String :=
  let optional (o : Option String) : String := o.getD "None"
  "CheckRecord(timestamp=" ++ toString r.timestamp ++
    ", kind=" ++ memberText "CheckKind" (upperAscii r.kind.value) r.kind.value ++
    ", stack=" ++ memberText "IpStack" (upperAscii r.stack.value) r.stack.value ++
    ", target=" ++ Text.quoted r.target.text ++
    ", latency_ms=" ++ optional (r.latency?.map fun n => toString n.val) ++
    ", cause=" ++ optional (r.outcome.cause?.map fun c =>
      memberText "FailureCause" (upperAscii c.value) c.value) ++ ")"

end CheckRecord
end LinkMonitor
