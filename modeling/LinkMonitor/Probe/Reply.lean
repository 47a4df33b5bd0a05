import LinkMonitor.Check.Record
import LinkMonitor.Numeric.Number

/-!
# Probes and what they answer
-/

namespace LinkMonitor

/-- A probe to be made. -/
structure ProbeOrder where
  kind : CheckKind
  target : String
  timeout : Binary64
  deriving DecidableEq, Repr

/-- What is probed: the kind of the probe on the stack of its target. -/
def ProbeOrder.combination (o : ProbeOrder) : Except AddressError Combination := do
  return ⟨o.kind, (← Target.parse o.target).stack⟩

inductive ProbeReply
  /-- The target answered after so many milliseconds. -/
  | answered (latency : Number)
  /-- The target was not reached, for a known cause. -/
  | failed (cause : FailureCause) (message : String)
  /-- The probe itself broke down, with a failure of the given kind. -/
  | broken (kind message : String)
  /-- Nothing has come back yet. -/
  | pending
  deriving DecidableEq, Repr

/-- How probes are made. -/
abbrev Transport := ProbeOrder → ProbeReply

namespace ProbeReply

/-- The text of a failure: its message, or the cause if there is none. -/
def failureText (cause : FailureCause) (message : String) : String :=
  if message.isEmpty then cause.value else message

def kindOfNumberError : NumberError → String
  | .nanToWhole => "ValueError"
  | .tooLargeForDouble | .infinityToWhole => "OverflowError"

/-- An answer after a time that is rounded to whole milliseconds. -/
def ofLatency (latency : Except NumberError Number) : ProbeReply :=
  match latency >>= Number.round with
  | .ok n => .answered (.whole n)
  | .error e => .broken (kindOfNumberError e) e.message

end ProbeReply
end LinkMonitor
