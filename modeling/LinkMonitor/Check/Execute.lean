import LinkMonitor.Host.Basic

/-!
# Running a single check

A probe that fails, or breaks down, makes a failed record.
-/

namespace LinkMonitor

/-- Why a check leaves no record. -/
inductive CheckError
  | clock (error : NumberError)
  | latency (error : NumberError)
  | record (error : RecordError)
  | time (error : TimeError)
  /-- The probe has not come back. -/
  | unfinished
  deriving DecidableEq, Repr

namespace CheckError

def message : CheckError → String
  | clock e | latency e => e.message
  | record e => e.message
  | time e => e.message
  | unfinished => ""

end CheckError

namespace Check

/-- Whole seconds of a reading of the clock, the fraction dropped. -/
def timestampOf (clock : Number) : Except CheckError Int :=
  match clock.truncate with
  | .ok t => .ok t
  | .error e => .error (.clock e)

/-- Whole milliseconds in the range of a record: greater latencies count as the greatest. -/
def clampLatency (latency : Number) : Except CheckError Int :=
  match latency.truncate with
  | .ok n => .ok (min (max 0 n) maxLatency)
  | .error e => .error (.latency e)

def ofRecord (r : Except RecordError CheckRecord) : Except CheckError CheckRecord :=
  match r with
  | .ok r => .ok r
  | .error e => .error (.record e)

/-- The record of a reply. A success is also described, which needs a time that has a text. -/
def recordOf (combination : Combination) (target : String) (timestamp : Int) :
    ProbeReply → Except CheckError CheckRecord
  | .answered latency => do
    let n ← clampLatency latency
    let r ← ofRecord (CheckRecord.success timestamp combination target n)
    match r.describe with
    | .ok _ => return r
    | .error e => throw (.time e)
  | .failed cause _ => ofRecord (CheckRecord.failure timestamp combination target cause)
  | .broken _ _ => ofRecord (CheckRecord.failure timestamp combination target .error)
  | .pending => .error .unfinished

/-- What the journal gets about a reply. -/
def notice? (combination : Combination) (target : String) : ProbeReply → Option String
  | .failed cause message =>
    some (combination.value ++ " check against " ++ target ++ " failed: " ++
      ProbeReply.failureText cause message)
  | .broken kind message =>
    some (combination.value ++ " check against " ++ target ++ " raised " ++ kind ++ ": " ++ message)
  | _ => none

def execute (transport : Transport) (combination : Combination) (target : String)
    (timeout : Binary64) (timestamp : Int) : Action CheckError CheckRecord := do
  let order : ProbeOrder := ⟨combination.kind, target, timeout⟩
  Action.recordProbe order
  let reply := transport order
  if let some text := notice? combination target reply then Action.write .warning .check text
  Action.ofExcept (recordOf combination target timestamp reply)

end Check
end LinkMonitor
