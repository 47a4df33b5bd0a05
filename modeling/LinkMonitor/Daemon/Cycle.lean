import LinkMonitor.Check.Execute
import LinkMonitor.Config.Daemon

/-!
# Cycles

One cycle runs a check for every enabled combination, all at the same time, and has a record for each
of them in the order of the configuration. A check that has not come back is recorded as a timeout.
-/

namespace LinkMonitor

/-- Why a cycle cannot be run. -/
inductive CycleError
  /-- The clock of the system cannot wait as long as the time limit asks. -/
  | limitTooLong
  deriving DecidableEq, Repr

def CycleError.message : CycleError → String
  | limitTooLong => "timestamp too large to convert to C _PyTime_t"

namespace Cycle

/-- Seconds that a check gets beyond its time limit. -/
def grace : Binary64 := .finite 1

/-- The longest time that can be waited for is below `2 ^ 63` nanoseconds. -/
def canWait (config : DaemonConfig) : Bool :=
  match config.timeout.add grace with
  | .infinity => false
  | .finite seconds => seconds * 1000000000 < 0x8000000000000000
  | _ => true

def unfinishedNotice (config : DaemonConfig) (c : Combination) : String :=
  c.value ++ " check did not finish within " ++ config.timeout.fixed 1 ++ "s, recording a timeout"

/-- The record of a check that has not come back. -/
def timeoutRecord (config : DaemonConfig) (timestamp : Int) (c : Combination) : CheckRecord :=
  ⟨timestamp, c.kind, config.targetFor c, .failure .timeout⟩

/-- The record that takes part in the cycle, made up if there is none. -/
def settle (config : DaemonConfig) (timestamp : Int) :
    Combination × Except CheckError CheckRecord → Action CycleError CheckRecord
  | (_, .ok r) => return r
  | (c, .error _) => do
    Action.warn (unfinishedNotice config c)
    return timeoutRecord config timestamp c

def summaryNotice (timestamp : Int) (records : List CheckRecord) : String :=
  "Cycle at " ++ toString timestamp ++ ": " ++ toString records.length ++ " checks, " ++
    toString (records.countP fun r => !r.isSuccess) ++ " failed"

def run (config : DaemonConfig) (transport : Transport) (timestamp : Int) :
    Action CycleError (List CheckRecord) := do
  let results ← config.enabled.mapM fun c => do
    let result ← Action.attempt
      (Check.execute transport c (config.targetFor c).text config.timeout timestamp)
    return (c, result)
  if !canWait config then throw .limitTooLong
  let records ← results.mapM (settle config timestamp)
  Action.info (summaryNotice timestamp records)
  return records

end Cycle
end LinkMonitor
