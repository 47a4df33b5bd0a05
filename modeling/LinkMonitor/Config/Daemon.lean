import LinkMonitor.Check.Record
import LinkMonitor.Config.EnabledChecks
import LinkMonitor.Files.Path
import LinkMonitor.Numeric.Number

/-!
# Configuration of the daemon

A configuration that exists has passed all checks: it enables something and nothing twice, its period
and its save interval are at least one, its time limit is not zero or less, its gap tolerance is not
less than one, and each default target is an address of its stack.
-/

namespace LinkMonitor

/-- Why there is no such configuration. -/
inductive ConfigError
  | entry (error : EntryError)
  | duplicates (enabled : List Combination)
  | periodNotPositive (period : Int)
  | timeoutNotPositive (timeout : Binary64)
  | saveEveryTooSmall (saveEvery : Int)
  | toleranceTooSmall (tolerance : Binary64)
  | badTarget (error : AddressError)
  | targetOnWrongStack (stack : IpStack) (text : String)
  deriving DecidableEq, Repr

namespace ConfigError

/-- A combination as diagnostics show it. -/
def memberText (c : Combination) : String :=
  CheckRecord.memberText "Combination"
    (CheckRecord.upperAscii c.kind.value ++ "_" ++ CheckRecord.upperAscii c.stack.value) c.value

def message : ConfigError → String
  | entry e => e.message
  | duplicates cs =>
    "Duplicate checks enabled: (" ++ String.intercalate ", " (cs.map memberText) ++ ")"
  | periodNotPositive n => "period_seconds must be positive, got " ++ toString n
  | timeoutNotPositive x => "timeout_seconds must be positive, got " ++ x.text
  | saveEveryTooSmall n => "save_every must be at least 1, got " ++ toString n
  | toleranceTooSmall x => "gap_tolerance must be at least 1 period, got " ++ x.text
  | badTarget e => e.message
  | targetOnWrongStack stack text =>
    "target_" ++ stack.value ++ " is not an " ++ stack.label ++ " address: " ++ text

end ConfigError

/-- Values for a configuration that have not been checked yet. -/
structure ConfigDraft where
  enabled : List Combination
  storePath : Path
  period : Int := 60
  timeout : Binary64 := .finite 10
  targetV4 : String := defaultTargetText .v4
  targetV6 : String := defaultTargetText .v6
  saveEvery : Int := 1
  tolerance : Binary64 := .finite (3 / 2)
  pidFile : Option Path := none
  daemonName : String := "netpulsed"
  logLevel : String := "INFO"
  deriving Repr

structure DaemonConfig where
  enabled : List Combination
  storePath : Path
  /-- Seconds between two cycles. -/
  period : Int
  /-- Seconds after which a check is given up. -/
  timeout : Binary64
  targetV4 : Target
  targetV6 : Target
  /-- Cycles between two saves. -/
  saveEvery : Int
  /-- The greatest gap inside an outage, in periods. -/
  tolerance : Binary64
  pidFile : Option Path
  daemonName : String
  logLevel : String
  enabled_ne_nil : enabled ≠ []
  enabled_nodup : enabled.Nodup
  period_pos : 0 < period
  timeout_pos : timeout.le (.finite 0) = false
  saveEvery_pos : 1 ≤ saveEvery
  tolerance_ge : tolerance.lt (.finite 1) = false
  targetV4_stack : targetV4.stack = .v4
  targetV6_stack : targetV6.stack = .v6

namespace DaemonConfig

/-- The text as an address of the stack. -/
def targetOn (stack : IpStack) (text : String) :
    Except ConfigError { t : Target // t.stack = stack } :=
  match Target.parse text with
  | .error e => .error (.badTarget e)
  | .ok target =>
    if h : target.stack = stack then .ok ⟨target, h⟩ else .error (.targetOnWrongStack stack text)

def make (d : ConfigDraft) : Except ConfigError DaemonConfig :=
  if h1 : d.enabled = [] then .error (.entry .nothingEnabled)
  else if h2 : ¬d.enabled.Nodup then .error (.duplicates d.enabled)
  else if h3 : d.period ≤ 0 then .error (.periodNotPositive d.period)
  else if h4 : d.timeout.le (.finite 0) then .error (.timeoutNotPositive d.timeout)
  else if h5 : d.saveEvery < 1 then .error (.saveEveryTooSmall d.saveEvery)
  else if h6 : d.tolerance.lt (.finite 1) then .error (.toleranceTooSmall d.tolerance)
  else do
    let ⟨targetV4, hv4⟩ ← targetOn .v4 d.targetV4
    let ⟨targetV6, hv6⟩ ← targetOn .v6 d.targetV6
    return {
      enabled := d.enabled
      storePath := d.storePath
      period := d.period
      timeout := d.timeout
      targetV4
      targetV6
      saveEvery := d.saveEvery
      tolerance := d.tolerance
      pidFile := d.pidFile
      daemonName := d.daemonName
      logLevel := d.logLevel
      enabled_ne_nil := h1
      enabled_nodup := Decidable.of_not_not h2
      period_pos := by omega
      timeout_pos := by simpa using h4
      saveEvery_pos := by omega
      tolerance_ge := by simpa using h6
      targetV4_stack := hv4
      targetV6_stack := hv6 }

/-- Where to aim the checks of a combination. -/
def targetFor (config : DaemonConfig) (c : Combination) : Target :=
  match c.stack with
  | .v4 => config.targetV4
  | .v6 => config.targetV6

theorem targetFor_stack (config : DaemonConfig) (c : Combination) :
    (config.targetFor c).stack = c.stack := by
  unfold targetFor
  split
  · next h => rw [h, config.targetV4_stack]
  · next h => rw [h, config.targetV6_stack]

/-- The same configuration for another store. -/
def withStore (config : DaemonConfig) (path : Path) : DaemonConfig :=
  { config with storePath := path }

end DaemonConfig
end LinkMonitor
