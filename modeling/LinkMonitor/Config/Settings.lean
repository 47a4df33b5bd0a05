import LinkMonitor.Config.Daemon
import LinkMonitor.Config.SettingValue
import LinkMonitor.Config.VariableFile
import LinkMonitor.Text.Lowercase

/-!
# Settings

What an operator can set, and where it comes from: an argument, a variable of the environment, a
variable file, or the default, the first of these that has it. Names of variables begin with
`NETPULSE_`; their case does not matter. All settings that cannot be read are reported together.
-/

namespace LinkMonitor

structure Settings where
  storePath : String := "/var/lib/netpulse/netpulse.store"
  period : Int := 60
  timeout : Binary64 := .finite 10
  enabledChecks : String := "http-v4,http-v6,icmp-v4,icmp-v6"
  targetV4 : String := defaultTargetText .v4
  targetV6 : String := defaultTargetText .v6
  saveEvery : Int := 1
  tolerance : Binary64 := .finite (3 / 2)
  pidFile : String := "/run/netpulse/netpulse.pid"
  daemonName : String := "netpulsed"
  logLevel : String := "INFO"
  deriving DecidableEq, Repr

/-- A setting that cannot be read. -/
structure SettingError where
  field : String
  fault : SettingFault
  deriving DecidableEq, Repr

namespace SettingError

def text (e : SettingError) : String :=
  e.field ++ ": " ++ e.fault.label ++ ": " ++ e.fault.message

def allText (es : List SettingError) : String := String.intercalate "; " (es.map text)

end SettingError

/-- Where settings come from. -/
structure SettingSources where
  arguments : List (String × SettingValue) := []
  environment : List (String × String) := []
  /-- The content of the variable file. -/
  file : String := ""

namespace SettingSources

def variablePrefix : String := "netpulse_"

/-- The value of a variable whose name is the given one in lower case; of several, the last one. -/
def lookUp (vars : Variables) (name : String) : Option String :=
  ((vars.reverse.find? fun v => Text.lower v.1 == name).bind fun v => v.2)

/-- The value for a field, unless it keeps its default. -/
def value? (sources : SettingSources) (field : String) : Option SettingValue :=
  let name := variablePrefix ++ field
  let environment := sources.environment.map fun v => (v.1, some v.2)
  sources.arguments.lookup field <|>
    (lookUp environment name).map .text <|>
    (lookUp (VariableFile.read sources.environment sources.file) name).map .text

end SettingSources

namespace Settings

variable {α β : Type}

/-- Results that report all errors together. -/
abbrev Checked (α : Type) := Except (List SettingError) α

def both (f : Checked (α → β)) (x : Checked α) : Checked β :=
  match f, x with
  | .ok f, .ok x => .ok (f x)
  | .ok _, .error e => .error e
  | .error e, .ok _ => .error e
  | .error e, .error e' => .error (e ++ e')

/-- The field as it is given, or its default. -/
def field (sources : SettingSources) (name : String)
    (read : SettingValue → Except SettingFault α) (default : α) : Checked α :=
  match sources.value? name with
  | none => .ok default
  | some v =>
    match read v with
    | .ok x => .ok x
    | .error fault => .error [⟨name, fault⟩]

def read (sources : SettingSources) : Checked Settings :=
  let d : Settings := {}
  let next {α β : Type} (f : Checked (α → β)) (name : String)
      (reader : SettingValue → Except SettingFault α) (default : α) : Checked β :=
    both f (field sources name reader default)
  let s := next (.ok Settings.mk) "store_path" SettingValue.string d.storePath
  let s := next s "period_seconds" SettingValue.whole d.period
  let s := next s "timeout_seconds" SettingValue.double d.timeout
  let s := next s "enabled_checks" SettingValue.string d.enabledChecks
  let s := next s "target_v4" SettingValue.string d.targetV4
  let s := next s "target_v6" SettingValue.string d.targetV6
  let s := next s "save_every" SettingValue.whole d.saveEvery
  let s := next s "gap_tolerance" SettingValue.double d.tolerance
  let s := next s "pid_file" SettingValue.string d.pidFile
  let s := next s "daemon_name" SettingValue.string d.daemonName
  next s "log_level" SettingValue.level d.logLevel

/-- The configuration that the settings describe. -/
def config (s : Settings) : Except ConfigError DaemonConfig :=
  match EnabledChecks.parse s.enabledChecks with
  | .error e => .error (.entry e)
  | .ok enabled =>
    DaemonConfig.make {
      enabled
      storePath := Path.ofString s.storePath
      period := s.period
      timeout := s.timeout
      targetV4 := s.targetV4
      targetV6 := s.targetV6
      saveEvery := s.saveEvery
      tolerance := s.tolerance
      pidFile := if s.pidFile.isEmpty then none else some (Path.ofString s.pidFile)
      daemonName := s.daemonName
      logLevel := s.logLevel }

end Settings
end LinkMonitor
