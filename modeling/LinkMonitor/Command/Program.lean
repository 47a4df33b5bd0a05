import LinkMonitor.Command.Line
import LinkMonitor.Config.Settings
import LinkMonitor.Console.Print
import LinkMonitor.Daemon.Instance
import LinkMonitor.Daemon.Service
import LinkMonitor.Report

/-!
# The programs

`reader` runs a command line of `netpulse` and `daemon` one of `netpulsed`. Both print on the console
and end with an exit status: 2 for a command line that cannot be read, and 1 for a configuration or a
store that is not fit for use. Failures that a user is not expected to cause end a program without a
status.
-/

namespace LinkMonitor

/-- What ends a program without an exit status. -/
inductive ProgramError
  | store (error : StoreError)
  | file (error : FileError)
  | time (error : TimeError)
  | analysis (error : AnalysisError)
  | check (error : CheckError)
  | cycle (error : CycleError)
  | service (error : ServiceError)
  | markup (error : MarkupError)
  deriving DecidableEq

def ProgramError.message : ProgramError → String
  | store e => e.message
  | file e => e.message
  | time e => e.message
  | analysis e => e.message
  | check e => e.message
  | cycle e => e.message
  | service e => e.message
  | markup e => e.message

namespace Program

abbrev Run := Action ProgramError

def versionText : String := "0.1.0"

def say (markup : String) : Run Unit := (Console.printWrapped .output markup).mapError .markup

def complain (markup : String) : Run Unit := (Console.printWrapped .errors markup).mapError .markup

def printUsage (usage : String) : Run Unit := Action.printLine .output usage

/-- What is printed instead of running a command. -/
def stop : CommandStop → Run Nat
  | .help usage => do
    printUsage usage
    return 0
  | .refused usage program reason => do
    let complaint := program ++ ": error: " ++ reason
    Action.printLine .errors usage
    Action.printLines .errors ((Wrap.lines complaint.toList).map String.ofList)
    return 2

/-- The configuration, for another store if one is named. -/
def configuration (settings : Settings) (store : Option String) : Except ConfigError DaemonConfig := do
  let config ← settings.config
  match store with
  | none => return config
  | some path => return if path.isEmpty then config else config.withStore (Path.ofString path)

/-- Runs a command with the configuration, or tells what is wrong with that. -/
def configured (settings : Settings) (store : Option String) (command : DaemonConfig → Run Nat) :
    Run Nat :=
  match configuration settings store with
  | .ok config => command config
  | .error e => do
    complain ("[red]Invalid configuration:[/red] " ++ e.message)
    return 1

/-! ### Commands of the reader -/

def printRecord (r : CheckRecord) : Run Unit := do
  let line ← (Action.ofExcept r.describe).mapError .time
  (Console.printWhole .output line).mapError .markup

def printRecords (records : List CheckRecord) : Run Unit := do
  if records.isEmpty then say "[dim]No checks[/dim]"
  records.forM printRecord

def load (config : DaemonConfig) (readonly : Bool) : Run Store :=
  (Store.load config.storePath readonly).mapError .store

def save (s : Store) : Run Store := s.save.mapError .store

def reportError : ReportError → ProgramError
  | .store e => .store e
  | .time e => .time e
  | .analysis e => .analysis e

def analyze (options : AnalysisOptions) (config : DaemonConfig) : Run Nat := do
  let store ← load config true
  let query : OutageQuery := {
    period := .whole config.period
    enabled := config.enabled
    stack := options.stack
    cutoff := options.cutoff
    tolerance := .float config.tolerance }
  (Report.render query options.bySeverity store).mapError reportError
  return 0

def dump (failedOnly : Bool) (config : DaemonConfig) : Run Nat := do
  let store ← load config true
  printRecords (store.records.filter fun r => !(failedOnly && r.isSuccess))
  return 0

/-- Runs all checks once, without a store. -/
def test (transport : Transport) (config : DaemonConfig) : Run Nat := do
  let timestamp ← (Action.ofExcept (Check.timestampOf (← Action.clock))).mapError .check
  printRecords (← (Cycle.run config transport timestamp).mapError .cycle)
  return 0

def rewrite (config : DaemonConfig) : Run Nat := do
  let store ← save (← load config false)
  say ("Rewrote " ++ config.storePath.text ++ " (" ++ toString store.size ++ " checks, version " ++
    toString store.version.tag ++ ")")
  return 0

def migrate (config : DaemonConfig) : Run Nat := do
  let store ← load config false
  let old := toString store.version.tag
  match ← store.migrate.mapError .store with
  | (false, _) => say ("Store is already at version " ++ old ++ ", nothing to do")
  | (true, store) => do
    let store ← save store
    say ("Migrated " ++ config.storePath.text ++ " from version " ++ old ++ " to " ++
      toString store.version.tag)
  return 0

def readerCommand (transport : Transport) : ReaderCommand → DaemonConfig → Run Nat
  | .analyze options => analyze options
  | .dump failedOnly => dump failedOnly
  | .test => test transport
  | .rewrite => rewrite
  | .migrate => migrate
  | .version => fun _ => return 0

/-- Runs a command; failures of the store are told to the user. -/
def tellingStoreErrors (command : Run Nat) : Run Nat := do
  match ← Action.attempt command with
  | .ok status => return status
  | .error (.store e) => do
    complain ("[red]Store error:[/red] " ++ e.message)
    return 1
  | .error e => throw e

def reader (settings : Settings) (transport : Transport) (args : List String) : Run Nat :=
  match ReaderCommand.parse args with
  | .error s => stop s
  | .ok ⟨_, .version⟩ => do
    say ("netpulse " ++ versionText)
    return 0
  | .ok line =>
    configured settings line.store fun config =>
      tellingStoreErrors (readerCommand transport line.command config)

/-! ### Commands of the daemon -/

/-- What the daemon shows before it starts. -/
def banner (config : DaemonConfig) : String :=
  "[bold]netpulse daemon[/bold]\nStore:  " ++ config.storePath.text ++
    "\nChecks: " ++ String.intercalate ", " (config.enabled.map Combination.value) ++
    "\nPeriod: " ++ toString config.period ++ "s (timeout " ++ config.timeout.text ++ "s)"

def serve (around : Surroundings) (fuel : Nat) (config : DaemonConfig) : Run Service := fun h =>
  let (service, h) := Service.run around config fuel h
  (.ok service, h)

def announce (config : DaemonConfig) : Run Unit := do
  let panel ← (Console.shown fun known =>
    Panel.ofMarkup known (banner config) config.daemonName).mapError .markup
  Action.printLines .output panel

/-- A service without a status of its own, or with another instance in its way, ends with status 1. -/
def conclude : Except ServiceError (Option Nat) → Run Nat
  | .ok status => return status.getD 1
  | .error (.guard (.alreadyRunning pid name)) => do
    complain ("[red]" ++ (GuardError.alreadyRunning pid name).message ++ "[/red]")
    return 1
  | .error e => throw (.service e)

def runDaemon (around : Surroundings) (fuel : Nat) (config : DaemonConfig) : Run Nat := do
  announce config
  conclude (← serve around fuel config).status

def info (config : DaemonConfig) : Run Nat := do
  match ← (Instance.find config).mapError .file with
  | none => do
    say (config.daemonName ++ " is [red]not running[/red]")
    return 1
  | some p => do
    say (config.daemonName ++ " is [green]running[/green] (pid " ++ toString p.pid ++ ")")
    let about := "Store " ++ config.storePath.text ++ ": "
    match ← Action.attempt (Store.peekVersion config.storePath) with
    | .ok version => say (about ++ "version " ++ toString version.tag)
    | .error e => say (about ++ "[yellow]" ++ e.message ++ "[/yellow]")
    return 0

def stopDaemon (config : DaemonConfig) : Run Nat := do
  match ← (Instance.stop config).mapError .file with
  | none => do
    complain (config.daemonName ++ " is not running")
    return 1
  | some pid => do
    say ("Asked " ++ config.daemonName ++ " (pid " ++ toString pid ++ ") to stop")
    return 0

def daemonCommand (around : Surroundings) (fuel : Nat) : DaemonCommand → DaemonConfig → Run Nat
  | .run => runDaemon around fuel
  | .info => info
  | .stop => stopDaemon

def daemon (settings : Settings) (around : Surroundings) (fuel : Nat) (args : List String) :
    Run Nat :=
  match DaemonCommand.parse args with
  | .error s => stop s
  | .ok ⟨_, none⟩ => do
    printUsage DaemonCommand.grammar.usage
    return 1
  | .ok ⟨store, some command⟩ => configured settings store (daemonCommand around fuel command)

/-! ### Command lines -/

/-- The configuration for a command line, if that can be read. -/
def configurationFor? (settings : Settings) (args : List String) : Option DaemonConfig := do
  let store ← match args with
    | "netpulsed" :: args => (DaemonCommand.parse args).toOption.map CommandLine.store
    | args => (ReaderCommand.parse (args.drop 1)).toOption.map CommandLine.store
  (configuration settings store).toOption

/-- Whether a command line starts a service, which may run for ever. -/
def isService : List String → Bool
  | "netpulsed" :: args =>
    match DaemonCommand.parse args with
    | .ok ⟨_, some .run⟩ => true
    | _ => false
  | _ => false

/-- Runs a command line that starts with the name of the program. -/
def run (settings : Settings) (around : Surroundings) (fuel : Nat) : List String → Run Nat
  | "netpulsed" :: args => daemon settings around fuel args
  | args => reader settings (around.transport 1) (args.drop 1)

end Program
end LinkMonitor
