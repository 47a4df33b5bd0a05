import LinkMonitor.Outside.World

/-!
# The command line

A command runs on the host as it finds it: once to learn which probes it asks for, and once more with
their answers. A service is run pass by pass, each of them on the host as it is at that time.
-/

namespace LinkMonitor
namespace World

def exitStatus : Except ProgramError Nat → IO UInt32
  | .ok status => return UInt32.ofNat status
  | .error e => do
    IO.eprintln e.message
    return 1

def runCommand (settings : Settings) (args : List String) : IO UInt32 := do
  let paths := ((Program.configurationFor? settings args).map paths).getD []
  let h ← host paths
  let run (t : Transport) := (Program.run settings (calm t) 0 args).run h
  let transport ← Network.transport (ordersOf fun t => (run t).2)
  let (result, after) := run transport
  apply settings.logLevel paths h after
  exitStatus result

/-- What happens around the next pass of a loop. -/
def surroundings (listeners : List Listener) (l : ControlLoop) (h : Host) : IO Surroundings := do
  let quiet := calm fun _ => .pending
  if l.signals.reloadRequested || l.signals.woken then return quiet
  match ControlLoop.nextBoundary l.config.period l.lastBoundary h.clock with
  | .error _ => return quiet
  | .ok boundary =>
    let early ← waitFor listeners boundary
    if !early.isEmpty then return { quiet with duringWait := fun _ _ => pure early }
    let orders := ordersOf fun t => ((Cycle.run l.config t boundary).run {}).2
    let transport ← Network.transport orders
    let late ← requests listeners
    return { calm transport with afterChecks := fun _ => pure late }

/-- Passes until the loop ends: its exit status. -/
partial def passes (listeners : List Listener) (l : ControlLoop) : IO (Option Nat) := do
  let paths := paths l.config
  let around ← surroundings listeners l (← host paths)
  let h ← host paths
  let (status, l, after) :=
    Service.control (ControlLoop.passes around 1) { l with events := [] } h
  apply l.config.logLevel paths h after
  match status with
  | some status => return some status
  | none => passes listeners l

/-- Runs an action on the host as it is now. -/
def perform {ε α : Type} (config : DaemonConfig) (a : Action ε α) : IO (Except ε α) := do
  let h ← host (paths config)
  let (result, after) := a.run h
  apply config.logLevel (paths config) h after
  return result

def loopOf (config : DaemonConfig) : IO (Option Nat) := do
  let listeners ← listen
  let h ← host (paths config)
  let start := ControlLoop.run (calm fun _ => .pending) 0
  let (status, l, after) := Service.control start (Service.newLoop config h.pid) h
  apply config.logLevel (paths config) h after
  match status with
  | some status => return some status
  | none => passes listeners l

/-- Runs the daemon in the foreground. -/
def runService (config : DaemonConfig) : IO UInt32 := do
  let .ok () ← perform config (Program.announce config) | return 1
  let ended ← match ← perform config (Service.claim config) with
    | .error e => pure (.error e)
    | .ok () => do
      let status ← loopOf config
      match ← perform config (Service.release config) with
      | .ok () => pure (.ok status)
      | .error e => pure (.error e)
  exitStatus (← perform config (Program.conclude ended))

/-- The settings of the environment and of the variable file in the current directory. -/
def settings : IO (Settings.Checked Settings) := do
  let file := (← (IO.FS.readFile (System.mkFilePath [".env"])).toBaseIO).toOption.getD ""
  return Settings.read { environment := ← Processes.environment, file }

end World
end LinkMonitor

open LinkMonitor in
/-- The name under which the program is started tells which of the two programs it is. -/
def main (args : List String) : IO UInt32 := do
  let args := Path.baseName ((← Processes.commandLine).headD "") :: args
  match ← World.settings with
  | .error es => do
    IO.eprintln ("Invalid settings: " ++ SettingError.allText es)
    return 1
  | .ok settings =>
    match Program.isService args, Program.configurationFor? settings args with
    | true, some config => World.runService config
    | _, _ => World.runCommand settings args
