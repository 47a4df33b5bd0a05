import LinkMonitor.Config.Daemon
import LinkMonitor.Daemon.Guard

/-!
# The running instance

The daemon that runs for a configuration: the one that the pid file names, or else any process that
runs its program.
-/

namespace LinkMonitor
namespace Instance

/-- The running daemon, if there is one. -/
def find (config : DaemonConfig) : Action FileError (Option ProcessInfo) := do
  let owner ← match config.pidFile with
    | none => pure none
    | some path => Guard.recorded config.daemonName path
  match owner with
  | some owner => return some owner
  | none =>
    let table ← Guard.processes
    return Guard.findRunning config.daemonName table [← Guard.ownPid, ← Guard.parentPid]

/-- Asks the running daemon to stop; its process number, if there is one. -/
def stop (config : DaemonConfig) : Action FileError (Option Int) := do
  match ← find config with
  | none => return none
  | some p =>
    Action.terminate p.pid
    Action.info ("Sent SIGTERM to " ++ config.daemonName ++ " (pid " ++ toString p.pid ++ ")")
    return some p.pid

end Instance
end LinkMonitor
