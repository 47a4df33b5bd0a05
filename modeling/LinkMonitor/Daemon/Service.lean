import LinkMonitor.Daemon.Guard
import LinkMonitor.Daemon.Loop

/-!
# The daemon in the foreground

A service claims its pid file, runs the control loop until it ends, and gives the pid file back. It does
not start while another instance is alive. A loop that breaks down for a reason of its own ends the
service with status 1.
-/

namespace LinkMonitor

/-- What keeps a service from having an exit status. -/
inductive ServiceError
  | guard (error : GuardError)
  | file (error : FileError)
  | loop (error : LoopError)
  deriving DecidableEq

def ServiceError.message : ServiceError → String
  | guard e => e.message
  | file e => e.message
  | loop e => e.message

/-- A service that has ended. -/
structure Service where
  /-- The exit status, `none` if the loop was still running when it was left. -/
  status : Except ServiceError (Option Nat)
  /-- The signals that the service has handled. -/
  handled : List ProcessSignal := []
  loop : Option ControlLoop := none

namespace Service

/-- Makes sure that this is the only instance, apart from the process that started it. -/
def passGuard (config : DaemonConfig) : Action ServiceError Unit := do
  let parent ← Guard.parentPid
  (Guard.ensureNotRunning config.daemonName config.pidFile none none [parent]).mapError .guard

/-- Leaves the number of this process in the pid file. -/
def record (config : DaemonConfig) : Action ServiceError Unit :=
  match config.pidFile with
  | none => return ()
  | some path => do (PidFile.write path (← Guard.ownPid)).mapError .file

def claim (config : DaemonConfig) : Action ServiceError Unit := do
  passGuard config
  record config

/-- Gives the pid file back. -/
def release (config : DaemonConfig) : Action ServiceError Unit :=
  match config.pidFile with
  | none => return ()
  | some path => (PidFile.remove path).mapError .file

/-- Runs a part of the loop; whatever it breaks down from ends in status 1. -/
def control (part : ControlLoop.Step (Option Nat)) (l : ControlLoop) (h : Host) :
    Option Nat × ControlLoop × Host :=
  match part.run l h with
  | (.ok status, l, h) => (status, l, h)
  | (.error _, l, h) =>
    let crash : ControlLoop.Step Unit := ControlLoop.Step.note (Action.report "Control loop crashed")
    let (_, l, h) := crash.run l h
    (some 1, l, h)

/-- The loop as the daemon makes it. -/
def newLoop (config : DaemonConfig) (own : Int) : ControlLoop :=
  { config, events := [.made (config.pidFile.map fun _ => own)] }

/-- A whole service, with at most `fuel` passes of its loop. -/
def run (around : Surroundings) (config : DaemonConfig) (fuel : Nat) (h : Host) : Service × Host :=
  match (claim config).run h with
  | (.error e, h) => ({ status := .error e }, h)
  | (.ok (), h) =>
    let handled := ProcessSignal.all
    match (ControlLoop.prepare around).run (newLoop config h.pid) h with
    | (.error e, l, h) => ({ status := .error (.loop e), handled, loop := some l }, h)
    | (.ok (), l, h) =>
      let (status, l, h) := control (ControlLoop.run around fuel) l h
      match (release config).run h with
      | (.ok (), h) => ({ status := .ok status, handled, loop := some l }, h)
      | (.error e, h) => ({ status := .error e, handled, loop := some l }, h)

end Service
end LinkMonitor
