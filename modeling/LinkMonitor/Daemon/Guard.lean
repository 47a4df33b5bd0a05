import LinkMonitor.Host.Basic
import LinkMonitor.Numeric.WholeText

/-!
# The guard against a second daemon

The daemon leaves its process number in a pid file. Another one refuses to start while the process of
that number, or any other process, runs the program. A pid file whose process is gone, or runs some
other program, is removed.
-/

namespace LinkMonitor

/-- Why the daemon must not start. -/
inductive GuardError
  | alreadyRunning (pid : Int) (name : String)
  | file (error : FileError)
  deriving DecidableEq, Repr

def GuardError.message : GuardError → String
  | alreadyRunning pid name => name ++ " is already running with pid " ++ toString pid
  | file e => e.message

namespace PidFile

/-- The number in the content of a pid file. -/
def parse? (bytes : List UInt8) : Option Int :=
  (String.fromUTF8? ⟨bytes.toArray⟩).bind WholeText.parse?

/-- The number that is recorded at a path, if there is a usable one. -/
def read (path : Path) : Action FileError (Option Int) := do
  match (← Action.files).contentAt path with
  | .ok bytes =>
    match parse? bytes with
    | some pid => return some pid
    | none => do
      Action.warn ("Pid file " ++ path.text ++ " does not contain a pid")
      return none
  | .error e => if e.fault = .noEntry then return none else throw e

def write (path : Path) (pid : Int) : Action FileError Unit := do
  Action.changeFilesPartly fun t => t.makeDirectories path.parent
  Action.changeFiles fun t => t.putFile path (toString pid ++ "\n").toUTF8.toList

/-- Removes the file; it may be gone already. -/
def remove (path : Path) : Action FileError Unit := do
  match (← Action.files).removeFile path with
  | .ok t => Action.setFiles t
  | .error e => if e.fault = .noEntry then return () else throw e

end PidFile

namespace Guard

variable {ε : Type}

/-- All processes, as a single look at the table shows them. -/
def processes : Action ε (List ProcessInfo) := fun h =>
  (.ok (h.processes.map ProcessRow.snapshot), h)

/-- The process of a number, looked at on its own. -/
def inspect (pid : Int) : Action ε (Option ProcessInfo) := fun h =>
  (.ok ((h.processes.find? fun r => r.pid == pid).bind ProcessRow.inspect?), h)

def ownPid : Action ε Int := fun h => (.ok h.pid, h)

def parentPid : Action ε Int := fun h => (.ok h.parentPid, h)

/-- The first process that runs the program and is not to be skipped. -/
def findRunning (name : String) (processes : List ProcessInfo) (skipped : List Int) :
    Option ProcessInfo :=
  processes.find? fun p => !skipped.contains p.pid && p.isRunning name

/-- The process that the pid file names, if it runs the program. -/
def recorded (name : String) (pidFile : Path) (snapshot : Option (List ProcessInfo) := none) :
    Action FileError (Option ProcessInfo) := do
  match ← PidFile.read pidFile with
  | none => return none
  | some pid =>
    let owner ← match snapshot with
      | none => inspect pid
      | some processes => pure (processes.find? fun p => p.pid == pid)
    return owner.filter fun p => p.isRunning name

/-- Refuses if the process that the pid file names, other than ourselves, runs the program; removes the
pid file if it does not. -/
def checkPidFile (name : String) (pidFile : Path) (snapshot : Option (List ProcessInfo))
    (own : Int) : Action GuardError Unit := do
  match ← (PidFile.read pidFile).mapError .file with
  | none => return ()
  | some pid =>
    if pid = own then return ()
    else
      match ← (recorded name pidFile snapshot).mapError .file with
      | some owner => throw (.alreadyRunning owner.pid name)
      | none => do
        Action.info ("Removing stale pid file " ++ pidFile.text)
        (PidFile.remove pidFile).mapError .file

/-- Refuses if another instance is alive. The processes are those of the snapshot, or of the table if
there is none. -/
def ensureNotRunning (name : String) (pidFile : Option Path)
    (snapshot : Option (List ProcessInfo) := none) (own : Option Int := none)
    (skipped : List Int := []) : Action GuardError Unit := do
  let own := own.getD (← ownPid)
  if let some path := pidFile then checkPidFile name path snapshot own
  let table ← match snapshot with
    | some table => pure table
    | none => processes
  match findRunning name table (own :: skipped) with
  | some p => throw (.alreadyRunning p.pid name)
  | none => return ()

end Guard
end LinkMonitor
