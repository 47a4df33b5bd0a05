import LinkMonitor.Command.Program
import LinkMonitor.Outside.Disk
import LinkMonitor.Outside.Network
import LinkMonitor.Outside.Processes
import Std.Async.Signal
import Std.Time.DateTime.Timestamp

/-!
# The world outside

Shows the system to the program as a host, and carries what the program has done to a host out to the
system: changed files first, then printed lines and notices.
-/

namespace LinkMonitor
namespace World

def now : IO Number := do
  let t ← Std.Time.Timestamp.now
  return .float (Binary64.ofRatio t.toNanosecondsSinceUnixEpoch.val 1000000000)

/-- The files that a command works on. -/
def paths (config : DaemonConfig) : List Path := config.storePath :: config.pidFile.toList

/-- The system as it is now. -/
def host (paths : List Path) : IO Host := do
  let (files, readFault) ← Disk.load paths
  let (pid, parentPid) ← Processes.ownNumbers
  return {
    files, readFault, pid, parentPid
    emoji := Emoji.ofAddress
    clock := ← now
    processes := ← Processes.table }

def present (level : String) (h : Host) : IO Unit := do
  for n in h.journal do
    if n.reaches level then IO.eprintln n.line
  for (channel, line) in h.printed do
    match channel with
    | .output => IO.println line
    | .errors => IO.eprintln line
  for pid in h.terminated do
    IO.eprintln ("No signal can be sent from here, please terminate process " ++ toString pid)

/-- Carries out what has changed between two hosts. -/
def apply (level : String) (paths : List Path) (before after : Host) : IO Unit := do
  Disk.save paths before.files after.files
  present level after

/-- The probes that a run on a host asks for. -/
def ordersOf (run : Transport → Host) : List ProbeOrder := (run fun _ => .pending).probes

/-- Surroundings in which nothing happens. -/
def calm (transport : Transport) : Surroundings where
  duringWait := fun _ _ => pure []
  transport := fun _ => transport
  afterChecks := fun _ => pure []

/-! ### Signals -/

/-- A signal that is listened to. -/
structure Listener where
  signal : ProcessSignal
  waiter : Std.Async.Signal.Waiter
  next : IO.Ref (Std.Async.AsyncTask Int)

def systemSignal : ProcessSignal → Std.Async.Signal
  | .hangup => .sighup
  | .interrupt => .sigint
  | .terminate => .sigterm

def listen : IO (List Listener) :=
  ProcessSignal.all.mapM fun signal => do
    let waiter ← Std.Async.Signal.Waiter.mk (systemSignal signal) true
    return { signal, waiter, next := ← IO.mkRef (← waiter.wait) }

/-- The requests that have come in since the last look. -/
def requests (listeners : List Listener) : IO (List ControlRequest) :=
  listeners.filterMapM fun l => do
    if ← IO.hasFinished (← l.next.get) then
      l.next.set (← l.waiter.wait)
      return some l.signal.request
    else return none

/-- Waits for a request, and no longer than until the boundary. -/
partial def waitFor (listeners : List Listener) (boundary : Int) : IO (List ControlRequest) := do
  let rs ← requests listeners
  if !rs.isEmpty || (Number.whole boundary).le (← now) then return rs
  else
    IO.sleep 50
    waitFor listeners boundary

end World
end LinkMonitor
