/-!
# Control requests

Requests to stop and to reload are flags. The loop looks at them between its steps, so no request
interrupts a cycle. A flag of its own wakes the loop from a wait.
-/

namespace LinkMonitor

inductive ControlRequest
  | stop
  | reload
  deriving DecidableEq, Repr

structure ControlSignals where
  stopRequested : Bool := false
  reloadRequested : Bool := false
  /-- A request has come in since this flag was last taken back. -/
  woken : Bool := false
  deriving DecidableEq, Repr, Inhabited

namespace ControlSignals

def request (s : ControlSignals) : ControlRequest → ControlSignals
  | .stop => { s with stopRequested := true, woken := true }
  | .reload => { s with reloadRequested := true, woken := true }

def requestAll (s : ControlSignals) (rs : List ControlRequest) : ControlSignals :=
  rs.foldl request s

/-- Whether a reload is due; it is due once for all requests so far. -/
def takeReload (s : ControlSignals) : Bool × ControlSignals :=
  (s.reloadRequested, { s with reloadRequested := false })

/-- Takes back what wakes the loop, also if it has come in since the loop looked at it. -/
def clearWoken (s : ControlSignals) : ControlSignals := { s with woken := false }

end ControlSignals

/-- The signals that the daemon handles. -/
inductive ProcessSignal
  | hangup
  | interrupt
  | terminate
  deriving DecidableEq, Repr

namespace ProcessSignal

def name : ProcessSignal → String
  | hangup => "SIGHUP"
  | interrupt => "SIGINT"
  | terminate => "SIGTERM"

/-- All handled signals, in the order of their names. -/
def all : List ProcessSignal := [hangup, interrupt, terminate]

def ofName? (s : String) : Option ProcessSignal := all.find? fun x => x.name == s

def request : ProcessSignal → ControlRequest
  | hangup => .reload
  | interrupt | terminate => .stop

end ProcessSignal
end LinkMonitor
