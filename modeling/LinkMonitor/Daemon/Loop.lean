import LinkMonitor.Daemon.Cycle
import LinkMonitor.Daemon.Signals
import LinkMonitor.Store.Basic

/-!
# The control loop

The loop owns the store. It waits for the next boundary of its period, runs a cycle, appends the batch
and saves every few cycles. A failed save is tried again after the next cycle; a reload reads the file
again and puts the unsaved records behind what it holds. A stop lets the cycle in hand finish and is
followed by a last save. A file that cannot be understood, and records that cannot be written, end the
loop at once.

What happens around the loop is given by its `Surroundings`; `step` is one pass, `run` all of them.
-/

namespace LinkMonitor

inductive DaemonState
  | starting
  | running
  | reloadPending
  | stopRequested
  | stopped
  deriving DecidableEq, Repr, Inhabited

def DaemonState.value : DaemonState → String
  | starting => "starting"
  | running => "running"
  | reloadPending => "reload_pending"
  | stopRequested => "stop_requested"
  | stopped => "stopped"

/-- What ends the loop before its time. -/
inductive LoopError
  | store (error : StoreError)
  | number (error : NumberError)
  | cycle (error : CycleError)
  | file (error : FileError)
  /-- Something outside the loop has failed. -/
  | outside (kind message : String)
  deriving DecidableEq

def LoopError.message : LoopError → String
  | store e => e.message
  | number e => e.message
  | cycle e => e.message
  | file e => e.message
  | outside _ message => message

/-- What happens around the loop. All of it may change the host, and all of it may fail. -/
structure Surroundings where
  /-- When the loop has been made. -/
  whenMade : Action LoopError (List ControlRequest) := pure []
  /-- When the loop starts to run. -/
  onStart : Action LoopError Unit := pure ()
  /-- During the wait of the given number, which lasts as long as given at most. -/
  duringWait : Nat → Number → Action LoopError (List ControlRequest)
  /-- When that wait is over and the loop still has to take back what wakes it. This cannot fail. -/
  atWaitEnd : Nat → Host → List ControlRequest × Host := fun _ h => ([], h)
  /-- The answers of the probes in the cycle of the given number, the first one being 1. -/
  transport : Nat → Transport
  /-- When the checks of that cycle have come back. -/
  afterChecks : Nat → Action LoopError (List ControlRequest)
  /-- Between two steps, after as many events as given. What is requested while a step deals with the file
  is heard after it. This cannot fail. -/
  between : Nat → Host → List ControlRequest × Host := fun _ h => ([], h)

/-- What can be seen of the loop from outside. -/
structure LoopView where
  state : DaemonState
  records : Nat
  unsaved : Nat
  cycles : Nat
  deriving DecidableEq, Repr

/-- What happens in the course of a loop. An outcome tells the records of the store as it was read or
written, or why it was not. -/
inductive LoopEvent
  /-- The daemon has made the loop; the number is the one in its pid file. -/
  | made (pid : Option Int)
  | requested (request : ControlRequest)
  | opened (outcome : Except StoreError (List CheckRecord))
  | wait (timeout : Number) (view : Option LoopView)
  /-- A wait has lasted until its boundary. -/
  | elapsed (boundary : Int)
  | cycle (timestamp : Int) (view : Option LoopView)
  /-- A cycle has brought these records. -/
  | batch (records : List CheckRecord)
  | reload (outcome : Except StoreError (List CheckRecord))
  | save (isLast : Bool) (outcome : Except StoreError (List CheckRecord))

structure ControlLoop where
  config : DaemonConfig
  signals : ControlSignals := {}
  state : DaemonState := .starting
  store : Option Store := none
  /-- Cycles so far. -/
  cycles : Nat := 0
  /-- Waits so far. -/
  waits : Nat := 0
  lastBoundary : Option Int := none
  /-- The last save has failed. -/
  retrySave : Bool := false
  /-- The records appended since the last save. -/
  unsaved : List CheckRecord := []
  /-- What has happened so far, the first event first. -/
  events : List LoopEvent := []

namespace ControlLoop

def view? (l : ControlLoop) : Option LoopView :=
  l.store.map fun s => ⟨l.state, s.size, l.unsaved.length, l.cycles⟩

/-- Requests are kept until the loop looks at them. -/
def receive (rs : List ControlRequest) (l : ControlLoop) : ControlLoop :=
  { l with
    signals := l.signals.requestAll rs
    events := l.events ++ rs.map .requested }

/-- Steps of the loop change the loop and the host, also when they fail. -/
abbrev Step := ExceptT LoopError (StateM (ControlLoop × Host))

namespace Step

variable {ε α : Type}

def run (s : Step α) (l : ControlLoop) (h : Host) : Except LoopError α × ControlLoop × Host :=
  Id.run (StateT.run (ExceptT.run s) (l, h))

/-- An action on the host alone. -/
def onHost (f : ε → LoopError) (a : Action ε α) : Step α := fun (l, h) =>
  match a.run h with
  | (.ok x, h) => (.ok x, l, h)
  | (.error e, h) => (.error (f e), l, h)

/-- The outcome of an action on the host, a failure included. -/
def attempt (a : Action ε α) : Step (Except ε α) := fun (l, h) =>
  let (r, h) := a.run h
  (.ok r, l, h)

def loop : Step ControlLoop := fun (l, h) => (.ok l, l, h)

def change (f : ControlLoop → ControlLoop) : Step Unit := fun (l, h) => (.ok (), f l, h)

def note (a : Action LoopError Unit) : Step Unit := onHost id a

def record (e : LoopEvent) : Step Unit := change fun l => { l with events := l.events ++ [e] }

def enter (state : DaemonState) : Step Unit := change fun l => { l with state }

def request (rs : List ControlRequest) : Step Unit := change (receive rs)

/-- The loop hears what the surroundings do without a way to fail. -/
def hear (f : Host → List ControlRequest × Host) : Step Unit := fun (l, h) =>
  let (rs, h) := f h
  (.ok (), l.receive rs, h)

/-- What happens between two steps. -/
def interlude (around : Surroundings) : Step Unit := do
  let l ← loop
  hear (around.between l.events.length)

def ofNumber (x : Except NumberError α) : Step α := fun (l, h) =>
  match x with
  | .ok a => (.ok a, l, h)
  | .error e => (.error (.number e), l, h)

def throwStore (e : StoreError) : Step α := fun (l, h) => (.error (.store e), l, h)

/-- Whether a reload is due, which it is not any more from then on. -/
def takeReload : Step Bool := fun (l, h) =>
  let (due, signals) := l.signals.takeReload
  (.ok due, { l with signals }, h)

/-- The store; there is one as soon as the loop is running. -/
def theStore : Step Store := fun (l, h) => (.ok (l.store.getD {}), l, h)

end Step

open Step

/-! ### Waiting -/

/-- The next boundary after `now`, and after the last one that was reached. -/
def nextBoundary (period : Int) (last : Option Int) (now : Number) : Except NumberError Int := do
  let boundary := ((← now.floorDiv period) + 1) * period
  match last with
  | none => return boundary
  | some last => return max boundary (last + period)

/-- Time until the boundary, not less than nothing. -/
def timeUntil (boundary : Int) (now : Number) : Except NumberError Number := do
  let left ← (Number.whole boundary).sub now
  return if Number.lt (.float (.finite 0)) left then left else .float (.finite 0)

/-- The end of the wait of the given number. A request that comes in now wakes nobody any more. -/
def endWait (around : Surroundings) (number : Nat) : Step Unit := do
  hear (around.atWaitEnd number)
  change fun l => { l with signals := l.signals.clearWoken }

/-- Waits for the next boundary; `none` if a request has cut the wait short. -/
def waitForBoundary (around : Surroundings) : Step (Option Int) := do
  let l ← loop
  let now ← onHost id Action.clock
  let boundary ← ofNumber (nextBoundary l.config.period l.lastBoundary now)
  let timeout ← ofNumber (timeUntil boundary now)
  record (.wait timeout l.view?)
  change fun l => { l with waits := l.waits + 1 }
  request (← onHost id (around.duringWait l.waits timeout))
  if (← loop).signals.woken then
    endWait around l.waits
    return none
  else
    record (.elapsed boundary)
    endWait around l.waits
    change fun l => { l with lastBoundary := some boundary }
    return some boundary

/-! ### Saving and reloading -/

def retryNotice (pending : Nat) : String :=
  "Could not save the store, retrying next cycle (" ++ toString pending ++ " checks pending)"

/-- Saves the store. Before the end a failure that may pass is only remembered. -/
def save (isLast : Bool) : Step Unit := do
  match ← attempt (← theStore).save with
  | .ok store => do
    record (.save isLast (.ok store.records))
    change fun l => { l with store := some store, retrySave := false, unsaved := [] }
  | .error e => do
    record (.save isLast (.error e))
    if isLast || !e.isTransient then throwStore e
    else
      let l ← loop
      note (Action.warn (retryNotice l.unsaved.length))
      change fun l => { l with retrySave := true }

/-- Reads the file again. A failure that may pass leaves the store as it is. -/
def reload : Step Unit := do
  let path := (← loop).config.storePath
  enter .reloadPending
  note (Action.info ("Reloading the store from " ++ path.text))
  match ← attempt (Store.load path) with
  | .ok fresh => do
    record (.reload (.ok fresh.records))
    let unsaved := (← loop).unsaved
    let fresh := fresh.append unsaved
    note (Action.info ("Reloaded " ++ toString fresh.size ++ " checks (" ++
      toString unsaved.length ++ " unsaved carried over)"))
    change fun l => { l with store := some fresh, state := .running }
  | .error e => do
    record (.reload (.error e))
    if e.isTransient then
      note (Action.warn "Reload failed, keeping the current store")
      enter .running
    else throwStore e

/-! ### Cycles -/

/-- Appends a batch to the store and to the unsaved records. -/
def appendBatch (batch : List CheckRecord) (l : ControlLoop) : ControlLoop :=
  { l with
    store := l.store.map fun s => s.append batch
    unsaved := l.unsaved ++ batch
    cycles := l.cycles + 1
    events := l.events ++ [.batch batch] }

/-- Whether the store is to be saved after the cycle that has just ended. -/
def isSaveDue (l : ControlLoop) : Bool :=
  l.retrySave || (l.cycles : Int) % l.config.saveEvery = 0

/-- Runs a cycle and appends its batch. -/
def produce (around : Surroundings) (timestamp : Int) : Step Unit := do
  let l ← loop
  record (.cycle timestamp l.view?)
  let number := l.cycles + 1
  let batch ← onHost .cycle (Cycle.run l.config (around.transport number) timestamp)
  request (← onHost id (around.afterChecks number))
  change (appendBatch batch)

def saveIfDue : Step Unit := do if (← loop).isSaveDue then save false

def cycle (around : Surroundings) (timestamp : Int) : Step Unit := do
  interlude around
  produce around timestamp
  interlude around
  saveIfDue

/-! ### The whole run -/

/-- One pass: a reload if one is due, else a wait and, unless it was cut short, a cycle. -/
def step (around : Surroundings) : Step Unit := do
  if ← takeReload then reload
  else
    match ← waitForBoundary around with
    | none => return ()
    | some timestamp => cycle around timestamp

/-- Passes until a stop is requested, `fuel` of them at most: whether the stop was reached. -/
def steps (around : Surroundings) : Nat → Step Bool
  | 0 => return (← loop).signals.stopRequested
  | fuel + 1 => do
    interlude around
    if (← loop).signals.stopRequested then return true
    step around
    steps around fuel

/-- The last save after a stop. -/
def finish : Step Unit := do
  enter .stopRequested
  let l ← loop
  note (Action.info ("Stop requested, saving " ++ toString l.unsaved.length ++ " pending checks"))
  save true

def migrationNotice (path : Path) (version : FormatVersion) : String :=
  "Store " ++ path.text ++ " uses format version " ++ toString version.tag ++
    "; run `netpulse migrate` to upgrade it"

def startNotice (config : DaemonConfig) (store : Store) : String :=
  "Daemon running: " ++ toString config.enabled.length ++ " checks every " ++
    toString config.period ++ "s, store " ++ config.storePath.text ++ " (" ++
    toString store.size ++ " checks loaded)"

/-- Opens the store: whether that worked. -/
def openStore : Step Bool := do
  let config := (← loop).config
  match ← attempt (Store.loadOrCreate config.storePath) with
  | .error e => do
    record (.opened (.error e))
    note (Action.report ("Could not open the store at " ++ config.storePath.text))
    enter .stopped
    return false
  | .ok store => do
    record (.opened (.ok store.records))
    change fun l => { l with store := some store }
    if store.needsMigration then
      note (Action.warn (migrationNotice config.storePath store.version))
    enter .running
    note (Action.info (startNotice config store))
    return true

/-- Passes and the last save: the exit status, `none` if the passes have not come to an end. -/
def work (around : Surroundings) (fuel : Nat) : Step (Option Nat) := do
  if ← steps around fuel then
    finish
    enter .stopped
    let l ← loop
    note (Action.info ("Daemon stopped after " ++ toString l.cycles ++ " cycles"))
    return some 0
  else return none

/-- Ends a run that a failure of the store has broken off. -/
def onStoreError (a : Step (Option Nat)) : Step (Option Nat) := fun (l, h) =>
  match a.run l h with
  | (.error (.store _), l, h) =>
    (do
      note (Action.report "Fatal store error, stopping the daemon")
      enter .stopped
      return some 1 : Step (Option Nat)).run l h
  | r => r

/-- Passes whose failures of the store end the run with status 1. -/
def passes (around : Surroundings) (fuel : Nat) : Step (Option Nat) := onStoreError (work around fuel)

/-- What happens between the making of the loop and its run. -/
def prepare (around : Surroundings) : Step Unit := do request (← onHost id around.whenMade)

/-- The exit status of the loop; `none` if it is still running after `fuel` passes. -/
def run (around : Surroundings) (fuel : Nat) : Step (Option Nat) := do
  onHost id around.onStart
  if ← openStore then passes around fuel
  else return some 1

end ControlLoop
end LinkMonitor
