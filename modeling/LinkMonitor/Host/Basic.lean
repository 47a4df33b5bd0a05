import LinkMonitor.Files.Tree
import LinkMonitor.Host.Process
import LinkMonitor.Probe.Reply

/-!
# The host

What the program finds around it: files, processes, a journal to write to and processes to send
signals to. An `Action` works on a host; what it has done stays done when it fails.
-/

namespace LinkMonitor

inductive NoticeLevel
  | info
  | warning
  | error
  deriving DecidableEq, Repr

def NoticeLevel.text : NoticeLevel → String
  | info => "INFO"
  | warning => "WARNING"
  | error => "ERROR"

/-- What a notice is about. -/
inductive NoticeTopic
  /-- A single check. -/
  | check
  | general
  deriving DecidableEq, Repr

structure Notice where
  level : NoticeLevel
  topic : NoticeTopic
  text : String
  deriving DecidableEq, Repr

/-- Whether a notice belongs into a journal that is kept from the named level on. -/
def Notice.reaches (n : Notice) : String → Bool
  | "CRITICAL" | "FATAL" => false
  | "ERROR" => n.level = .error
  | "WARN" | "WARNING" => n.level ≠ .info
  | _ => true

def Notice.line (n : Notice) : String := n.level.text ++ " " ++ n.text

/-- Where printed lines go. -/
inductive Channel
  | output
  | errors
  deriving DecidableEq, Repr

/-- The steps of a save that can fail for reasons outside the file tree. -/
inductive SaveStep
  | makeDirectories
  | prepare
  /-- The pieces of the file are counted from zero. -/
  | write (piece : Nat)
  | sync
  | setMode
  | rename
  deriving DecidableEq, Repr

structure Host where
  files : FileTree := {}
  /-- Failures that strike steps of a save. -/
  saveFaults : SaveStep → Option FileFault := fun _ => none
  /-- A failure that strikes the reading of a store file. -/
  readFault : Option FileFault := none
  /-- What the clock shows, in seconds since 1970. -/
  clock : Number := .whole 0
  processes : List ProcessRow := []
  /-- The process that runs this program, and the one that started it. -/
  pid : Int := 0
  parentPid : Int := 0
  /-- The probes that were made, the first one first. -/
  probes : List ProbeOrder := []
  /-- The notices so far, the first one first. -/
  journal : List Notice := []
  /-- The emoji that the console knows, each by its name in lower case. -/
  emoji : String → Option String := fun _ => none
  /-- The lines that were printed, the first one first. -/
  printed : List (Channel × String) := []
  /-- The processes that were asked to terminate, the first one first. -/
  terminated : List Int := []
  deriving Inhabited

/-- The lines that were printed on a channel. -/
def Host.linesOn (h : Host) (channel : Channel) : List String :=
  (h.printed.filter fun p => p.1 = channel).map Prod.snd

abbrev Action (ε : Type) := ExceptT ε (StateM Host)

namespace Action

variable {ε δ α : Type}

def run (a : Action ε α) (h : Host) : Except ε α × Host := StateT.run (ExceptT.run a) h

/-- The action with another account of its failures. -/
def mapError (f : ε → δ) (a : Action ε α) : Action δ α := ExceptT.adapt f a

/-- The outcome of an action, a failure included. -/
def attempt (a : Action ε α) : Action δ (Except ε α) := fun h =>
  let (r, h) := a.run h
  (.ok r, h)

def ofExcept (x : Except ε α) : Action ε α := fun h => (x, h)

def write (level : NoticeLevel) (topic : NoticeTopic) (text : String) : Action ε Unit := fun h =>
  (.ok (), { h with journal := h.journal ++ [⟨level, topic, text⟩] })

def info (text : String) : Action ε Unit := write .info .general text

def warn (text : String) : Action ε Unit := write .warning .general text

def report (text : String) : Action ε Unit := write .error .general text

def printLine (channel : Channel) (line : String) : Action ε Unit := fun h =>
  (.ok (), { h with printed := h.printed ++ [(channel, line)] })

def printLines (channel : Channel) (lines : List String) : Action ε Unit :=
  lines.forM (printLine channel)

/-- Asks a process to terminate. -/
def terminate (pid : Int) : Action ε Unit := fun h =>
  (.ok (), { h with terminated := h.terminated ++ [pid] })

def recordProbe (o : ProbeOrder) : Action ε Unit := fun h =>
  (.ok (), { h with probes := h.probes ++ [o] })

def files : Action ε FileTree := fun h => (.ok h.files, h)

def clock : Action ε Number := fun h => (.ok h.clock, h)

def setClock (now : Number) : Action ε Unit := fun h => (.ok (), { h with clock := now })

def setFiles (t : FileTree) : Action ε Unit := fun h => (.ok (), { h with files := t })

/-- Puts the tree that an operation leaves in place of the present one. -/
def changeFiles (f : FileTree → Except ε FileTree) : Action ε Unit := fun h =>
  match f h.files with
  | .ok t => (.ok (), { h with files := t })
  | .error e => (.error e, h)

/-- The same for an operation that leaves something behind when it fails. -/
def changeFilesPartly (f : FileTree → FileTree × Except ε Unit) : Action ε Unit := fun h =>
  let (t, r) := f h.files
  (r, { h with files := t })

end Action
end LinkMonitor
