import LinkMonitor.Check.Combination
import LinkMonitor.Command.Options
import LinkMonitor.Numeric.WholeText

/-!
# Command lines

The command lines of the two programs: `netpulse`, which looks at a store, and `netpulsed`, the daemon.
Both take the path of a store before the command.
-/

namespace LinkMonitor

/-- What to analyse and how to rank it. -/
structure AnalysisOptions where
  stack : Option IpStack := none
  cutoff : Option Int := none
  bySeverity : Bool := false
  deriving DecidableEq, Repr

inductive ReaderCommand
  | analyze (options : AnalysisOptions)
  | dump (failedOnly : Bool)
  | test
  | rewrite
  | migrate
  | version
  deriving DecidableEq, Repr

inductive DaemonCommand
  | run
  | info
  | stop
  deriving DecidableEq, Repr

structure CommandLine (α : Type) where
  /-- The store, if another one than that of the settings. -/
  store : Option String
  command : α
  deriving DecidableEq, Repr

namespace CommandLine

variable {α : Type}

def storeOption : CommandOption := .value "--store"

/-- The words behind a command, read by the grammar of the command; all words that nothing has asked
for are refused. -/
def inner (g : CommandGrammar) (outer : CommandWords) (sub : CommandGrammar) (words : List String) :
    Except CommandStop CommandWords := do
  let w ← sub.read words
  g.refuseExtras (outer.extras ++ w.extras)
  return w

def make (outer : CommandWords) (command : α) : CommandLine α := ⟨outer.value? "--store", command⟩

/-- Commands that have no options of their own. -/
def plainGrammar (program command : String) : CommandGrammar :=
  ⟨program ++ " " ++ command, [.help], []⟩

end CommandLine

namespace ReaderCommand

open CommandLine

def grammar : CommandGrammar where
  program := "netpulse"
  options := [.help, storeOption]
  commands := ["analyze", "dump", "test", "rewrite", "migrate", "version"]

def stackComplaint? (s : String) : Option String :=
  let values := IpStack.all.map IpStack.value
  if values.contains s then none
  else some ("invalid choice: " ++ Text.quoted s ++ " (choose from " ++
    String.intercalate ", " (values.map Text.quoted) ++ ")")

def cutoffComplaint? (s : String) : Option String :=
  match WholeText.parse? s with
  | none => some ("not an integer: " ++ Text.quoted s)
  | some n => if n < 0 then some ("must not be negative: " ++ toString n) else none

def analyzeGrammar : CommandGrammar where
  program := "netpulse analyze"
  options := [.help, .value "--stack" stackComplaint?, .value "--cutoff" cutoffComplaint?,
    .flag "--by-severity"]

def dumpGrammar : CommandGrammar where
  program := "netpulse dump"
  options := [.help, .flag "--failed"]

def analysisOptions (w : CommandWords) : AnalysisOptions where
  stack := (w.value? "--stack").bind IpStack.ofValue?
  cutoff := (w.value? "--cutoff").bind WholeText.parse?
  bySeverity := w.has "--by-severity"

/-- Without a command the store is analysed. -/
def parse (args : List String) : Except CommandStop (CommandLine ReaderCommand) := do
  let outer ← grammar.read args
  match outer.command with
  | none => do
    grammar.refuseExtras outer.extras
    return make outer (.analyze {})
  | some ("analyze", words) =>
    return make outer (.analyze (analysisOptions (← inner grammar outer analyzeGrammar words)))
  | some ("dump", words) =>
    return make outer (.dump ((← inner grammar outer dumpGrammar words).has "--failed"))
  | some (name, words) => do
    let _ ← inner grammar outer (plainGrammar grammar.program name) words
    return make outer (match name with
      | "test" => test
      | "rewrite" => rewrite
      | "migrate" => migrate
      | _ => version)

end ReaderCommand

namespace DaemonCommand

open CommandLine

def grammar : CommandGrammar where
  program := "netpulsed"
  options := [.help, storeOption]
  commands := ["run", "info", "end"]

/-- The command, `none` if the command line names none. -/
def parse (args : List String) : Except CommandStop (CommandLine (Option DaemonCommand)) := do
  let outer ← grammar.read args
  match outer.command with
  | none => do
    grammar.refuseExtras outer.extras
    return make outer none
  | some (name, words) => do
    let _ ← inner grammar outer (plainGrammar grammar.program name) words
    return make outer (some (match name with
      | "run" => run
      | "info" => info
      | _ => stop))

end DaemonCommand
end LinkMonitor
