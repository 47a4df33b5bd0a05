import LinkMonitor.Host.Basic

/-!
# Processes of the system

The process table, and the variables of this process, as the system lays them out under `/proc`.
-/

namespace LinkMonitor
namespace Processes

/-- The text of a file about a process, unless it is kept back. -/
def about? (path : List String) : IO (Option String) := do
  match ← (IO.FS.readBinFile (System.mkFilePath ("/proc" :: path))).toBaseIO with
  | .ok bytes => return String.fromUTF8? bytes
  | .error _ => return none

/-- The pieces of a text, each of which ends with a null character. -/
def pieces (text : String) : List String :=
  (Text.splitAt (· == '\x00') text.toList).dropLast.map String.ofList

def row? (number : String) : IO (Option ProcessRow) := do
  let some pid := number.toInt? | return none
  let some name ← about? [number, "comm"] | return none
  let cmdline := (← about? [number, "cmdline"]).map pieces
  return some { pid, name := some (Text.strip name), cmdline }

def table : IO (List ProcessRow) := do
  let entries ← (System.mkFilePath ["/proc"]).readDir
  entries.toList.filterMapM fun e => row? e.fileName

/-- The numbers of this process and of the one that started it. -/
def ownNumbers : IO (Int × Int) := do
  let status := (← about? ["self", "stat"]).getD ""
  let behindName := (status.toList.reverse.takeWhile (· != ')')).reverse
  let words := (Text.words behindName).map String.ofList
  let own := String.ofList (status.toList.takeWhile (· != ' '))
  return (own.toInt?.getD 0, (words[1]?.bind String.toInt?).getD 0)

/-- The words that this process was started with. -/
def commandLine : IO (List String) := do
  return pieces ((← about? ["self", "cmdline"]).getD "")

def environment : IO (List (String × String)) := do
  return (pieces ((← about? ["self", "environ"]).getD "")).map fun entry =>
    let name := entry.toList.takeWhile (· != '=')
    (String.ofList name, String.ofList (entry.toList.drop (name.length + 1)))

end Processes
end LinkMonitor
