import LinkMonitor.Console.Panel
import LinkMonitor.History.Outage
import LinkMonitor.History.Summary
import LinkMonitor.Store.Basic

/-!
# Report on a store

A section for every summary, one with a panel for every outage, and one with the facts about the store
and its file. Sections that were printed before a failure stay printed.
-/

namespace LinkMonitor

/-- Why a report breaks off. -/
inductive ReportError
  | store (error : StoreError)
  | time (error : TimeError)
  | analysis (error : AnalysisError)
  deriving DecidableEq

namespace Report

/-- A size ratio with five places. -/
def ratioText (disk memory : Nat) : String := (Binary64.ofRatio disk memory).fixed 5

/-- Fingerprints, versions and sizes of a store that has a file. -/
def metadata (s : Store) : Action StoreError (List (String × String)) := do
  let t ← Action.files
  let memory ← Action.ofExcept s.sizeInMemory
  let disk ← Action.ofExcept (s.sizeOnDisk t)
  let display ← Action.ofExcept s.displayHash
  let hash ← Action.ofExcept (s.hashOfFile t)
  let path ← Action.ofExcept (s.requirePath none)
  let version ← Store.peekVersion path
  return [("Hash Datastructure", display), ("Hash Store File", hash),
    ("Store Version (mem)", toString s.version.tag),
    ("Store Version (file)", toString version.tag),
    ("Store Size (mem)", toString memory ++ " B"), ("Store Size (file)", toString disk ++ " B"),
    ("File to Mem Ratio", ratioText disk memory)]

/-! ### Layout -/

def keyWidth : Nat := 24

def row (r : String × String) : String := padRight keyWidth ' ' r.1 ++ "  " ++ r.2

def print (line : String) : Action ReportError Unit := Action.printLine .output line

def heading (title : String) : Action ReportError Unit := print ("# " ++ title)

def table (rows : List (String × String)) : Action ReportError Unit := rows.forM fun r => print (row r)

/-- What stands in the place of a table without rows. -/
def emptyText : Category → String
  | .general => "Store has no checks yet"
  | _ => "None"

/-! ### Sections -/

def summary (c : Category) (s : Summary) : Action ReportError Unit := do
  heading c.name
  if s.total = 0 then print (emptyText c)
  else table (← (Action.ofExcept s.rows).mapError .time)
  print ""

def outage (o : Outage) : Action ReportError Unit := do
  let text ← (Action.ofExcept o.describe).mapError .time
  Action.printLines .output ((Panel.draw text.toList none).map String.ofList)

def outageSection (q : OutageQuery) (bySeverity : Bool) (records : List CheckRecord) :
    Action ReportError Unit := do
  heading "Outages"
  let found ← (Action.ofExcept (outages q records)).mapError .analysis
  let ranked := if bySeverity then Outage.rankBySeverity found else found
  if ranked.isEmpty then print "None"
  ranked.forM outage
  print ""

/-- The whole report. -/
def render (q : OutageQuery) (bySeverity : Bool) (s : Store) : Action ReportError Unit := do
  (summarize s.records).forM fun p => summary p.1 p.2
  outageSection q bySeverity s.records
  heading "Store Metadata"
  table (← (metadata s).mapError .store)

end Report
end LinkMonitor
