import LinkMonitor.Check.Record
import LinkMonitor.History.Severity
import LinkMonitor.Numeric.Number

/-!
# Outages

Failures that follow one another closely form an outage. `outages` sorts a history by time, keeps one
stack and the latest records if asked to, drops the successes, splits what is left wherever two
neighbours are further apart than the tolerated gap, and rates every group by the combinations that
failed in it.
-/

namespace LinkMonitor

/-- A group of failures in the order of time. -/
structure Outage where
  records : List CheckRecord
  severity : Severity
  records_ne_nil : records ≠ []
  failures : ∀ r ∈ records, r.isSuccess = false
  deriving DecidableEq

/-- Why a history cannot be analysed. -/
inductive AnalysisError
  | periodNotPositive (period : Number)
  | negativeCutoff (cutoff : Int)
  | gap (error : NumberError)
  | invalidSeverity (failed enabled : Int)
  | emptyOutage
  | successInOutage
  deriving DecidableEq, Repr

def AnalysisError.message : AnalysisError → String
  | periodNotPositive period => "period must be positive, got " ++ period.text
  | negativeCutoff cutoff => "cutoff must not be negative, got " ++ toString cutoff
  | gap e => e.message
  | invalidSeverity failed enabled =>
    "Invalid severity " ++ toString failed ++ "/" ++ toString enabled
  | emptyOutage => "An outage needs at least one failed check"
  | successInOutage => "An outage may only contain failed checks"

namespace Outage

def severityOf (failed enabled : Int) : Except AnalysisError Severity :=
  match Severity.make? failed enabled with
  | some s => .ok s
  | none => .error (.invalidSeverity failed enabled)

def make (records : List CheckRecord) (severity : Severity) : Except AnalysisError Outage :=
  if hne : records = [] then .error .emptyOutage
  else if hall : ∀ r ∈ records, r.isSuccess = false then .ok ⟨records, severity, hne, hall⟩
  else .error .successInOutage

def start (o : Outage) : Int := (o.records.head o.records_ne_nil).timestamp

def last (o : Outage) : Int := (o.records.getLast o.records_ne_nil).timestamp

def total (o : Outage) : Nat := o.records.length

/-- An outage of a single record has no end: it may still go on. -/
def finish? (o : Outage) : Option Int := if o.total = 1 then none else some o.last

/-- The combinations that failed. -/
def combinations (o : Outage) : List Combination :=
  Combination.distinct (o.records.map CheckRecord.combination)

def describe (o : Outage) : Except TimeError String := do
  let start ← formatTimestamp o.start
  let span ← match o.finish? with
    | none => pure ("From " ++ start ++ " STILL ONGOING")
    | some finish => do pure ("From " ++ start ++ " To " ++ (← formatTimestamp finish))
  return span ++ "\nChecks: " ++ toString o.total ++ "\nSeverity: " ++ o.severity.text ++
    "\nFailed: " ++ String.intercalate ", " (o.combinations.map Combination.value)

/-! ### Rankings -/

/-- By start, then by end, then by number of records. -/
def compareRecency : Outage → Outage → Ordering :=
  compareLex (compareOn start)
    (compareLex (compareOn fun o => o.finish?.getD o.start) (compareOn total))

/-- Complete outages above partial ones, then by share, by number of records and by recency. -/
def compareSeverity : Outage → Outage → Ordering :=
  compareLex (compareOn fun o => o.severity.isComplete)
    (compareLex (fun o p => o.severity.compareShare p.severity)
      (compareLex (compareOn total) compareRecency))

/-- The greatest first; equal ones keep their order. -/
def rankBy {α : Type} (order : α → α → Ordering) (items : List α) : List α :=
  items.mergeSort fun a b => (order b a).isLE

def rankByRecency (os : List Outage) : List Outage := rankBy compareRecency os

def rankBySeverity (os : List Outage) : List Outage := rankBy compareSeverity os

end Outage

/-- What to look for in a history. -/
structure OutageQuery where
  /-- Seconds between two checks. -/
  period : Number
  /-- The combinations that were configured. -/
  enabled : List Combination := []
  /-- Only this stack, if given. -/
  stack : Option IpStack := none
  /-- Only the latest records, if given. -/
  cutoff : Option Int := none
  /-- The greatest gap inside an outage, in periods. -/
  tolerance : Number := .float (.finite (3 / 2))
  deriving DecidableEq, Repr

namespace OutageQuery

/-- The latest records of a list that is sorted by time. -/
def latest (cutoff : Option Int) (records : List CheckRecord) : List CheckRecord :=
  match cutoff with
  | none => records
  | some n => records.drop (records.length - n.toNat)

/-- The records that count, in the order of time. -/
def analysed (q : OutageQuery) (records : List CheckRecord) : List CheckRecord :=
  let ordered := records.mergeSort fun a b => a.timestamp ≤ b.timestamp
  let filtered := match q.stack with
    | none => ordered
    | some stack => ordered.filter fun r => r.stack = stack
  latest q.cutoff filtered

/-- The configured combinations of the stack and all that occur in the analysed records. -/
def enabledCombinations (q : OutageQuery) (records : List CheckRecord) : List Combination :=
  let configured := match q.stack with
    | none => q.enabled
    | some stack => q.enabled.filter fun c => c.stack = stack
  Combination.distinct (configured ++ (q.analysed records).map CheckRecord.combination)

/-- Whether `s` still belongs to the outage of the failure `r` before it. -/
def isClose (maxGap : Number) (r s : CheckRecord) : Bool :=
  Number.le (.whole (s.timestamp - r.timestamp)) maxGap

def rate (enabled : Nat) (group : List CheckRecord) : Except AnalysisError Outage := do
  let failed := Combination.distinct (group.map CheckRecord.combination)
  Outage.make group (← Outage.severityOf failed.length enabled)

end OutageQuery

open OutageQuery in
/-- The outages of a history, the most recent first. -/
def outages (q : OutageQuery) (records : List CheckRecord) : Except AnalysisError (List Outage) := do
  if q.period.le (.whole 0) then throw (.periodNotPositive q.period)
  if let some n := q.cutoff then
    if n < 0 then throw (.negativeCutoff n)
  let failures := (q.analysed records).filter fun r => !r.isSuccess
  if failures.isEmpty then return []
  let maxGap ← match q.tolerance.mul q.period with
    | .ok gap => pure gap
    | .error e => throw (.gap e)
  let enabled := (q.enabledCombinations records).length
  let found ← (failures.splitBy (isClose maxGap)).mapM (rate enabled)
  return Outage.rankByRecency found

end LinkMonitor
