import LinkMonitor.Check.Record
import LinkMonitor.Numeric.Number

/-!
# Summaries

Counts, times and latencies of a history, over all and by kind and stack.
-/

namespace LinkMonitor

/-- What a summary covers. -/
inductive Category
  | general
  | http
  | icmp
  | ipv4
  | ipv6
  deriving DecidableEq, Repr

namespace Category

def name : Category → String
  | general => "General"
  | http => "HTTP"
  | icmp => "ICMP"
  | ipv4 => "IPv4"
  | ipv6 => "IPv6"

/-- All categories, in the order of reports. -/
def all : List Category := [general, http, icmp, ipv4, ipv6]

def includes (c : Category) (r : CheckRecord) : Bool :=
  match c with
  | general => true
  | http => r.kind = .http
  | icmp => r.kind = .icmp
  | ipv4 => r.stack = .v4
  | ipv6 => r.stack = .v6

end Category

structure Summary where
  total : Nat
  ok : Nat
  first? : Option Int
  last? : Option Int
  minLatency? : Option Nat
  meanLatency? : Option Binary64
  maxLatency? : Option Nat
  deriving DecidableEq, Repr

namespace Summary

/-- Mean of whole numbers, rounded once. -/
def mean? (values : List Nat) : Option Binary64 :=
  if values.isEmpty then none
  else some (Binary64.ofRatio (values.foldl (fun total n => total + n) 0 : Nat) values.length)

def ofRecords (records : List CheckRecord) : Summary :=
  let latencies := records.filterMap fun r => r.latency?.map (·.val)
  let times := records.map CheckRecord.timestamp
  { total := records.length
    ok := records.countP CheckRecord.isSuccess
    first? := times.min?
    last? := times.max?
    minLatency? := latencies.min?
    meanLatency? := mean? latencies
    maxLatency? := latencies.max? }

def bad (s : Summary) : Nat := s.total - s.ok

/-- Share of the successes; nothing at all counts as no success. -/
def successRatio (s : Summary) : Binary64 :=
  if s.total = 0 then .finite 0 else Binary64.ofRatio s.ok s.total

/-- The rows that reports show for a summary with records. -/
def rows (s : Summary) : Except TimeError (List (String × String)) := do
  let time (t? : Option Int) : Except TimeError String := formatTimestamp (t?.getD 0)
  let counts := [("checks", zeroPadded 8 s.total), ("checks ok", zeroPadded 8 s.ok),
    ("checks bad", zeroPadded 8 s.bad),
    ("success ratio", (s.successRatio.mul (.finite 100)).fixed 2 ++ "%")]
  let times := [("first check at", ← time s.first?), ("last check at", ← time s.last?)]
  let latencies := match s.minLatency?, s.meanLatency?, s.maxLatency? with
    | some low, some mean, some high =>
      [("latency min/avg/max",
        toString low ++ " / " ++ mean.fixed 1 ++ " / " ++ toString high ++ " ms")]
    | _, _, _ => []
  return counts ++ times ++ latencies

end Summary

/-- A summary for every category, in the order of reports. -/
def summarize (records : List CheckRecord) : List (Category × Summary) :=
  Category.all.map fun c => (c, Summary.ofRecords (records.filter c.includes))

end LinkMonitor
