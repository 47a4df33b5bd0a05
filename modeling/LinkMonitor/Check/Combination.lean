import LinkMonitor.Net.Address

/-!
# What can be checked

A combination of a kind of check and a stack is the unit that is enabled, run and counted.
-/

namespace LinkMonitor

inductive CheckKind
  | http
  | icmp
  deriving DecidableEq, Repr, Inhabited

namespace CheckKind

def value : CheckKind → String
  | http => "http"
  | icmp => "icmp"

def label : CheckKind → String
  | http => "HTTP(S)"
  | icmp => "ICMP"

def all : List CheckKind := [http, icmp]

def ofValue? (s : String) : Option CheckKind := all.find? fun k => k.value == s

end CheckKind

structure Combination where
  kind : CheckKind
  stack : IpStack
  deriving DecidableEq, Repr, Inhabited

namespace Combination

/-- All combinations, in the order of their values. -/
def all : List Combination := [⟨.http, .v4⟩, ⟨.http, .v6⟩, ⟨.icmp, .v4⟩, ⟨.icmp, .v6⟩]

def value (c : Combination) : String := c.kind.value ++ "-" ++ c.stack.value

def ofValue? (s : String) : Option Combination := all.find? fun c => c.value == s

def forStack (stack : IpStack) : List Combination := all.filter fun c => c.stack = stack

/-- Position among all combinations. -/
def index (c : Combination) : Nat := all.idxOf c

theorem mem_all (c : Combination) : c ∈ all := by
  obtain ⟨k, s⟩ := c
  cases k <;> cases s <;> decide

/-- The distinct combinations of a list, in the order of their values. -/
def distinct (cs : List Combination) : List Combination := all.filter (cs.contains ·)

theorem mem_distinct {c : Combination} {cs : List Combination} : c ∈ distinct cs ↔ c ∈ cs := by
  simp [distinct, mem_all]

end Combination

/-- Why a check failed. -/
inductive FailureCause
  | timeout
  | unreachable
  | error
  deriving DecidableEq, Repr, Inhabited

namespace FailureCause

def value : FailureCause → String
  | timeout => "timeout"
  | unreachable => "unreachable"
  | error => "error"

def all : List FailureCause := [timeout, unreachable, error]

def ofValue? (s : String) : Option FailureCause := all.find? fun c => c.value == s

end FailureCause

/-- Address to check on a stack where none is configured. -/
def defaultTargetText : IpStack → String
  | .v4 => "1.1.1.1"
  | .v6 => "2606:4700:4700::1111"

end LinkMonitor
