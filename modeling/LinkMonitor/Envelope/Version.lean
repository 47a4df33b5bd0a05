/-!
# Format versions of an envelope
-/

namespace LinkMonitor

/-- The known record layouts, the oldest first. -/
inductive FormatVersion
  | v0
  | v1
  deriving DecidableEq, Repr, Inhabited

namespace FormatVersion

def tag : FormatVersion → Nat
  | v0 => 0
  | v1 => 1

def ofTag? : Nat → Option FormatVersion
  | 0 => some v0
  | 1 => some v1
  | _ => none

def name : FormatVersion → String
  | v0 => "V0"
  | v1 => "V1"

/-- The version that new stores have. -/
def current : FormatVersion := v1

/-- The version after this one. -/
def next? : FormatVersion → Option FormatVersion
  | v0 => some v1
  | v1 => none

/-- The version after another one is still none beyond the current one. -/
theorem tag_next? {v next : FormatVersion} (h : v.next? = some next) :
    next.tag = v.tag + 1 ∧ next.tag ≤ current.tag := by
  cases v <;> cases h
  decide

def isOutdated (v : FormatVersion) : Bool := v.next?.isSome

end FormatVersion
end LinkMonitor
