import LinkMonitor.Proofs.Host.Action
import LinkMonitor.Proofs.Net.CanonicalText
import LinkMonitor.Proofs.Results

/-!
# The records of a cycle

A cycle has one record for every enabled combination, and all of them have its own time.
-/

namespace LinkMonitor

theorem CheckRecord.timestamp_of_make {timestamp : Int} {c : Combination} {target : String}
    {latency? : Option Int} {cause? : Option FailureCause} {r : CheckRecord}
    (made : make timestamp c target latency? cause? = .ok r) : r.timestamp = timestamp := by
  obtain ⟨outcome, -, made⟩ := ok_of_bind made
  obtain ⟨address, -, made⟩ := ok_of_bind made
  cases made
  rfl

namespace Check

variable {c : Combination} {target : String} {timestamp : Int} {r : CheckRecord}

theorem ofRecord_eq_ok {x : Except RecordError CheckRecord} (h : ofRecord x = .ok r) :
    x = .ok r := by
  cases x with
  | error e => cases h
  | ok s => rw [Except.ok.inj h]

theorem timestamp_of_recordOf {reply : ProbeReply}
    (h : recordOf c target timestamp reply = .ok r) : r.timestamp = timestamp := by
  cases reply with
  | answered latency =>
    obtain ⟨n, -, h⟩ := ok_of_bind h
    obtain ⟨s, made, h⟩ := ok_of_bind h
    have same : s = r := by
      split at h
      · exact Except.ok.inj h
      · cases h
    exact same ▸ CheckRecord.timestamp_of_make (ofRecord_eq_ok made)
  | failed cause message => exact CheckRecord.timestamp_of_make (ofRecord_eq_ok h)
  | broken kind message => exact CheckRecord.timestamp_of_make (ofRecord_eq_ok h)
  | pending => cases h

theorem timestamp_of_execute {transport : Transport} {timeout : Binary64} {h h' : Host}
    (ran : (execute transport c target timeout timestamp).run h = (.ok r, h')) :
    r.timestamp = timestamp := by
  have last {k : Host} {reply : ProbeReply}
      (ran : (Action.ofExcept (recordOf c target timestamp reply)).run k = (.ok r, h')) :
      r.timestamp = timestamp := by
    rw [Action.run_ofExcept, Prod.mk.injEq] at ran
    exact timestamp_of_recordOf ran.1
  obtain ⟨_, k, -, ran⟩ := Action.run_bind_ok ran
  dsimp only at ran
  split at ran
  · obtain ⟨_, j, -, ran⟩ := Action.run_bind_ok ran
    exact last ran
  · exact last ran

end Check

namespace Cycle

variable {config : DaemonConfig} {transport : Transport} {timestamp : Int} {h h' : Host}
  {records : List CheckRecord}

theorem timestamp_of_settle {x : Combination × Except CheckError CheckRecord} {r : CheckRecord}
    (checked : ∀ s, x.2 = .ok s → s.timestamp = timestamp)
    (ran : (settle config timestamp x).run h = (.ok r, h')) : r.timestamp = timestamp := by
  obtain ⟨c, outcome⟩ := x
  cases outcome with
  | ok s =>
    cases ran
    exact checked _ rfl
  | error e =>
    obtain ⟨_, k, -, ran⟩ := Action.run_bind_ok ran
    cases ran
    rfl

/-- A cycle has one record for every enabled combination, all of its own time. -/
theorem run_records (ran : (run config transport timestamp).run h = (.ok records, h')) :
    records.length = config.enabled.length ∧ ∀ r ∈ records, r.timestamp = timestamp := by
  obtain ⟨results, k, checking, ran⟩ := Action.run_bind_ok ran
  dsimp only at ran
  split at ran
  · obtain ⟨_, _, thrown, -⟩ := Action.run_bind_ok ran
    cases thrown
  · obtain ⟨found, j, settling, ran⟩ := Action.run_bind_ok ran
    obtain ⟨_, i, -, ran⟩ := Action.run_bind_ok ran
    cases ran
    obtain ⟨asMany, checked⟩ := Action.of_mapM_ok checking
    obtain ⟨asMany', settled⟩ := Action.of_mapM_ok settling
    refine ⟨asMany'.trans asMany, fun r member => ?_⟩
    obtain ⟨x, among, k, k', last⟩ := settled r member
    refine timestamp_of_settle (fun s found => ?_) last
    obtain ⟨c, -, i, i', ran⟩ := checked x among
    obtain ⟨outcome, i, executed, ran⟩ := Action.run_bind_ok ran
    cases ran
    cases executed
    exact Check.timestamp_of_execute (Prod.ext found rfl)

/-- On some host a cycle at this time gives these records, and no others. -/
def Gives (config : DaemonConfig) (transport : Transport) (timestamp : Int)
    (batch : List CheckRecord) : Prop :=
  ∃ h k, (run config transport timestamp).run h = (.ok batch, k)

end Cycle

/-! ### Configurations -/

def ControlLoop.sampleConfig : DaemonConfig where
  enabled := [⟨.icmp, .v4⟩]
  storePath := ⟨"", ["checks"]⟩
  period := 60
  timeout := .finite 10
  targetV4 := .ofAddress (.v4 0x01010101#32)
  targetV6 := .ofAddress (.v6 1)
  saveEvery := 1
  tolerance := .finite 2
  pidFile := none
  daemonName := "netpulsed"
  logLevel := "INFO"
  enabled_ne_nil := by decide
  enabled_nodup := by decide
  period_pos := by decide
  timeout_pos := by decide
  saveEvery_pos := by decide
  tolerance_ge := by decide
  targetV4_stack := rfl
  targetV6_stack := rfl

/-- All four combinations, and a time limit of half a second. -/
def Cycle.everyCheck : DaemonConfig :=
  { ControlLoop.sampleConfig with
    enabled := [⟨.icmp, .v6⟩, ⟨.http, .v4⟩, ⟨.icmp, .v4⟩, ⟨.http, .v6⟩]
    timeout := .finite (1 / 2)
    enabled_ne_nil := by decide
    enabled_nodup := by decide
    timeout_pos := by decide +kernel }

end LinkMonitor
