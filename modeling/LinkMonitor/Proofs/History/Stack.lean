import LinkMonitor.Proofs.History.Seam

/-!
# Outages of one stack

To ask for one stack is to analyse the history of that stack alone. The records of the other stack count
neither for the gaps nor for the cutoff nor for what is enabled.
-/

namespace LinkMonitor

theorem Combination.mem_forStack {c : Combination} {stack : IpStack} :
    c ∈ forStack stack ↔ c.stack = stack := by
  simp [forStack, mem_all]

namespace OutageQuery

/-- The query for one stack only. -/
def only (q : OutageQuery) (stack : IpStack) : OutageQuery := { q with stack := some stack }

/-- The query for a history that has no other stack. -/
def alone (q : OutageQuery) (stack : IpStack) : OutageQuery :=
  { q with
    stack := none
    enabled := q.enabled.filter fun c => c ∈ Combination.forStack stack }

variable (q : OutageQuery) (stack : IpStack) (records : List CheckRecord)

/-- Sorting by time keeps the order of records of one time, whichever of them are dropped. -/
theorem filter_byTime (keeps : CheckRecord → Bool) :
    (byTime records).filter keeps = byTime (records.filter keeps) := by
  refine eq_of_ties ((mergeSort_sorted records).filter _) (mergeSort_sorted _) fun time => ?_
  calc ((byTime records).filter keeps).filter (fun r => r.timestamp = time)
      = ((byTime records).filter fun r => r.timestamp = time).filter keeps := List.filter_comm _ _ _
    _ = (records.filter fun r => r.timestamp = time).filter keeps := by rw [filter_mergeSort]
    _ = (records.filter keeps).filter fun r => r.timestamp = time := List.filter_comm _ _ _
    _ = (byTime (records.filter keeps)).filter fun r => r.timestamp = time :=
        (filter_mergeSort _ _).symm

theorem analysed_only :
    (q.only stack).analysed records =
      (q.alone stack).analysed (records.filter fun r => r.stack = stack) := by
  show latest q.cutoff ((byTime records).filter fun r => r.stack = stack) = latest q.cutoff (byTime _)
  rw [filter_byTime]

theorem enabledCombinations_only :
    (q.only stack).enabledCombinations records =
      (q.alone stack).enabledCombinations (records.filter fun r => r.stack = stack) := by
  have configured : (q.alone stack).enabled = q.enabled.filter fun c => c.stack = stack := by
    simp only [alone, Combination.mem_forStack]
  rw [enabledCombinations, enabledCombinations, analysed_only, configured]
  rfl

end OutageQuery

open OutageQuery

/-- The outages of one stack are those of its own records, rated by its own combinations. So they are
the same for all histories that agree on this stack. -/
theorem outages_of_stack (q : OutageQuery) (stack : IpStack) (records : List CheckRecord) :
    outages (q.only stack) records =
        outages (q.alone stack) (records.filter fun r => r.stack = stack) ∧
      ∀ others : List CheckRecord,
        others.filter (fun r => r.stack = stack) = records.filter (fun r => r.stack = stack) →
        outages (q.only stack) others = outages (q.only stack) records := by
  have separate (history : List CheckRecord) : outages (q.only stack) history =
      outages (q.alone stack) (history.filter fun r => r.stack = stack) := by
    rw [outages, outages, analysed_only, enabledCombinations_only]
    rfl
  refine ⟨separate records, fun others same => ?_⟩
  rw [separate others, separate records, same]

/-- Another failure of the second stack at the time of a tie, and none at the end. -/
theorem outages_of_stack_others :
    let icmp : CheckRecord := ⟨60, .icmp, .ofAddress (.v4 0x01010101#32), .failure .error⟩
    let http : CheckRecord := ⟨60, .http, .ofAddress (.v4 0x01010101#32), .failure .timeout⟩
    let other (time : Int) : CheckRecord := ⟨time, .http, .ofAddress (.v6 1), .failure .timeout⟩
    let q : OutageQuery := { period := .whole 60, enabled := [⟨.icmp, .v6⟩], cutoff := some 2 }
    outages (q.only .v4) [icmp, other 60, http] = outages (q.only .v4) [icmp, http, other 120] := by
  intro icmp http other q
  exact (outages_of_stack q .v4 [icmp, http, other 120]).2 [icmp, other 60, http] (by decide)

end LinkMonitor
