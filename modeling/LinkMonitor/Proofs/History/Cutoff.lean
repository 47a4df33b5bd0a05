import LinkMonitor.Proofs.History.Seam

/-!
# Outages of the latest records

A cutoff keeps the latest records of a history. The outages that it leaves are the newest ones, the
oldest of them perhaps without its first failures.
-/

namespace LinkMonitor

namespace OutageQuery

/-- The query for the latest `n` records only. -/
def limited (q : OutageQuery) (n : Nat) : OutageQuery := { q with cutoff := some n }

variable {q : OutageQuery} {records : List CheckRecord}

theorem configured_limited (q : OutageQuery) (n : Nat) : (q.limited n).configured = q.configured := rfl

theorem length_byTime_filter (q : OutageQuery) (records : List CheckRecord) :
    ((byTime records).filter fun r => q.covers r.stack).length =
      records.countP fun r => q.covers r.stack := by
  rw [← List.countP_eq_length_filter]
  exact (List.mergeSort_perm records _).countP_eq _

/-- A cutoff keeps the latest records, as many as it says or else all. Of the records of one time those
are kept that came later into the history. -/
theorem selects_limited (uncut : q.cutoff = none) (records : List CheckRecord) (n : Nat) :
    ∃ older, (q.limited n).Selects records older ((q.limited n).analysed records) ∧
      q.analysed records = older ++ (q.limited n).analysed records ∧
      ((q.limited n).analysed records).length = min n (records.countP fun r => q.covers r.stack) := by
  obtain ⟨older, selects⟩ := (q.limited n).selects_analysed records
  obtain ⟨none, all⟩ := q.selects_analysed records
  have whole : q.analysed records = older ++ (q.limited n).analysed records := by
    obtain rfl : none = [] := all.uncut uncut
    exact eq_of_ties all.sorted selects.sorted fun time =>
      (all.stable time).trans (selects.stable time).symm
  refine ⟨older, selects, whole, ?_⟩
  rw [selects.cut n rfl, ← whole, analysed_eq, uncut, Int.toNat_natCast]
  exact congrArg (min n) (q.length_byTime_filter records)

end OutageQuery

open OutageQuery

namespace Outage

/-- What a cutoff leaves of outages, the most recent first: the first ones as they are, and perhaps the
end of the next one. -/
inductive Trimmed : List Outage → List Outage → Prop
  | between {kept kept' dropped : List Outage} (same : List.Forall₂ SameFailures kept kept') :
      Trimmed (kept ++ dropped) kept'
  | inside {kept kept' dropped : List Outage} {edge rest : Outage}
      (same : List.Forall₂ SameFailures kept kept') (suffix : rest.records <:+ edge.records) :
      Trimmed (kept ++ edge :: dropped) (kept' ++ [rest])

theorem trimmed_of_runs {gap : Number} {older kept : List CheckRecord} {os ps : List Outage}
    {all all' : Finset Combination} (rated : ∀ o ∈ os, o.Rated all)
    (rated' : ∀ p ∈ ps, p.Rated all')
    (runs : os.map Outage.records = (older ++ kept).splitBy (isClose gap))
    (runs' : ps.map Outage.records = kept.splitBy (isClose gap)) :
    Trimmed os.reverse ps.reverse := by
  have forall₂ {some some' : List Outage} (inside : some ⊆ os) (inside' : some' ⊆ ps)
      (same : some.map Outage.records = some'.map Outage.records) :
      List.Forall₂ SameFailures some.reverse some'.reverse :=
    List.forall₂_reverse_iff.mpr <| forall₂_sameFailures (fun o ho => rated o (inside ho))
      (fun p hp => rated' p (inside' hp)) same
  by_cases empty : older = []
  · rw [empty, List.nil_append, ← runs'] at runs
    have same := forall₂ (List.Subset.refl os) (List.Subset.refl ps) runs
    have whole : Trimmed (os.reverse ++ []) ps.reverse := .between same
    rwa [List.append_nil] at whole
  · obtain ⟨before, last, more, after, -, joined, -, last_runs⟩ :=
      splitBy_seam (isClose gap) empty kept
    obtain ⟨dropped, rest, rfl, -, ending⟩ := List.map_eq_append_iff.mp (runs.trans joined)
    obtain ⟨edge, newer, rfl, records, others⟩ := List.map_eq_cons_iff.mp ending
    rw [List.reverse_append, List.reverse_cons, List.append_assoc]
    have inside : newer ⊆ dropped ++ edge :: newer := by simp
    rcases last_runs with ⟨-, cut⟩ | cut
    · exact .between (forall₂ inside (List.Subset.refl ps) (others.trans (runs'.trans cut).symm))
    · obtain ⟨first, newer', rfl, shorter, others'⟩ := List.map_eq_cons_iff.mp (runs'.trans cut)
      rw [List.reverse_cons]
      refine .inside (forall₂ inside (by simp) (others.trans others'.symm)) ?_
      rw [records, shorter]
      exact List.suffix_append last more

end Outage

/-- A cutoff analyses the latest records of the stack only. It drops the oldest outages, and perhaps the
first failures of the oldest one that is left; the others keep their failures. -/
theorem outages_of_cutoff {q : OutageQuery} {gap : Number} (records : List CheckRecord) (n : Nat)
    (uncut : q.cutoff = none) (product : q.tolerance.mul q.period = .ok gap)
    (nonneg : Number.le (.whole 0) gap = true) :
    (∃ older, (q.limited n).Selects records older ((q.limited n).analysed records) ∧
      q.analysed records = older ++ (q.limited n).analysed records ∧
      ((q.limited n).analysed records).length =
        min n (records.countP fun r => q.covers r.stack)) ∧
    if q.period.le (.whole 0) then
      outages q records = .error (.periodNotPositive q.period) ∧
        outages (q.limited n) records = .error (.periodNotPositive q.period)
    else ∃ os ps, outages q records = .ok os ∧ outages (q.limited n) records = .ok ps ∧
      Outage.Trimmed os ps ∧ ∀ o ∈ os, ∀ p ∈ ps, p.severity.enabled ≤ o.severity.enabled := by
  have selection := selects_limited uncut records n
  refine ⟨selection, ?_⟩
  obtain ⟨older, -, whole, -⟩ := selection
  split
  · next never => exact ⟨outages_of_period_le never, outages_of_period_le (q := q.limited n) never⟩
  · next positive =>
    have positive := Bool.eq_false_of_not_eq_true positive
    obtain ⟨os, run, runs, rated⟩ :=
      outages_found records positive (by simp [uncut]) product nonneg
    obtain ⟨ps, run', runs', rated'⟩ :=
      outages_found (q := q.limited n) records positive (by simp [limited]) product nonneg
    refine ⟨os.reverse, ps.reverse, run, run', ?_, fun o ho p hp => ?_⟩
    · have failures : q.failures records =
          older.filter (fun r => !r.isSuccess) ++ (q.limited n).failures records := by
        rw [OutageQuery.failures, whole, List.filter_append]
        rfl
      rw [failures] at runs
      exact Outage.trimmed_of_runs rated rated' runs runs'
    · rw [(rated o (List.mem_reverse.mp ho)).enabled, (rated' p (List.mem_reverse.mp hp)).enabled,
        whole, configured_limited]
      exact Finset.card_le_card
        (Finset.union_subset_union_right (observed_mono (List.subset_append_right _ _)))

/-- The cutoff divides an outage of two failures. -/
theorem outages_of_cutoff_divided :
    ∃ os ps, outages { period := .whole 60 } (failuresAt [60, 2000, 1000, 1060]) = .ok os ∧
      outages { period := .whole 60, cutoff := some 2 } (failuresAt [60, 2000, 1000, 1060]) = .ok ps ∧
      OutageQuery.analysed { period := .whole 60, cutoff := some 2 }
        (failuresAt [60, 2000, 1000, 1060]) = failuresAt [1060, 2000] ∧
      Outage.Trimmed os ps := by
  have kept : OutageQuery.analysed { period := .whole 60, cutoff := some 2 }
      (failuresAt [60, 2000, 1000, 1060]) = failuresAt [1060, 2000] := by
    simp [analysed, latest, failuresAt, List.mergeSort]
  obtain ⟨-, os, ps, all, last, trimmed, -⟩ :=
    @outages_of_cutoff { period := .whole 60 } (.float (.finite 90))
      (failuresAt [60, 2000, 1000, 1060]) 2 rfl (by decide +kernel) (by decide +kernel)
  exact ⟨os, ps, all, last, kept, trimmed⟩

end LinkMonitor
