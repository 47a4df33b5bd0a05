import LinkMonitor.Proofs.History.Seam

/-!
# Outages and the order of insertion

The outages of a history do not depend on the order of its records, other than that records of one time
stay in their order.
-/

namespace LinkMonitor

/-- The runs of the values of a list are the values of its runs. -/
theorem splitBy_map {α β : Type} (f : α → β) (close : β → β → Bool) (xs : List α) :
    (xs.map f).splitBy close = (xs.splitBy fun a b => close (f a) (f b)).map (List.map f) := by
  obtain ⟨whole, -, chains, cuts⟩ :=
    List.splitBy_eq_iff.mp (rfl : xs.splitBy (fun a b => close (f a) (f b)) = _)
  refine List.splitBy_eq_iff.mpr ⟨?_, ?_, ?_, ?_⟩
  · rw [← List.map_flatten, ← whole]
  · simp
  · intro run member
    obtain ⟨group, inside, rfl⟩ := List.mem_map.mp member
    rw [List.isChain_map]
    exact chains group inside
  · rw [List.isChain_map]
    refine cuts.imp fun a b ⟨ha, hb, wide⟩ => ⟨by simp [ha], by simp [hb], ?_⟩
    rwa [List.getLast_map, List.head_map]

namespace OutageQuery

variable {q : OutageQuery} {records shuffled : List CheckRecord}

/-! ### The same records in another order -/

/-- Only the analysed records tell what the outages are. -/
theorem outages_congr (same : q.analysed shuffled = q.analysed records) :
    outages q shuffled = outages q records := by
  simp only [outages, enabledCombinations, same]

/-- If the records of each time are in the same order, the same records are analysed. -/
theorem analysed_of_ties (ties : ∀ time, shuffled.filter (fun r => r.timestamp = time) =
    records.filter fun r => r.timestamp = time) : q.analysed shuffled = q.analysed records := by
  have same : byTime shuffled = byTime records :=
    eq_of_ties (mergeSort_sorted _) (mergeSort_sorted _) fun time => by
      rw [filter_mergeSort, filter_mergeSort, ties]
  rw [analysed_eq, analysed_eq, same]

theorem analysed_perm (uncut : q.cutoff = none) (perm : shuffled.Perm records) :
    (q.analysed shuffled).Perm (q.analysed records) := by
  simp only [analysed_eq, uncut, latest]
  refine List.Perm.filter _ ?_
  exact (List.mergeSort_perm _ _).trans (perm.trans (List.mergeSort_perm _ _).symm)

/-- In the order of time there is only one order of the times. -/
theorem times_eq {xs ys : List CheckRecord}
    (sorted : xs.Pairwise fun r s => r.timestamp ≤ s.timestamp)
    (sorted' : ys.Pairwise fun r s => r.timestamp ≤ s.timestamp) (perm : xs.Perm ys) :
    xs.map CheckRecord.timestamp = ys.map CheckRecord.timestamp :=
  List.Perm.eq_of_pairwise (fun _ _ _ _ => Int.le_antisymm) (List.pairwise_map.mpr sorted)
    (List.pairwise_map.mpr sorted') (perm.map _)

/-- Where the failures are divided depends on their times only. -/
theorem times_of_groups (gap : Number) {xs ys : List CheckRecord}
    (times : xs.map CheckRecord.timestamp = ys.map CheckRecord.timestamp) :
    (xs.splitBy (isClose gap)).map (List.map CheckRecord.timestamp) =
      (ys.splitBy (isClose gap)).map (List.map CheckRecord.timestamp) := by
  let close (t u : Int) : Bool := Number.le (.whole (u - t)) gap
  have divided (zs : List CheckRecord) : (zs.splitBy (isClose gap)).map
      (List.map CheckRecord.timestamp) = (zs.map CheckRecord.timestamp).splitBy close :=
    (splitBy_map CheckRecord.timestamp close zs).symm
  rw [divided, divided, times]

end OutageQuery

theorem Severity.eq_of_counts {s t : Severity} (failed : s.failed = t.failed)
    (enabled : s.enabled = t.enabled) : s = t := by
  cases s
  cases t
  cases failed
  cases enabled
  rfl

open OutageQuery

namespace Outage

/-! ### What an outage spans -/

theorem mem_span {o : Outage} (sorted : o.records.Pairwise fun r s => r.timestamp ≤ s.timestamp)
    {r : CheckRecord} (member : r ∈ o.records) : o.start ≤ r.timestamp ∧ r.timestamp ≤ o.last := by
  constructor
  · have split := List.cons_head_tail o.records_ne_nil
    rw [← split] at sorted member
    rcases List.mem_cons.mp member with rfl | later
    · exact Int.le_refl _
    · exact (List.pairwise_cons.mp sorted).1 r later
  · have split := List.dropLast_append_getLast o.records_ne_nil
    rw [← split] at sorted member
    rcases List.mem_append.mp member with earlier | same
    · exact (List.pairwise_append.mp sorted).2.2 r earlier _ (List.mem_singleton_self _)
    · exact (congrArg CheckRecord.timestamp (List.mem_singleton.mp same)).le

/-- The outages of a history do not overlap, and follow one another. -/
theorem spans_apart {gap : Number} (nonneg : Number.le (.whole 0) gap = true)
    {failures : List CheckRecord} {os : List Outage}
    (sorted : failures.Pairwise fun r s => r.timestamp ≤ s.timestamp)
    (groups : os.map Outage.records = failures.splitBy (isClose gap)) :
    (∀ o ∈ os, ∀ r ∈ o.records, o.start ≤ r.timestamp ∧ r.timestamp ≤ o.last) ∧
      os.Pairwise fun a b => a.last < b.start := by
  obtain ⟨whole, -, inner, -, -⟩ := found_of_groups nonneg groups sorted
  constructor
  · intro o ho r hr
    refine mem_span ?_ hr
    rw [← whole, List.flatMap_def] at sorted
    exact (List.pairwise_flatten.mp sorted).1 _ (List.mem_map_of_mem ho)
  · have cuts := List.isChain_getLast_head_splitBy (isClose gap) failures
    rw [← groups, List.isChain_map] at cuts
    -- Alone, that the ends are before the next starts does not carry on to the outages after these.
    have steps : IsTrans Outage fun a b => a.last < b.start ∧ b.start ≤ b.last :=
      ⟨fun a b c ab bc => ⟨by omega, bc.2⟩⟩
    have both : os.Pairwise fun a b => a.last < b.start ∧ b.start ≤ b.last := by
      refine List.isChain_iff_pairwise.mp (cuts.imp_of_mem_imp fun a b _ hb ⟨ha, hb', wide⟩ => ?_)
      exact ⟨Int.sub_pos.mp (Number.lt_of_le_eq_false nonneg wide).2, inner b hb⟩
    exact both.imp And.left

/-- An outage has all failures from its start to its last one, as those of one time are never divided. -/
theorem records_eq_filter {gap : Number} (nonneg : Number.le (.whole 0) gap = true)
    {failures : List CheckRecord} {os : List Outage}
    (sorted : failures.Pairwise fun r s => r.timestamp ≤ s.timestamp)
    (groups : os.map Outage.records = failures.splitBy (isClose gap)) :
    ∀ o ∈ os, o.records = failures.filter fun r => o.start ≤ r.timestamp ∧ r.timestamp ≤ o.last := by
  obtain ⟨whole, -, -, -, -⟩ := found_of_groups nonneg groups sorted
  obtain ⟨span, apart⟩ := spans_apart nonneg sorted groups
  intro o ho
  obtain ⟨before, after, rfl⟩ := List.append_of_mem ho
  obtain ⟨-, later, earlier⟩ := List.pairwise_append.mp apart
  have own : o.records.filter (fun r => o.start ≤ r.timestamp ∧ r.timestamp ≤ o.last) = o.records :=
    List.filter_eq_self.mpr fun r hr => by simpa using span o ho r hr
  have others {ps : List Outage} (away : ∀ p ∈ ps, ∀ r ∈ p.records,
      ¬(o.start ≤ r.timestamp ∧ r.timestamp ≤ o.last)) : (ps.flatMap Outage.records).filter
        (fun r => o.start ≤ r.timestamp ∧ r.timestamp ≤ o.last) = [] := by
    refine List.filter_eq_nil_iff.mpr fun r hr => ?_
    obtain ⟨p, hp, hr⟩ := List.mem_flatMap.mp hr
    simpa using away p hp r hr
  rw [← whole, List.flatMap_append, List.flatMap_cons, List.filter_append, List.filter_append, own,
    others, others, List.nil_append, List.append_nil]
  · intro p hp r hr
    have := (span p (by simp [hp]) r hr).1
    have := (List.pairwise_cons.mp later).1 p hp
    omega
  · intro p hp r hr
    have := (span p (by simp [hp]) r hr).2
    have := earlier p hp o (by simp)
    omega

/-- An outage of the same failures, perhaps in another order. -/
structure SameSpan (o p : Outage) : Prop where
  start : p.start = o.start
  finish : p.finish? = o.finish?
  total : p.total = o.total
  severity : p.severity = o.severity
  records : p.records.Perm o.records

theorem Rated.severity_eq {o p : Outage} {all : Finset Combination} (rated : o.Rated all)
    (rated' : p.Rated all) (perm : p.records.Perm o.records) : p.severity = o.severity := by
  have observed : observed p.records = observed o.records :=
    List.toFinset_eq_of_perm _ _ (perm.map _)
  have failed : p.severity.failed = o.severity.failed := by
    rw [rated'.failed, rated.failed, observed]
  have enabled : p.severity.enabled = o.severity.enabled := rated'.enabled.trans rated.enabled.symm
  exact Severity.eq_of_counts failed enabled

theorem Rated.sameSpan {o p : Outage} {all : Finset Combination} (rated : o.Rated all)
    (rated' : p.Rated all) (start : p.start = o.start) (last : p.last = o.last)
    (perm : p.records.Perm o.records) : SameSpan o p := by
  have total : p.total = o.total := perm.length_eq
  refine ⟨start, ?_, total, rated.severity_eq rated' perm, perm⟩
  rw [finish?, finish?, total, last]

theorem bounds_of_times {o p : Outage}
    (times : o.records.map CheckRecord.timestamp = p.records.map CheckRecord.timestamp) :
    p.start = o.start ∧ p.last = o.last := by
  have filled : o.records.map CheckRecord.timestamp ≠ [] := by simp [o.records_ne_nil]
  have filled' : p.records.map CheckRecord.timestamp ≠ [] := by simp [p.records_ne_nil]
  have first : p.start = (p.records.map CheckRecord.timestamp).head filled' :=
    (List.head_map filled').symm
  have final : p.last = (p.records.map CheckRecord.timestamp).getLast filled' :=
    (List.getLast_map filled').symm
  constructor
  · rw [first]
    simp only [← times, List.head_map]
    rfl
  · rw [final]
    simp only [← times, List.getLast_map]
    rfl

end Outage

/-- A history in another order has the same outages, but for the order of the failures of one time. If
the records of each time stay in their order, nothing is different, whatever the cutoff. -/
theorem outages_of_perm (q : OutageQuery) {records shuffled : List CheckRecord}
    (perm : shuffled.Perm records) :
    (∀ gap, q.cutoff = none → q.tolerance.mul q.period = .ok gap →
      Number.le (.whole 0) gap = true →
      if q.period.le (.whole 0) then
        outages q records = .error (.periodNotPositive q.period) ∧
          outages q shuffled = .error (.periodNotPositive q.period)
      else ∃ os ps, outages q records = .ok os ∧ outages q shuffled = .ok ps ∧
        List.Forall₂ Outage.SameSpan os ps) ∧
    ((∀ time, shuffled.filter (fun r => r.timestamp = time) =
        records.filter fun r => r.timestamp = time) →
      outages q shuffled = outages q records) := by
  refine ⟨fun gap uncut product nonneg => ?_, fun ties => outages_congr (analysed_of_ties ties)⟩
  split
  · exact ⟨outages_of_period_le ‹_›, outages_of_period_le ‹_›⟩
  · next positive =>
    have positive := Bool.eq_false_of_not_eq_true positive
    have cutoff : ∀ n, q.cutoff = some n → 0 ≤ n := by simp [uncut]
    obtain ⟨os, run, runs, rated⟩ := outages_found records positive cutoff product nonneg
    obtain ⟨ps, run', runs', rated'⟩ := outages_found shuffled positive cutoff product nonneg
    refine ⟨os.reverse, ps.reverse, run, run', List.forall₂_reverse_iff.mpr ?_⟩
    have analysed := analysed_perm uncut perm
    have all : observed (q.analysed shuffled) = observed (q.analysed records) :=
      List.toFinset_eq_of_perm _ _ (analysed.map _)
    rw [all] at rated'
    have failures : (q.failures shuffled).Perm (q.failures records) := analysed.filter _
    have times : os.map (fun o => o.records.map CheckRecord.timestamp) =
        ps.map fun p => p.records.map CheckRecord.timestamp := by
      have divided := times_of_groups gap
        (times_eq (q.failures_sorted records) (q.failures_sorted shuffled) failures.symm)
      rw [← runs, ← runs', List.map_map, List.map_map] at divided
      exact divided
    refine forall₂_of_map_eq times fun o ho p hp same => ?_
    obtain ⟨start, last⟩ := Outage.bounds_of_times same
    refine (rated o ho).sameSpan (rated' p hp) start last ?_
    rw [Outage.records_eq_filter nonneg (q.failures_sorted records) runs o ho,
      Outage.records_eq_filter nonneg (q.failures_sorted shuffled) runs' p hp, start, last]
    exact failures.filter _

/-- Two failures of one time change places, and then the later ones come first. -/
theorem outages_of_perm_ties :
    let http : CheckRecord := ⟨60, .http, .ofAddress (.v4 0x01010101#32), .failure .error⟩
    let icmp : CheckRecord := ⟨60, .icmp, .ofAddress (.v6 1), .failure .timeout⟩
    let late : CheckRecord := ⟨1000, .icmp, .ofAddress (.v6 1), .failure .timeout⟩
    (∃ os ps, outages { period := .whole 60 } [http, icmp, late] = .ok os ∧
      outages { period := .whole 60 } [icmp, late, http] = .ok ps ∧
      List.Forall₂ Outage.SameSpan os ps) ∧
    outages { period := .whole 60, cutoff := some 2 } [late, http, icmp] =
      outages { period := .whole 60, cutoff := some 2 } [http, icmp, late] := by
  intro http icmp late
  constructor
  · have perm : [icmp, late, http].Perm [http, icmp, late] := by decide
    exact (outages_of_perm { period := .whole 60 } perm).1 (.float (.finite 90)) rfl
      (by decide +kernel) (by decide +kernel)
  · have perm : [late, http, icmp].Perm [http, icmp, late] := by decide
    refine (outages_of_perm { period := .whole 60, cutoff := some 2 } perm).2 fun time => ?_
    by_cases early : 60 = time
    · subst early
      rfl
    · simp [http, icmp, early, List.filter_cons]

end LinkMonitor
