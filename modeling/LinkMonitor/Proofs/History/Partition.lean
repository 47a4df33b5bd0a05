import LinkMonitor.History.Outage
import LinkMonitor.Proofs.Net.CanonicalText
import Mathlib.Algebra.Order.Ring.Rat
import Mathlib.Data.List.Sort
import Mathlib.Data.List.SplitBy

/-!
# Outages as a partition of the failures

The outages of a history are its failures in the order of time, cut wherever the gap between two
neighbours is too wide.
-/

namespace LinkMonitor

/-! ### Gaps -/

theorem Number.lt_of_le_eq_false {gap : Number} {d : Int}
    (nonneg : Number.le (.whole 0) gap = true) (wide : Number.le (.whole d) gap = false) :
    Number.lt gap (.whole d) = true ∧ 0 < d := by
  cases gap with
  | whole n =>
    simp only [Number.le, Number.lt, decide_eq_true_eq, decide_eq_false_iff_not] at *
    omega
  | float y =>
    cases y with
    | nan => simp [Number.le, Binary64.le] at nonneg
    | negInfinity => simp [Number.le, Binary64.le, Binary64.lt] at nonneg
    | infinity => simp [Number.le, Binary64.le, Binary64.lt] at wide
    | negZero =>
      have high : (0 : Rat) < d := by
        simpa [Number.le, Binary64.le, Binary64.lt] using wide
      exact ⟨by simpa [Number.lt, Binary64.lt] using high, Rat.intCast_pos.mp high⟩
    | finite v =>
      have low : 0 ≤ v := by simpa [Number.le, Binary64.le, Binary64.lt] using nonneg
      have high : v < d := by simpa [Number.le, Binary64.le, Binary64.lt] using wide
      refine ⟨by simpa [Number.lt, Binary64.lt] using high, Rat.intCast_pos.mp ?_⟩
      exact lt_of_le_of_lt low high

/-! ### The failures in the order of time -/

namespace OutageQuery

/-- The failures that count, in the order of time. -/
def failures (q : OutageQuery) (records : List CheckRecord) : List CheckRecord :=
  (q.analysed records).filter fun r => !r.isSuccess

theorem mergeSort_sorted (records : List CheckRecord) :
    (records.mergeSort fun a b => a.timestamp ≤ b.timestamp).Pairwise
      fun r s => r.timestamp ≤ s.timestamp := by
  have sorted : (records.mergeSort fun a b => a.timestamp ≤ b.timestamp).Pairwise
      fun a b => decide (a.timestamp ≤ b.timestamp) = true :=
    List.pairwise_mergeSort (by simp; omega) (by simp; omega) records
  simpa using sorted

theorem latest_sublist (cutoff : Option Int) (records : List CheckRecord) :
    (latest cutoff records).Sublist records := by
  cases cutoff with
  | none => exact List.Sublist.refl records
  | some n => exact List.drop_sublist _ records

theorem analysed_sorted (q : OutageQuery) (records : List CheckRecord) :
    (q.analysed records).Pairwise fun r s => r.timestamp ≤ s.timestamp := by
  refine List.Pairwise.sublist (latest_sublist _ _) ?_
  split
  · exact mergeSort_sorted records
  · exact (mergeSort_sorted records).filter _

theorem failures_sorted (q : OutageQuery) (records : List CheckRecord) :
    (q.failures records).Pairwise fun r s => r.timestamp ≤ s.timestamp :=
  (q.analysed_sorted records).filter _

/-! ### Rating -/

theorem distinct_length_le {cs ds : List Combination} (h : cs ⊆ ds) :
    (Combination.distinct cs).length ≤ (Combination.distinct ds).length := by
  rw [Combination.distinct, Combination.distinct, ← List.countP_eq_length_filter,
    ← List.countP_eq_length_filter]
  refine List.countP_mono_left fun c _ hc => ?_
  rw [List.contains_iff_mem] at hc ⊢
  exact h hc

theorem distinct_length_pos {cs : List Combination} (h : cs ≠ []) :
    0 < (Combination.distinct cs).length := by
  obtain ⟨c, rest, rfl⟩ := List.exists_cons_of_ne_nil h
  exact List.length_pos_of_mem (Combination.mem_distinct.mpr (List.mem_cons_self))

theorem severityOf_ok {failed enabled : Nat} (pos : 0 < failed) (bound : failed ≤ enabled) :
    ∃ s, Outage.severityOf failed enabled = .ok s := by
  have range : (0 : Int) < failed ∧ (failed : Int) ≤ enabled := by omega
  rw [Outage.severityOf, Severity.make?, dif_pos range]
  exact ⟨_, rfl⟩

/-- A group of failures has a rating, as what failed in it is enabled. -/
theorem rate_ok {q : OutageQuery} {records group : List CheckRecord} (some : group ≠ [])
    (inside : group ⊆ q.failures records) :
    ∃ o, rate (q.enabledCombinations records).length group = .ok o ∧ o.records = group := by
  have pos : 0 < (Combination.distinct (group.map CheckRecord.combination)).length :=
    distinct_length_pos (by simpa using some)
  have bound : (Combination.distinct (group.map CheckRecord.combination)).length ≤
      (q.enabledCombinations records).length := by
    refine distinct_length_le fun c hc => List.mem_append_right _ ?_
    obtain ⟨r, hr, rfl⟩ := List.mem_map.mp hc
    exact List.mem_map_of_mem (List.mem_filter.mp (inside hr)).1
  have failed (r : CheckRecord) (hr : r ∈ group) : r.isSuccess = false := by
    simpa using (List.mem_filter.mp (inside hr)).2
  obtain ⟨s, rated⟩ := severityOf_ok pos bound
  refine ⟨⟨group, s, some, failed⟩, ?_, rfl⟩
  rw [rate, rated]
  exact (dif_neg some).trans (dif_pos failed)

theorem mapM_rate_ok {q : OutageQuery} {records : List CheckRecord}
    {groups : List (List CheckRecord)}
    (sound : ∀ g ∈ groups, g ≠ [] ∧ g ⊆ q.failures records) :
    ∃ os, groups.mapM (rate (q.enabledCombinations records).length) = .ok os ∧
      os.map Outage.records = groups := by
  induction groups with
  | nil => exact ⟨[], rfl, rfl⟩
  | cons group rest ih =>
    obtain ⟨some, inside⟩ := sound group (by simp)
    obtain ⟨o, rated, same⟩ := rate_ok some inside
    obtain ⟨os, others, same'⟩ := ih fun g hg => sound g (List.mem_cons_of_mem _ hg)
    refine ⟨o :: os, ?_, by rw [List.map_cons, same, same']⟩
    rw [List.mapM_cons, rated, others]
    rfl

end OutageQuery

/-! ### Ranking -/

namespace Outage

instance : Std.TransCmp compareRecency := by
  unfold compareRecency
  infer_instance

theorem compareRecency_of_start_lt {a b : Outage} (h : a.start < b.start) :
    compareRecency a b = .lt := by
  have first : compareOn start a b = .lt := Int.compare_eq_lt.mpr h
  rw [compareRecency, compareLex, first]
  rfl

theorem start_le_of_isLE {a b : Outage} (h : (compareRecency b a).isLE = true) :
    b.start ≤ a.start := by
  by_contra above
  exact Std.OrientedCmp.not_isLE_of_lt (compareRecency_of_start_lt (Int.not_le.mp above)) h

theorem rankByRecency_of_descending {os : List Outage}
    (h : os.Pairwise fun a b => b.start < a.start) : rankByRecency os = os := by
  refine List.mergeSort_of_pairwise (h.imp fun later => ?_)
  rw [compareRecency_of_start_lt later]
  rfl

/-- Where each starts after the one before, no two have one start. -/
theorem eq_of_start_eq {os : List Outage} (h : os.Pairwise fun a b => a.start < b.start) :
    ∀ a ∈ os, ∀ b ∈ os, a.start = b.start → a = b := by
  intro a ha b hb
  refine List.Pairwise.forall_of_forall_of_flip
    (R := fun a b : Outage => a.start = b.start → a = b) (fun _ _ _ => rfl) ?_ ?_ ha hb
  · exact h.imp fun less same => absurd same less.ne
  · exact h.imp fun less same => absurd same less.ne'

theorem rankByRecency_of_ascending {os : List Outage}
    (h : os.Pairwise fun a b => a.start < b.start) : rankByRecency os = os.reverse := by
  have descending : os.reverse.Pairwise fun a b => b.start < a.start := List.pairwise_reverse.mpr h
  have ranked : (rankByRecency os).Pairwise fun a b => (compareRecency b a).isLE = true := by
    refine List.pairwise_mergeSort (fun a b c ab bc => ?_) (fun a b => ?_) os
    · exact Std.TransCmp.isLE_trans bc ab
    · by_cases before : (compareRecency b a).isLE = true
      · simp [before]
      · simp [Std.OrientedCmp.lt_of_not_isLE before]
  -- The order compares more than starts, but on these outages it is antisymmetric.
  refine List.Perm.eq_of_pairwise (fun a b ha hb ab ba => ?_) ranked (descending.imp fun later => ?_)
    ((List.mergeSort_perm os _).trans (List.reverse_perm os).symm)
  · refine eq_of_start_eq h a ?_ b (List.mem_reverse.mp hb) ?_
    · exact List.mem_mergeSort.mp ha
    · exact Int.le_antisymm (start_le_of_isLE ba) (start_le_of_isLE ab)
  · rw [compareRecency_of_start_lt later]
    rfl

end Outage

/-! ### The outages of a history -/

open OutageQuery

namespace Outage

theorem start_le_last {o : Outage}
    (sorted : o.records.Pairwise fun r s => r.timestamp ≤ s.timestamp) : o.start ≤ o.last := by
  obtain ⟨records, severity, some, failures⟩ := o
  cases records with
  | nil => exact absurd rfl some
  | cons r rest =>
    rcases List.mem_cons.mp (List.getLast_mem some) with same | later
    · exact Int.le_of_eq (congrArg CheckRecord.timestamp same.symm)
    · exact (List.pairwise_cons.mp sorted).1 _ later

/-- The later outage starts further than the gap behind the end of the earlier one. -/
def Follows (gap : Number) (older newer : Outage) : Prop :=
  Number.lt gap (.whole (newer.start - older.last)) = true

/-- The outages, the most recent first, cut the failures into maximal runs. -/
structure Partition (gap : Number) (failures : List CheckRecord) (os : List Outage) : Prop where
  whole : os.reverse.flatMap records = failures
  close : ∀ o ∈ os, o.records.IsChain fun r s => isClose gap r s = true
  apart : os.reverse.IsChain (Follows gap)
  descending : os.Pairwise fun newer older => older.start < newer.start
  ranked : rankByRecency os = os
  unfinished : ∀ o ∈ os, o.finish? = none ↔ o.total = 1
  finish_le : ∀ o ∈ os, ∀ finish, o.finish? = some finish → o.start ≤ finish

theorem finish?_eq_none_iff (o : Outage) : o.finish? = none ↔ o.total = 1 := by
  unfold finish?
  split <;> simp_all

theorem finish?_eq_last {o : Outage} {finish : Int} (h : o.finish? = some finish) :
    finish = o.last := by
  unfold finish? at h
  split at h
  · cases h
  · exact (Option.some.inj h).symm

end Outage

/-- The groups of a list, each with a rating, in the order of the list. -/
theorem found_of_groups {gap : Number} (nonneg : Number.le (.whole 0) gap = true)
    {failures : List CheckRecord} {os : List Outage}
    (groups : os.map Outage.records = failures.splitBy (isClose gap))
    (sorted : failures.Pairwise fun r s => r.timestamp ≤ s.timestamp) :
    os.flatMap Outage.records = failures ∧
      (∀ o ∈ os, o.records.IsChain fun r s => isClose gap r s = true) ∧
      (∀ o ∈ os, o.start ≤ o.last) ∧
      os.IsChain (Outage.Follows gap) ∧
      os.Pairwise fun a b => a.start < b.start := by
  have whole : os.flatMap Outage.records = failures := by
    rw [List.flatMap_def, groups, List.flatten_splitBy]
  have close (o : Outage) (ho : o ∈ os) : o.records.IsChain fun r s => isClose gap r s = true := by
    refine List.isChain_of_mem_splitBy (l := failures) ?_
    rw [← groups]
    exact List.mem_map_of_mem ho
  have inner (o : Outage) (ho : o ∈ os) : o.start ≤ o.last := by
    rw [← whole, List.flatMap_def] at sorted
    exact Outage.start_le_last ((List.pairwise_flatten.mp sorted).1 _ (List.mem_map_of_mem ho))
  have far := List.isChain_getLast_head_splitBy (isClose gap) failures
  rw [← groups, List.isChain_map] at far
  have apart (a b : Outage) (cut : ∃ ha hb,
      isClose gap (a.records.getLast ha) (b.records.head hb) = false) :
      Outage.Follows gap a b ∧ a.last < b.start := by
    obtain ⟨ha, hb, wide⟩ := cut
    obtain ⟨beyond, pos⟩ := Number.lt_of_le_eq_false nonneg wide
    exact ⟨beyond, Int.sub_pos.mp pos⟩
  -- A start is not after the last failure of its outage, and that is before the next start.
  have ascending : (os.map Outage.start).IsChain (· < ·) := by
    rw [List.isChain_map]
    exact far.imp_of_mem_imp fun a b ha _ cut => Int.lt_of_le_of_lt (inner a ha) (apart a b cut).2
  refine ⟨whole, close, inner, far.imp fun a b cut => (apart a b cut).1, ?_⟩
  exact List.pairwise_map.mp (List.isChain_iff_pairwise.mp ascending)

theorem outages_of_period_le {q : OutageQuery} {records : List CheckRecord}
    (h : q.period.le (.whole 0) = true) :
    outages q records = .error (.periodNotPositive q.period) := by
  rw [outages, if_pos h]
  rfl

/-- The gap is not looked at unless there is a failure. -/
theorem outages_of_positive {q : OutageQuery} {records : List CheckRecord}
    (positive : q.period.le (.whole 0) = false) (cutoff : ∀ n, q.cutoff = some n → 0 ≤ n) :
    outages q records = if (q.failures records).isEmpty then .ok [] else do
      let gap ← (q.tolerance.mul q.period).mapError .gap
      let found ← ((q.failures records).splitBy (isClose gap)).mapM
        (rate (q.enabledCombinations records).length)
      return Outage.rankByRecency found := by
  rw [outages, if_neg (by simp [positive])]
  cases given : q.cutoff with
  | none => cases q.tolerance.mul q.period <;> rfl
  | some n =>
    have nonneg := Int.not_lt.mpr (cutoff n given)
    simp only [if_neg nonneg]
    cases q.tolerance.mul q.period <;> rfl

theorem outages_eq {q : OutageQuery} {records : List CheckRecord} {gap : Number}
    (positive : q.period.le (.whole 0) = false) (cutoff : ∀ n, q.cutoff = some n → 0 ≤ n)
    (product : q.tolerance.mul q.period = .ok gap) :
    outages q records = if (q.failures records).isEmpty then .ok [] else do
      let found ← ((q.failures records).splitBy (isClose gap)).mapM
        (rate (q.enabledCombinations records).length)
      return Outage.rankByRecency found := by
  rw [outages_of_positive positive cutoff, product]
  rfl

namespace OutageQuery

/-- The complaint about a query that no history is analysed with. -/
def rejection? (q : OutageQuery) : Option AnalysisError :=
  if q.period.le (.whole 0) then some (.periodNotPositive q.period)
  else (q.cutoff.filter (· < 0)).map .negativeCutoff

theorem outages_of_rejection {q : OutageQuery} {records : List CheckRecord} {e : AnalysisError}
    (rejected : q.rejection? = some e) : outages q records = .error e := by
  unfold rejection? at rejected
  split at rejected
  · next never =>
    cases rejected
    exact outages_of_period_le never
  · next positive =>
    obtain ⟨n, given, rfl⟩ := Option.map_eq_some_iff.mp rejected
    obtain ⟨cutoff, negative⟩ := Option.filter_eq_some_iff.mp given
    have below : n < 0 := by simpa using negative
    rw [outages, if_neg positive, cutoff]
    simp only [if_pos below]
    rfl

theorem of_rejection?_eq_none {q : OutageQuery} (accepted : q.rejection? = none) :
    q.period.le (.whole 0) = false ∧ ∀ n, q.cutoff = some n → 0 ≤ n := by
  unfold rejection? at accepted
  split at accepted
  · cases accepted
  · next positive =>
    refine ⟨Bool.eq_false_of_not_eq_true positive, fun n given => ?_⟩
    have none := Option.filter_eq_none_iff.mp (Option.map_eq_none_iff.mp accepted) n given
    simpa using none

theorem rejection?_of_ok {q : OutageQuery} {records : List CheckRecord} {os : List Outage}
    (run : outages q records = .ok os) : q.rejection? = none := by
  cases rejected : q.rejection? with
  | none => rfl
  | some e =>
    rw [outages_of_rejection rejected] at run
    cases run

end OutageQuery

theorem groups_sound (q : OutageQuery) (records : List CheckRecord) (gap : Number) :
    ∀ g ∈ (q.failures records).splitBy (isClose gap), g ≠ [] ∧ g ⊆ q.failures records := by
  intro g hg
  refine ⟨List.ne_nil_of_mem_splitBy hg, fun r hr => ?_⟩
  rw [← List.flatten_splitBy (isClose gap) (q.failures records)]
  exact List.mem_flatten_of_mem hg hr

/-- The ratings of the groups, most recent first, are the outages. -/
theorem outages_of_groups {q : OutageQuery} {records : List CheckRecord} {gap : Number}
    (positive : q.period.le (.whole 0) = false) (cutoff : ∀ n, q.cutoff = some n → 0 ≤ n)
    (product : q.tolerance.mul q.period = .ok gap) :
    ∃ found : List Outage, outages q records = .ok (Outage.rankByRecency found) ∧
      found.map Outage.records = (q.failures records).splitBy (isClose gap) := by
  rw [outages_eq positive cutoff product]
  by_cases empty : q.failures records = []
  · refine ⟨[], ?_, by rw [empty]; rfl⟩
    simp [empty, Outage.rankByRecency, Outage.rankBy]
  · obtain ⟨found, rated, groups⟩ := mapM_rate_ok (groups_sound q records gap)
    refine ⟨found, ?_, groups⟩
    rw [if_neg (by simpa using empty), rated]
    rfl

/-- A history is rejected for its period only; else its outages cut its failures into runs. -/
theorem outages_partition {q : OutageQuery} {gap : Number} (records : List CheckRecord)
    (cutoff : ∀ n, q.cutoff = some n → 0 ≤ n) (product : q.tolerance.mul q.period = .ok gap)
    (nonneg : Number.le (.whole 0) gap = true) :
    if q.period.le (.whole 0) then outages q records = .error (.periodNotPositive q.period)
    else ∃ os, outages q records = .ok os ∧ Outage.Partition gap (q.failures records) os := by
  split
  · exact outages_of_period_le ‹_›
  · next positive =>
    obtain ⟨found, run, groups⟩ :=
      outages_of_groups (Bool.eq_false_of_not_eq_true positive) cutoff product
    obtain ⟨whole, close, inner, apart, ascending⟩ :=
      found_of_groups nonneg groups (q.failures_sorted records)
    rw [Outage.rankByRecency_of_ascending ascending] at run
    have descending : found.reverse.Pairwise fun newer older => older.start < newer.start :=
      List.pairwise_reverse.mpr ascending
    refine ⟨found.reverse, run, ?_, ?_, ?_, descending, ?_, ?_, ?_⟩
    · rw [List.reverse_reverse, whole]
    · exact fun o ho => close o (List.mem_reverse.mp ho)
    · rwa [List.reverse_reverse]
    · exact Outage.rankByRecency_of_descending descending
    · exact fun o _ => o.finish?_eq_none_iff
    · intro o ho finish h
      rw [Outage.finish?_eq_last h]
      exact inner o (List.mem_reverse.mp ho)

/-- Three failures out of order, the earliest an hour before the others. -/
def threeFailures : List CheckRecord :=
  [7260, 3600, 7200].map fun time =>
    ⟨time, .icmp, .ofAddress (.v4 0x01010101#32), .failure .timeout⟩

theorem outages_partition_threeFailures :
    ∃ os, outages { period := .whole 60 } threeFailures = .ok os ∧
      Outage.Partition (.float (.finite 90))
        (({ period := .whole 60 } : OutageQuery).failures threeFailures) os :=
  outages_partition (q := { period := .whole 60 }) threeFailures (by simp) (by decide +kernel)
    (by decide +kernel)

end LinkMonitor
