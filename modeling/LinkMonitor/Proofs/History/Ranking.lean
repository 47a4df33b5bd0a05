import LinkMonitor.Proofs.History.Seam
import Mathlib.Algebra.Order.Field.Basic
import Mathlib.Data.Prod.Lex

/-!
# The ranking by severity

A ranking by severity goes by the share of the failed combinations, then by the number of records, by the
start and by the end. That a complete outage is above a partial one is no rule of its own: its share is
the greatest there is.
-/

namespace LinkMonitor

namespace Severity

/-- The share of the enabled combinations that failed. -/
def share (s : Severity) : ℚ := s.failed / s.enabled

theorem cast_enabled_pos (s : Severity) : (0 : ℚ) < s.enabled := by
  have pos : 0 < s.enabled := s.failed_pos.trans_le s.failed_le
  exact_mod_cast pos

theorem share_mul_enabled (s : Severity) : s.share * s.enabled = s.failed :=
  div_mul_cancel₀ _ s.cast_enabled_pos.ne'

theorem share_le_one (s : Severity) : s.share ≤ 1 := by
  rw [share, div_le_one s.cast_enabled_pos]
  exact_mod_cast s.failed_le

theorem isComplete_iff (s : Severity) : s.isComplete = true ↔ s.share = 1 := by
  rw [share, div_eq_one_iff_eq s.cast_enabled_pos.ne', isComplete, decide_eq_true_eq]
  norm_cast

/-- Fractions are compared exactly. -/
theorem compareShare_eq (s t : Severity) : s.compareShare t = compare s.share t.share := by
  have left : ((s.failed * t.enabled : ℕ) : ℚ) = s.share * (s.enabled * t.enabled) := by
    rw [← mul_assoc, share_mul_enabled]
    push_cast
    rfl
  have right : ((t.failed * s.enabled : ℕ) : ℚ) = t.share * (s.enabled * t.enabled) := by
    rw [mul_comm (s.enabled : ℚ), ← mul_assoc, share_mul_enabled]
    push_cast
    rfl
  have pos : (0 : ℚ) < s.enabled * t.enabled := mul_pos s.cast_enabled_pos t.cast_enabled_pos
  have increasing : StrictMono (Nat.cast : ℕ → ℚ) := Nat.strictMono_cast
  rw [compareShare, ← cmp_eq_compare, ← cmp_eq_compare, ← increasing.cmp_map_eq, left, right,
    cmp_mul_pos_right pos]

/-- Complete ones are above the others by their share alone. -/
theorem compare_isComplete_then (s t : Severity) :
    (compare s.isComplete t.isComplete).then (compare s.share t.share) = compare s.share t.share := by
  have less (s t : Severity) (partly : s.isComplete = false) (complete : t.isComplete = true) :
      s.share < t.share := by
    rw [t.isComplete_iff.mp complete]
    refine lt_of_le_of_ne s.share_le_one fun all => ?_
    rw [s.isComplete_iff.mpr all] at partly
    cases partly
  cases first : s.isComplete with
  | false =>
    cases second : t.isComplete with
    | false => rfl
    | true => exact (compare_lt_iff_lt.mpr (less s t first second)).symm
  | true =>
    cases second : t.isComplete with
    | false => exact (compare_gt_iff_gt.mpr (less t s second first)).symm
    | true => rfl

end Severity

namespace Outage

/-! ### The rank -/

/-- What outages are ranked by, in the order of weight. An outage that may still go on ends at its
start. -/
def rank (o : Outage) : ℚ ×ₗ ℕ ×ₗ ℤ ×ₗ ℤ :=
  toLex (o.severity.share, toLex (o.total, toLex (o.start, o.finish?.getD o.start)))

theorem compareSeverity_eq (o p : Outage) : compareSeverity o p = compare o.rank p.rank := by
  have once (total start finish : Ordering) :
      total.then (start.then (finish.then total)) = total.then (start.then finish) := by
    cases total <;> cases start <;> cases finish <;> rfl
  have weighed : compareSeverity o p = (compare o.severity.isComplete p.severity.isComplete).then
      ((o.severity.compareShare p.severity).then ((compare o.total p.total).then
        ((compare o.start p.start).then ((compare (o.finish?.getD o.start)
          (p.finish?.getD p.start)).then (compare o.total p.total))))) := rfl
  rw [weighed, once, Severity.compareShare_eq, ← Ordering.then_assoc,
    Severity.compare_isComplete_then]
  rfl

theorem isLE_compareSeverity (o p : Outage) :
    (compareSeverity o p).isLE = true ↔ o.rank ≤ p.rank := by
  rw [compareSeverity_eq, ← Ordering.ne_gt_iff_isLE]
  exact compare_le_iff_le

theorem start_eq_of_rank_eq {o p : Outage} (same : o.rank = p.rank) : o.start = p.start :=
  congrArg (fun rank => (ofLex (ofLex (ofLex rank).2).2).1) same

theorem share_le_of_rank_le {o p : Outage} (below : o.rank ≤ p.rank) :
    o.severity.share ≤ p.severity.share :=
  Prod.Lex.monotone_fst _ _ below

/-! ### The ranking -/

/-- The outages from the greatest rank to the least; those of one rank keep their order. So complete
outages are above partial ones. -/
structure SeverityRanking (os ranked : List Outage) : Prop where
  perm : ranked.Perm os
  descending : ranked.Pairwise fun o p => p.rank ≤ o.rank
  stable : ∀ rank, ranked.filter (fun o => o.rank = rank) = os.filter fun o => o.rank = rank
  complete_first : ranked.Pairwise fun o p =>
    p.severity.isComplete = true → o.severity.isComplete = true

theorem severityRanking (os : List Outage) : SeverityRanking os (rankBySeverity os) := by
  have trans : ∀ a b c : Outage, (compareSeverity b a).isLE = true →
      (compareSeverity c b).isLE = true → (compareSeverity c a).isLE = true := by
    simp only [isLE_compareSeverity]
    intro a b c first second
    exact second.trans first
  have total : ∀ a b : Outage,
      ((compareSeverity b a).isLE || (compareSeverity a b).isLE) = true := by
    simp only [Bool.or_eq_true, isLE_compareSeverity]
    intro a b
    exact le_total b.rank a.rank
  have descending : (rankBySeverity os).Pairwise fun o p => p.rank ≤ o.rank := by
    refine (List.pairwise_mergeSort trans total os).imp ?_
    intro o p before
    exact (isLE_compareSeverity p o).mp before
  refine ⟨List.mergeSort_perm os _, descending, fun rank => ?_, descending.imp ?_⟩
  · apply filter_mergeSort_of_level trans total
    intro a b first second
    rw [decide_eq_true_eq] at first second
    rw [isLE_compareSeverity, first, second]
  · intro o p below complete
    rw [Severity.isComplete_iff] at complete ⊢
    have above := share_le_of_rank_le below
    rw [complete] at above
    exact le_antisymm o.severity.share_le_one above

/-- Where no two outages start together there is one ranking, whatever order they come in. -/
theorem rankBySeverity_of_perm {os os' : List Outage}
    (apart : ∀ o ∈ os, ∀ p ∈ os, o.start = p.start → o = p) (perm : os'.Perm os) :
    rankBySeverity os' = rankBySeverity os := by
  have first := severityRanking os'
  have second := severityRanking os
  refine List.Perm.eq_of_pairwise ?_ first.descending second.descending
    ((first.perm.trans perm).trans second.perm.symm)
  intro o p ho hp below above
  have among : o ∈ os := perm.subset (first.perm.subset ho)
  have among' : p ∈ os := second.perm.subset hp
  exact apart o among p among' (start_eq_of_rank_eq (le_antisymm above below))

end Outage

/-- Outages are ranked by severity from the greatest to the least, and those that compare equal stay in their
order. The outages of a history have one ranking, whatever order they come in. -/
theorem rankBySeverity_ranks (os : List Outage) :
    Outage.SeverityRanking os (Outage.rankBySeverity os) ∧
      ∀ (q : OutageQuery) (records : List CheckRecord) (gap : Number),
        outages q records = .ok os → q.tolerance.mul q.period = .ok gap →
        Number.le (.whole 0) gap = true →
        ∀ os' : List Outage, os'.Perm os → Outage.rankBySeverity os' = Outage.rankBySeverity os := by
  refine ⟨Outage.severityRanking os, ?_⟩
  intro q records gap run product nonneg os' perm
  obtain ⟨positive, cutoff⟩ := OutageQuery.of_rejection?_eq_none (OutageQuery.rejection?_of_ok run)
  obtain ⟨found, run', groups, -⟩ := outages_found records positive cutoff product nonneg
  obtain ⟨-, -, -, -, ascending⟩ := found_of_groups nonneg groups (q.failures_sorted records)
  obtain rfl : found.reverse = os := Except.ok.inj (run'.symm.trans run)
  refine Outage.rankBySeverity_of_perm ?_ perm
  intro o ho p hp
  exact Outage.eq_of_start_eq ascending o (List.mem_reverse.mp ho) p (List.mem_reverse.mp hp)

/-- Three outages, two of which differ in their start only. -/
theorem rankBySeverity_ranks_reversed :
    ∃ os, outages { period := .whole 60 } (failuresAt [60, 2000, 1000, 1060]) = .ok os ∧
      os.length = 3 ∧ Outage.rankBySeverity os.reverse = Outage.rankBySeverity os := by
  let q : OutageQuery := { period := .whole 60 }
  let records := failuresAt [60, 2000, 1000, 1060]
  obtain ⟨found, run, -⟩ := @outages_found q (.float (.finite 90)) records (by decide)
    (by simp [q]) (by decide +kernel) (by decide +kernel)
  have sorted : q.failures records = failuresAt [60, 1000, 1060, 2000] := by
    simp [q, records, failures_failuresAt, List.mergeSort]
  refine ⟨found.reverse, run, ?_, ?_⟩
  · rw [@length_of_outages q (.float (.finite 90)) records found.reverse (by decide +kernel)
      (by decide +kernel) run, sorted]
    decide +kernel
  · exact (rankBySeverity_ranks found.reverse).2 q records (.float (.finite 90)) run
      (by decide +kernel) (by decide +kernel) _ (List.reverse_perm _)

end LinkMonitor
