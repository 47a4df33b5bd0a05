import LinkMonitor.Proofs.History.Severity
import Mathlib.Data.List.Forall2

/-!
# Outages at a seam

A history that later records are appended to. Its failures are followed by theirs, and the outages are
the same on either side of the seam, where the newest outage may go on with the first failures that are
appended.
-/

namespace LinkMonitor

namespace OutageQuery

/-! ### The order of time -/

/-- A list in the order of time is told by the order of the records of each time. -/
theorem eq_of_ties {xs ys : List CheckRecord}
    (first : xs.Pairwise fun r s => r.timestamp ≤ s.timestamp)
    (second : ys.Pairwise fun r s => r.timestamp ≤ s.timestamp)
    (ties : ∀ time, xs.filter (fun r => r.timestamp = time) =
      ys.filter fun r => r.timestamp = time) : xs = ys := by
  have members (r : CheckRecord) : r ∈ xs ↔ r ∈ ys := by
    have same := congrArg (r ∈ ·) (ties r.timestamp)
    simpa using same
  induction xs generalizing ys with
  | nil =>
    cases ys with
    | nil => rfl
    | cons y ys => simpa using (members y).mpr List.mem_cons_self
  | cons x xs ih =>
    cases ys with
    | nil => simpa using (members x).mp List.mem_cons_self
    | cons y ys =>
      rw [List.pairwise_cons] at first second
      -- Each head is among the other list, so neither is later than the other one.
      have level : x.timestamp = y.timestamp := by
        have before : x.timestamp ≤ y.timestamp := by
          rcases List.mem_cons.mp ((members y).mpr List.mem_cons_self) with same | later
          · exact (congrArg CheckRecord.timestamp same).ge
          · exact first.1 y later
        have after : y.timestamp ≤ x.timestamp := by
          rcases List.mem_cons.mp ((members x).mp List.mem_cons_self) with same | later
          · exact (congrArg CheckRecord.timestamp same).ge
          · exact second.1 x later
        exact Int.le_antisymm before after
      have heads := ties x.timestamp
      rw [List.filter_cons_of_pos (by simp), List.filter_cons_of_pos (by simp [level])] at heads
      obtain ⟨rfl, -⟩ := List.cons_eq_cons.mp heads
      have rest (time : Int) : xs.filter (fun r => r.timestamp = time) =
          ys.filter fun r => r.timestamp = time := by
        have whole := ties time
        by_cases here : x.timestamp = time
        · simpa [here] using whole
        · simpa [here] using whole
      refine congrArg (x :: ·) (ih first.2 second.2 rest fun r => ?_)
      have same := congrArg (r ∈ ·) (rest r.timestamp)
      simpa using same

theorem byTime_append {records batch : List CheckRecord}
    (later : ∀ r ∈ records, ∀ s ∈ batch, r.timestamp ≤ s.timestamp) :
    byTime (records ++ batch) = byTime records ++ byTime batch := by
  refine eq_of_ties (mergeSort_sorted _) (List.pairwise_append.mpr ⟨mergeSort_sorted _,
    mergeSort_sorted _, fun r hr s hs => ?_⟩) fun time => ?_
  · exact later r (List.mem_mergeSort.mp hr) s (List.mem_mergeSort.mp hs)
  · rw [filter_mergeSort, List.filter_append, List.filter_append, filter_mergeSort,
      filter_mergeSort]

theorem analysed_append {q : OutageQuery} {records batch : List CheckRecord}
    (uncut : q.cutoff = none)
    (later : ∀ r ∈ records, ∀ s ∈ batch, r.timestamp ≤ s.timestamp) :
    q.analysed (records ++ batch) = q.analysed records ++ q.analysed batch := by
  simp only [analysed_eq, uncut, latest]
  rw [byTime_append later, List.filter_append]

theorem failures_append {q : OutageQuery} {records batch : List CheckRecord}
    (uncut : q.cutoff = none)
    (later : ∀ r ∈ records, ∀ s ∈ batch, r.timestamp ≤ s.timestamp) :
    q.failures (records ++ batch) = q.failures records ++ q.failures batch := by
  rw [failures, analysed_append uncut later, List.filter_append]
  rfl

end OutageQuery

/-! ### Runs -/

section Runs

variable {α : Type} {close : α → α → Bool}

/-- Two runs that meet closely are one run of the whole list. -/
theorem splitBy_joined {before after : List (List α)} {last first : List α} {xs ys : List α}
    (runs : xs.splitBy close = before ++ [last]) (runs' : ys.splitBy close = first :: after)
    (near : ∀ x ∈ last.getLast?, ∀ y ∈ first.head?, close x y = true) :
    (xs ++ ys).splitBy close = before ++ (last ++ first) :: after := by
  obtain ⟨whole, filled, chains, cuts⟩ := List.splitBy_eq_iff.mp runs
  obtain ⟨whole', filled', chains', cuts'⟩ := List.splitBy_eq_iff.mp runs'
  rw [List.isChain_append] at cuts
  rw [List.isChain_cons] at cuts'
  refine List.splitBy_eq_iff.mpr ⟨by simp [whole, whole'], ?_, ?_, ?_⟩
  · simp only [List.mem_append, List.mem_cons, List.nil_eq, List.append_eq_nil_iff] at filled filled' ⊢
    tauto
  · intro run member
    rcases List.mem_append.mp member with old | new
    · exact chains run (List.mem_append_left _ old)
    · rcases List.mem_cons.mp new with rfl | later
      · exact List.isChain_append.mpr ⟨chains last (by simp), chains' first (by simp), near⟩
      · exact chains' run (List.mem_cons_of_mem _ later)
  · refine List.isChain_append.mpr ⟨cuts.1, List.isChain_cons.mpr ⟨?_, cuts'.2⟩, ?_⟩
    · intro run next
      obtain ⟨some, some', apart⟩ := cuts'.1 run next
      exact ⟨by simp [some], some', by rwa [List.getLast_append_of_ne_nil]⟩
    · intro run earlier run' next
      obtain ⟨some, some', apart⟩ := cuts.2.2 run earlier last rfl
      cases next
      exact ⟨some, by simp [some'], by rwa [List.head_append_of_ne_nil]⟩

/-- The runs of two lists one after the other. The last run of the first list goes on with the first run
of the second one, or with nothing; all other runs are the same. -/
theorem splitBy_seam (close : α → α → Bool) {xs : List α} (some : xs ≠ []) (ys : List α) :
    ∃ before last more after, xs.splitBy close = before ++ [last] ∧
      (xs ++ ys).splitBy close = before ++ (last ++ more) :: after ∧ more ++ after.flatten = ys ∧
      (more = [] ∧ ys.splitBy close = after ∨ ys.splitBy close = more :: after) := by
  obtain ⟨before, last, runs⟩ : ∃ before last, xs.splitBy close = before ++ [last] :=
    ⟨_, _, (List.dropLast_append_getLast (List.splitBy_ne_nil.mpr some)).symm⟩
  have filled : last ≠ [] := List.ne_nil_of_mem_splitBy (r := close) (l := xs) (by simp [runs])
  cases ys with
  | nil => exact ⟨before, last, [], [], by simp [runs]⟩
  | cons y ys =>
    obtain ⟨first, after, runs'⟩ : ∃ first after, (y :: ys).splitBy close = first :: after :=
      List.exists_cons_of_ne_nil (List.splitBy_ne_nil.mpr (List.cons_ne_nil y ys))
    obtain ⟨whole, filled', -, -⟩ := List.splitBy_eq_iff.mp runs'
    obtain ⟨z, zs, rfl⟩ : ∃ z zs, first = z :: zs :=
      List.exists_cons_of_ne_nil fun empty => filled' (by simp [empty])
    obtain ⟨rfl, -⟩ := List.cons_eq_cons.mp whole
    by_cases near : close (last.getLast filled) y = true
    · refine ⟨before, last, y :: zs, after, runs, splitBy_joined runs runs' ?_, whole.symm, .inr runs'⟩
      intro x atEnd z atStart
      rw [List.getLast?_eq_some_getLast filled] at atEnd
      cases atEnd
      cases atStart
      exact near
    · have cut : (xs ++ y :: ys).splitBy close = before ++ [last] ++ (y :: ys).splitBy close := by
        rw [List.splitBy_append_cons, runs]
        intro x atEnd
        rw [(List.splitBy_eq_iff.mp runs).1, List.flatten_append, List.flatten_singleton,
          List.getLast?_append_of_ne_nil _ filled, List.getLast?_eq_some_getLast filled] at atEnd
        cases atEnd
        exact Bool.eq_false_of_not_eq_true near
      exact ⟨before, last, [], (y :: ys).splitBy close, runs, by simp [cut], by simp, .inl ⟨rfl, rfl⟩⟩

end Runs

/-! ### Outages on either side -/

/-- Lists with the same values of `f`, member by member. -/
theorem forall₂_of_map_eq {α β : Type} {f : α → β} {R : α → α → Prop} {xs ys : List α}
    (same : xs.map f = ys.map f) (pair : ∀ x ∈ xs, ∀ y ∈ ys, f x = f y → R x y) :
    List.Forall₂ R xs ys := by
  induction xs generalizing ys with
  | nil =>
    cases ys with
    | nil => exact .nil
    | cons y ys => cases same
  | cons x xs ih =>
    cases ys with
    | nil => cases same
    | cons y ys =>
      obtain ⟨first, rest⟩ := List.cons_eq_cons.mp same
      refine .cons (pair x (by simp) y (by simp) first) (ih rest fun x' hx y' hy => ?_)
      exact pair x' (List.mem_cons_of_mem _ hx) y' (List.mem_cons_of_mem _ hy)

open OutageQuery

/-- The outages of a history are the runs of its failures, and all of them are rated. -/
theorem outages_found {q : OutageQuery} {gap : Number} (records : List CheckRecord)
    (positive : q.period.le (.whole 0) = false) (cutoff : ∀ n, q.cutoff = some n → 0 ≤ n)
    (product : q.tolerance.mul q.period = .ok gap) (nonneg : Number.le (.whole 0) gap = true) :
    ∃ found : List Outage, outages q records = .ok found.reverse ∧
      found.map Outage.records = (q.failures records).splitBy (isClose gap) ∧
      ∀ o ∈ found, o.Rated (q.configured ∪ observed (q.analysed records)) := by
  have sound := groups_sound q records gap
  obtain ⟨found, rated, groups⟩ := mapM_rate_ok sound
  obtain ⟨-, -, -, -, ascending⟩ := found_of_groups nonneg groups (q.failures_sorted records)
  refine ⟨found, ?_, groups, rated_of_mapM (fun g hg => (sound g hg).2) rated⟩
  rw [outages_eq positive cutoff product]
  by_cases empty : q.failures records = []
  · have none : found = [] := by simpa [empty] using groups
    simp [empty, none]
  · rw [if_neg (by simpa using empty), rated, ← Outage.rankByRecency_of_ascending ascending]
    rfl

/-- There is an outage for each run of the failures. -/
theorem length_of_outages {q : OutageQuery} {gap : Number} {records : List CheckRecord}
    {os : List Outage} (product : q.tolerance.mul q.period = .ok gap)
    (nonneg : Number.le (.whole 0) gap = true) (run : outages q records = .ok os) :
    os.length = ((q.failures records).splitBy (isClose gap)).length := by
  obtain ⟨positive, cutoff⟩ := of_rejection?_eq_none (rejection?_of_ok run)
  obtain ⟨found, run', groups, -⟩ := outages_found records positive cutoff product nonneg
  rw [run] at run'
  cases run'
  rw [List.length_reverse, ← groups, List.length_map]

namespace Outage

/-- An outage of the same failures; more may be enabled, or less. -/
structure SameFailures (o p : Outage) : Prop where
  records : p.records = o.records
  start : p.start = o.start
  finish : p.finish? = o.finish?
  total : p.total = o.total
  failed : p.severity.failed = o.severity.failed

theorem Rated.sameFailures {o p : Outage} {all all' : Finset Combination} (rated : o.Rated all)
    (rated' : p.Rated all') (same : p.records = o.records) : SameFailures o p := by
  have failed : p.severity.failed = o.severity.failed := by rw [rated'.failed, rated.failed, same]
  obtain ⟨records, severity, some, failures⟩ := o
  obtain ⟨records', severity', some', failures'⟩ := p
  cases same
  exact ⟨rfl, rfl, rfl, rfl, failed⟩

theorem forall₂_sameFailures {os ps : List Outage} {all all' : Finset Combination}
    (rated : ∀ o ∈ os, o.Rated all) (rated' : ∀ p ∈ ps, p.Rated all')
    (same : os.map Outage.records = ps.map Outage.records) : List.Forall₂ SameFailures os ps :=
  forall₂_of_map_eq same fun o ho p hp records =>
    (rated o ho).sameFailures (rated' p hp) records.symm

/-- What becomes of the outages of a history, the oldest first, when its failures are followed by new
ones. All but the newest stay as they are, the newest goes on with the first of the new failures, or with
none, and the others make outages of their own. -/
inductive Continued (new : List CheckRecord) : List Outage → List Outage → Prop
  | started {fresh : List Outage} (whole : fresh.flatMap records = new) : Continued new [] fresh
  | resumed {kept kept' fresh : List Outage} {newest extended : Outage} {more : List CheckRecord}
      (same : List.Forall₂ SameFailures kept kept')
      (extends_ : extended.records = newest.records ++ more)
      (whole : more ++ fresh.flatMap records = new) :
      Continued new (kept ++ [newest]) (kept' ++ extended :: fresh)

theorem continued_of_runs {gap : Number} {old new : List CheckRecord} {os ps : List Outage}
    {all all' : Finset Combination} (rated : ∀ o ∈ os, o.Rated all)
    (rated' : ∀ p ∈ ps, p.Rated all') (runs : os.map Outage.records = old.splitBy (isClose gap))
    (runs' : ps.map Outage.records = (old ++ new).splitBy (isClose gap)) : Continued new os ps := by
  by_cases empty : old = []
  · have none : os = [] := by simpa [empty] using runs
    rw [none]
    refine .started ?_
    rw [List.flatMap_def, runs', List.flatten_splitBy, empty, List.nil_append]
  · obtain ⟨before, last, more, after, first, joined, whole, -⟩ :=
      splitBy_seam (isClose gap) empty new
    obtain ⟨kept, rest, rfl, same, ending⟩ := List.map_eq_append_iff.mp (runs.trans first)
    obtain ⟨newest, rfl, rfl⟩ := List.map_eq_singleton_iff.mp ending
    obtain ⟨kept', rest', rfl, same', ending'⟩ := List.map_eq_append_iff.mp (runs'.trans joined)
    obtain ⟨extended, fresh, rfl, grown, others⟩ := List.map_eq_cons_iff.mp ending'
    refine .resumed ?_ grown (by rw [List.flatMap_def, others, whole])
    refine forall₂_sameFailures (fun o ho => rated o (List.mem_append_left _ ho))
      (fun p hp => rated' p (List.mem_append_left _ hp)) (same.trans same'.symm)

end Outage

/-- Records that come later do not change the outages before them: what is appended extends the newest
outage with the first of its failures, or with none, and all others are new. What was enabled still is. -/
theorem outages_of_append {q : OutageQuery} {gap : Number} (records batch : List CheckRecord)
    (uncut : q.cutoff = none) (product : q.tolerance.mul q.period = .ok gap)
    (nonneg : Number.le (.whole 0) gap = true)
    (later : ∀ r ∈ records, ∀ s ∈ batch, r.timestamp ≤ s.timestamp) :
    if q.period.le (.whole 0) then
      outages q records = .error (.periodNotPositive q.period) ∧
        outages q (records ++ batch) = .error (.periodNotPositive q.period)
    else ∃ os ps, outages q records = .ok os ∧ outages q (records ++ batch) = .ok ps ∧
      Outage.Continued (q.failures batch) os.reverse ps.reverse ∧
      ∀ o ∈ os, ∀ p ∈ ps, o.severity.enabled ≤ p.severity.enabled := by
  split
  · exact ⟨outages_of_period_le ‹_›, outages_of_period_le ‹_›⟩
  · next positive =>
    have positive := Bool.eq_false_of_not_eq_true positive
    have cutoff : ∀ n, q.cutoff = some n → 0 ≤ n := by simp [uncut]
    obtain ⟨os, run, runs, rated⟩ := outages_found records positive cutoff product nonneg
    obtain ⟨ps, run', runs', rated'⟩ :=
      outages_found (records ++ batch) positive cutoff product nonneg
    refine ⟨os.reverse, ps.reverse, run, run', ?_, fun o ho p hp => ?_⟩
    · rw [failures_append uncut later] at runs'
      rw [List.reverse_reverse, List.reverse_reverse]
      exact Outage.continued_of_runs rated rated' runs runs'
    · rw [(rated o (List.mem_reverse.mp ho)).enabled, (rated' p (List.mem_reverse.mp hp)).enabled,
        analysed_append uncut later]
      exact Finset.card_le_card
        (Finset.union_subset_union_right (observed_mono (List.subset_append_left _ _)))

/-- Failures of one check at the given times. -/
def failuresAt (times : List Int) : List CheckRecord :=
  times.map fun time => ⟨time, .icmp, .ofAddress (.v4 0x01010101#32), .failure .timeout⟩

/-- All of them are found, in the order of time. -/
theorem failures_failuresAt {q : OutageQuery} (every : q.stack = none) (uncut : q.cutoff = none)
    (times : List Int) :
    q.failures (failuresAt times) = failuresAt (times.mergeSort fun a b => a ≤ b) := by
  have ordered : byTime (failuresAt times) = failuresAt (times.mergeSort fun a b => a ≤ b) := by
    symm
    apply List.map_mergeSort
    intro a _ b _
    rfl
  have found : q.analysed (failuresAt times) = byTime (failuresAt times) := by
    simp [analysed, latest, every, uncut]
  rw [failures, found, ordered, List.filter_eq_self]
  intro r member
  obtain ⟨time, -, rfl⟩ := List.mem_map.mp member
  rfl

/-- One of the appended failures is at the time of the last one before, and they are out of order. -/
theorem outages_of_append_tie :
    ∃ os ps, outages { period := .whole 60 } (failuresAt [60, 1000, 1060]) = .ok os ∧
      outages { period := .whole 60 } (failuresAt [60, 1000, 1060, 2000, 1060]) = .ok ps ∧
      Outage.Continued (failuresAt [1060, 2000]) os.reverse ps.reverse := by
  have new : ({ period := .whole 60 } : OutageQuery).failures (failuresAt [2000, 1060]) =
      failuresAt [1060, 2000] := by
    simp [failures_failuresAt, List.mergeSort]
  obtain ⟨os, ps, before, after, continued, -⟩ :=
    @outages_of_append { period := .whole 60 } (.float (.finite 90)) (failuresAt [60, 1000, 1060])
      (failuresAt [2000, 1060]) rfl (by decide +kernel) (by decide +kernel) (by decide)
  exact ⟨os, ps, before, after, new ▸ continued⟩

end LinkMonitor
