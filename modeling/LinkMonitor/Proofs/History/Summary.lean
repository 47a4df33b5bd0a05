import LinkMonitor.History.Summary
import LinkMonitor.Proofs.Net.CanonicalText
import LinkMonitor.Proofs.Numeric.Rounding
import Mathlib.Algebra.Group.Action.Defs
import Mathlib.Algebra.Order.BigOperators.Group.List
import Mathlib.Order.Bounds.Basic

/-!
# Summaries and the history

The summaries of a history count its records, whatever their order. Those of the two kinds make up that
of the whole history, and so do those of the two stacks.
-/

namespace LinkMonitor

/-- The latencies of the successes. -/
def latencies (records : List CheckRecord) : List Nat :=
  records.filterMap fun r => r.latency?.map (·.val)

theorem latencies_length (records : List CheckRecord) :
    (latencies records).length = records.countP CheckRecord.isSuccess := by
  rw [latencies, List.length_filterMap_eq_countP]
  congr 1
  funext r
  cases outcome : r.outcome <;>
    simp [CheckRecord.latency?, CheckRecord.isSuccess, Outcome.latency?, Outcome.isSuccess, outcome]

theorem le_maxLatency {records : List CheckRecord} {n : Nat} (member : n ∈ latencies records) :
    n ≤ maxLatency := by
  obtain ⟨r, -, found⟩ := List.mem_filterMap.mp member
  obtain ⟨latency, -, rfl⟩ := Option.map_eq_some_iff.mp found
  exact Nat.le_of_lt_succ latency.isLt

/-- The mean of some whole numbers. -/
def exactMean (values : List Nat) : Rat := (values.sum : Rat) / values.length

theorem exactMean_nonneg (values : List Nat) : 0 ≤ exactMean values :=
  div_nonneg (Nat.cast_nonneg _) (Nat.cast_nonneg _)

section Mean

variable {values : List Nat} {n : Nat}

theorem le_exactMean (some : values ≠ []) (h : ∀ m ∈ values, n ≤ m) : (n : Rat) ≤ exactMean values := by
  have pos : (0 : Rat) < values.length := by exact_mod_cast List.length_pos_of_ne_nil some
  have total := List.card_nsmul_le_sum values n h
  rw [smul_eq_mul, Nat.mul_comm] at total
  rw [exactMean, le_div_iff₀ pos]
  exact_mod_cast total

theorem exactMean_le (some : values ≠ []) (h : ∀ m ∈ values, m ≤ n) : exactMean values ≤ n := by
  have pos : (0 : Rat) < values.length := by exact_mod_cast List.length_pos_of_ne_nil some
  have total := List.sum_le_card_nsmul values n h
  rw [smul_eq_mul, Nat.mul_comm] at total
  rw [exactMean, div_le_iff₀ pos]
  exact_mod_cast total

end Mean

namespace Summary

variable {records shuffled : List CheckRecord}

/-! ### Latencies -/

/-- The least, the mean and the greatest of some latencies. The mean is rounded once. -/
structure Measures (values : List Nat) (low : Nat) (mean : Rat) (high : Nat) : Prop where
  least : IsLeast {n | n ∈ values} low
  greatest : IsGreatest {n | n ∈ values} high
  rounded : mean = Binary64.nearest (exactMean values)
  exact : |mean - exactMean values| ≤ Binary64.unit (exactMean values) / 2
  above : low ≤ mean
  below : mean ≤ high
  bounded : high ≤ maxLatency

theorem mean?_eq {values : List Nat} (some : values ≠ []) (bound : ∀ n ∈ values, n ≤ maxLatency) :
    mean? values = .some (.finite (Binary64.nearest (exactMean values))) := by
  have total : values.foldl (fun total n => total + n) 0 = values.sum := List.sum_eq_foldl_nat.symm
  have ratio : (((values.sum : Nat) : Int) : Rat) / ((values.length : Int) : Rat) = exactMean values := by
    rw [exactMean, Int.cast_natCast, Int.cast_natCast]
  have high : exactMean values ≤ (maxLatency : Int) := by exact_mod_cast exactMean_le some bound
  rw [mean?, if_neg (by simpa using some), Binary64.ofRatio, total, ratio,
    Binary64.ofRat_of_le (by decide) (exactMean_nonneg values) high]

theorem measures {values : List Nat} {low high : Nat} (least : values.min? = some low)
    (greatest : values.max? = some high) (bound : ∀ n ∈ values, n ≤ maxLatency) :
    Measures values low (Binary64.nearest (exactMean values)) high := by
  obtain ⟨among, lowest⟩ := List.min?_eq_some_iff.mp least
  obtain ⟨among', highest⟩ := List.max?_eq_some_iff.mp greatest
  have filled : values ≠ [] := List.ne_nil_of_mem among
  have small {n : Nat} (member : n ∈ values) : ((n : Int)).natAbs ≤ 2 ^ 53 := by
    have := bound n member
    have : maxLatency ≤ 2 ^ 53 := by decide
    omega
  have nonneg := exactMean_nonneg values
  refine ⟨⟨among, lowest⟩, ⟨among', highest⟩, rfl, ?_, ?_, ?_, bound high among'⟩
  · have near := Binary64.abs_nearest_sub_le (exactMean values)
    rwa [Binary64.magnitude_of_nonneg nonneg] at near
  · exact_mod_cast Binary64.intCast_le_nearest (small among) (Int.natCast_nonneg low)
      (by exact_mod_cast le_exactMean filled lowest)
  · exact_mod_cast Binary64.nearest_le_intCast (small among') nonneg
      (by exact_mod_cast exactMean_le filled highest)

/-! ### What a summary says about its records -/

/-- The summary counts the records; it has times if there are records, and latencies if there are
successes. -/
structure Describes (s : Summary) (records : List CheckRecord) : Prop where
  total : s.total = records.length
  ok : s.ok = records.countP CheckRecord.isSuccess
  bad : s.bad = records.countP fun r => !r.isSuccess
  parts : s.total = s.ok + s.bad
  first : ∀ t, s.first? = some t ↔ IsLeast {u | ∃ r ∈ records, r.timestamp = u} t
  last : ∀ t, s.last? = some t ↔ IsGreatest {u | ∃ r ∈ records, r.timestamp = u} t
  untimed : (s.first? = none ↔ s.total = 0) ∧ (s.last? = none ↔ s.total = 0)
  unmeasured : (s.minLatency? = none ↔ s.ok = 0) ∧ (s.meanLatency? = none ↔ s.ok = 0) ∧
    (s.maxLatency? = none ↔ s.ok = 0)
  measured : 0 < s.ok → ∃ low mean high, s.minLatency? = some low ∧
    s.meanLatency? = some (.finite mean) ∧ s.maxLatency? = some high ∧
    Measures (latencies records) low mean high

theorem min?_timestamps_eq_some_iff {t : Int} :
    (records.map CheckRecord.timestamp).min? = some t ↔
      IsLeast {u | ∃ r ∈ records, r.timestamp = u} t := by
  simp [List.min?_eq_some_iff, IsLeast, lowerBounds]

theorem max?_timestamps_eq_some_iff {t : Int} :
    (records.map CheckRecord.timestamp).max? = some t ↔
      IsGreatest {u | ∃ r ∈ records, r.timestamp = u} t := by
  simp [List.max?_eq_some_iff, IsGreatest, upperBounds]

theorem describes_ofRecords (records : List CheckRecord) : (ofRecords records).Describes records := by
  have count : (latencies records).length = (ofRecords records).ok := latencies_length records
  have parts : records.length = records.countP CheckRecord.isSuccess +
      records.countP fun r => !r.isSuccess := by
    simpa using List.length_eq_countP_add_countP CheckRecord.isSuccess (l := records)
  have bad : (ofRecords records).bad = records.countP fun r => !r.isSuccess := by
    show records.length - records.countP CheckRecord.isSuccess = _
    omega
  have idle : (ofRecords records).ok = 0 ↔ latencies records = [] := by
    rw [← count, List.length_eq_zero_iff]
  have mean : (ofRecords records).meanLatency? = none ↔ latencies records = [] := by
    show mean? (latencies records) = none ↔ _
    simp [mean?]
  refine {
    total := rfl
    ok := rfl
    bad
    parts := parts.trans (congrArg _ bad.symm)
    first := fun t => min?_timestamps_eq_some_iff
    last := fun t => max?_timestamps_eq_some_iff
    untimed := ?_
    unmeasured := ?_
    measured := ?_ }
  · constructor
    · show (records.map CheckRecord.timestamp).min? = none ↔ records.length = 0
      simp
    · show (records.map CheckRecord.timestamp).max? = none ↔ records.length = 0
      simp
  · rw [idle]
    exact ⟨List.min?_eq_none_iff, mean, List.max?_eq_none_iff⟩
  · intro some
    have filled : latencies records ≠ [] := fun none => some.ne' (idle.mpr none)
    obtain ⟨low, least⟩ := Option.ne_none_iff_exists'.mp (mt List.min?_eq_none_iff.mp filled)
    obtain ⟨high, greatest⟩ := Option.ne_none_iff_exists'.mp (mt List.max?_eq_none_iff.mp filled)
    have bound : ∀ n ∈ latencies records, n ≤ maxLatency := fun n => le_maxLatency
    exact ⟨low, _, high, least, mean?_eq filled bound, greatest, measures least greatest bound⟩

/-! ### The same records in another order -/

theorem min?_eq_of_perm {α : Type} [Min α] [LE α] [Std.IsLinearOrder α] [Std.LawfulOrderMin α]
    {xs ys : List α} (perm : xs.Perm ys) : xs.min? = ys.min? := by
  ext a
  simp only [List.min?_eq_some_iff, perm.mem_iff]

theorem max?_eq_of_perm {α : Type} [Max α] [LE α] [Std.IsLinearOrder α] [Std.LawfulOrderMax α]
    {xs ys : List α} (perm : xs.Perm ys) : xs.max? = ys.max? := by
  ext a
  simp only [List.max?_eq_some_iff, perm.mem_iff]

theorem mean?_eq_of_perm {xs ys : List Nat} (perm : xs.Perm ys) : mean? xs = mean? ys := by
  have total : xs.foldl (fun total n => total + n) 0 = ys.foldl (fun total n => total + n) 0 :=
    perm.foldl_eq 0
  rw [mean?, mean?, total, perm.length_eq, perm.isEmpty_eq]

theorem ofRecords_of_perm (perm : shuffled.Perm records) : ofRecords shuffled = ofRecords records := by
  have measured : (latencies shuffled).Perm (latencies records) := perm.filterMap _
  have times := perm.map CheckRecord.timestamp
  simp only [ofRecords, mk.injEq]
  exact ⟨perm.length_eq, perm.countP_eq _, min?_eq_of_perm times, max?_eq_of_perm times,
    min?_eq_of_perm measured, mean?_eq_of_perm measured, max?_eq_of_perm measured⟩

/-! ### Parts of a history -/

/-- The summary of a history that the histories of the other two make up. -/
structure Joins (whole left right : Summary) : Prop where
  total : whole.total = left.total + right.total
  ok : whole.ok = left.ok + right.ok
  bad : whole.bad = left.bad + right.bad
  first : whole.first? = left.first?.merge min right.first?
  last : whole.last? = left.last?.merge max right.last?

theorem min?_append {xs ys : List Int} : (xs ++ ys).min? = xs.min?.merge min ys.min? := by
  induction xs with
  | nil => simp
  | cons x xs ih =>
    rw [List.cons_append, List.min?_cons, List.min?_cons, ih]
    cases xs.min? <;> cases ys.min? <;> simp [Int.min_assoc]

theorem max?_append {xs ys : List Int} : (xs ++ ys).max? = xs.max?.merge max ys.max? := by
  induction xs with
  | nil => simp
  | cons x xs ih =>
    rw [List.cons_append, List.max?_cons, List.max?_cons, ih]
    cases xs.max? <;> cases ys.max? <;> simp [Int.max_assoc]

theorem joins_append (xs ys : List CheckRecord) :
    (ofRecords (xs ++ ys)).Joins (ofRecords xs) (ofRecords ys) where
  total := List.length_append
  ok := List.countP_append
  bad := by
    rw [(describes_ofRecords _).bad, (describes_ofRecords xs).bad, (describes_ofRecords ys).bad,
      List.countP_append]
  first := by
    show ((xs ++ ys).map CheckRecord.timestamp).min? = _
    rw [List.map_append, min?_append]
    rfl
  last := by
    show ((xs ++ ys).map CheckRecord.timestamp).max? = _
    rw [List.map_append, max?_append]
    rfl

/-- Whatever divides a history, the two parts make it up. -/
theorem joins_filter (divides : CheckRecord → Bool) (records : List CheckRecord) :
    (ofRecords records).Joins (ofRecords (records.filter divides))
      (ofRecords (records.filter fun r => !divides r)) := by
  rw [← ofRecords_of_perm (List.filter_append_perm divides records)]
  exact joins_append _ _

end Summary

namespace Category

theorem includes_icmp (r : CheckRecord) : icmp.includes r = !http.includes r := by
  cases kind : r.kind <;> simp [includes, kind]

theorem includes_ipv6 (r : CheckRecord) : ipv6.includes r = !ipv4.includes r := by
  cases stack : r.stack <;> simp [includes, stack]

end Category

open Summary Category

/-- There is a summary for each category. It tells how many of the records of the category failed, and
between which bounds their times and latencies are. The kinds make up the whole history, and so do the
stacks. The order of the records does not matter. -/
theorem summarize_consistent (records : List CheckRecord) :
    ∃ s : Category → Summary, summarize records = Category.all.map (fun c => (c, s c)) ∧
      (∀ c, (s c).Describes (records.filter c.includes)) ∧
      (s general).Joins (s http) (s icmp) ∧ (s general).Joins (s ipv4) (s ipv6) ∧
      ∀ shuffled, shuffled.Perm records → summarize shuffled = summarize records := by
  refine ⟨fun c => ofRecords (records.filter c.includes), rfl, fun c => describes_ofRecords _, ?_, ?_,
    fun shuffled perm => ?_⟩
  · have whole : records.filter general.includes = records := List.filter_eq_self.mpr fun _ _ => rfl
    simp only [whole, funext includes_icmp]
    exact joins_filter http.includes records
  · have whole : records.filter general.includes = records := List.filter_eq_self.mpr fun _ _ => rfl
    simp only [whole, funext includes_ipv6]
    exact joins_filter ipv4.includes records
  · have each (c : Category) : ofRecords (shuffled.filter c.includes) =
        ofRecords (records.filter c.includes) := ofRecords_of_perm (perm.filter _)
    simp only [summarize, each]

/-- Two successes and a failure, on both stacks, that come in another order. -/
theorem summarize_consistent_shuffled :
    let ping : CheckRecord := ⟨120, .icmp, .ofAddress (.v6 1), .success ⟨8, by decide⟩⟩
    let page : CheckRecord := ⟨60, .http, .ofAddress (.v4 0x01010101#32), .success ⟨5, by decide⟩⟩
    let lost : CheckRecord := ⟨90, .http, .ofAddress (.v6 1), .failure .timeout⟩
    [lost, ping, page].Perm [ping, page, lost] ∧
      summarize [lost, ping, page] = summarize [ping, page, lost] ∧
      ∃ s : Category → Summary, summarize [ping, page, lost] = Category.all.map (fun c => (c, s c)) ∧
        (s general).total = 3 ∧ (s general).ok = 2 ∧ (s http).bad = 1 ∧
        (s general).meanLatency? = some (.finite (13 / 2)) := by
  intro ping page lost
  have perm : [lost, ping, page].Perm [ping, page, lost] := by decide
  obtain ⟨s, run, describes, -, -, order⟩ := summarize_consistent [ping, page, lost]
  have ok : (s general).ok = 2 := (describes general).ok
  obtain ⟨low, mean, high, -, found, -, measures⟩ := (describes general).measured (by omega)
  refine ⟨perm, order _ perm, s, run, (describes general).total, ok, (describes http).bad, ?_⟩
  rw [found, measures.rounded]
  decide +kernel

end LinkMonitor
