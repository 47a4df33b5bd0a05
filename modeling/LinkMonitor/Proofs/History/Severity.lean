import LinkMonitor.Proofs.History.Partition
import LinkMonitor.Proofs.Results
import Mathlib.Data.Finset.Card

/-!
# How severe an outage is

An outage is rated by the combinations that failed in it, out of all that are enabled: those configured
for the stack, and those of any analysed record. What failed in an outage was analysed, so there is
always a rating.
-/

namespace LinkMonitor

theorem Combination.distinct_length (cs : List Combination) :
    (distinct cs).length = cs.toFinset.card := by
  have single : (distinct cs).Nodup := by
    have all : Combination.all.Nodup := by decide
    exact all.filter _
  have same : (distinct cs).toFinset = cs.toFinset := by
    ext c
    simp [mem_distinct]
  rw [← List.toFinset_card_of_nodup single, same]

/-- Sorting does not touch the order of items that are all level with one another. -/
theorem filter_mergeSort_of_level {α : Type} {le : α → α → Bool} {keeps : α → Bool} {items : List α}
    (trans : ∀ a b c, le a b = true → le b c = true → le a c = true)
    (total : ∀ a b, (le a b || le b a) = true)
    (level : ∀ a b, keeps a = true → keeps b = true → le a b = true) :
    (items.mergeSort le).filter keeps = items.filter keeps := by
  have sorted : (items.filter keeps).Pairwise fun a b => le a b = true := by
    apply List.pairwise_of_forall_mem_list
    intro a ha b hb
    exact level a b (List.mem_filter.mp ha).2 (List.mem_filter.mp hb).2
  -- The items that are kept are in order already, so sorting has them as a sublist. Those that are kept
  -- of the sorted list are as many, so it has no others.
  have kept := List.sublist_mergeSort trans total sorted List.filter_sublist
  have again := kept.filter keeps
  simp only [List.filter_filter, Bool.and_self] at again
  refine (again.eq_of_length ?_).symm
  exact (((List.mergeSort_perm items _).filter _).length_eq).symm

namespace OutageQuery

/-! ### What is analysed -/

/-- Whether a stack is asked for. -/
def covers (q : OutageQuery) (stack : IpStack) : Bool := q.stack.all fun s => stack = s

/-- The records in the order of time; those of one time keep their order. -/
abbrev byTime (records : List CheckRecord) : List CheckRecord :=
  records.mergeSort fun a b => a.timestamp ≤ b.timestamp

/-- The latest records of the stack, in the order of time. Records of one time are in the order of the
history, and `older` has those that are cut off. -/
structure Selects (q : OutageQuery) (records older kept : List CheckRecord) : Prop where
  sorted : (older ++ kept).Pairwise fun r s => r.timestamp ≤ s.timestamp
  stable : ∀ time, (older ++ kept).filter (fun r => r.timestamp = time) =
    records.filter fun r => r.timestamp = time ∧ q.covers r.stack
  uncut : q.cutoff = none → older = []
  cut : ∀ n, q.cutoff = some n → kept.length = min n.toNat (older ++ kept).length

/-- Sorting by time does not touch the order of records of one time. -/
theorem filter_mergeSort (records : List CheckRecord) (time : Int) :
    (records.mergeSort fun a b => a.timestamp ≤ b.timestamp).filter (fun r => r.timestamp = time) =
      records.filter fun r => r.timestamp = time := by
  refine filter_mergeSort_of_level (by simp; omega) (by simp; omega) fun a b first second => ?_
  have first : a.timestamp = time := by simpa using first
  have second : b.timestamp = time := by simpa using second
  simp [first, second]

theorem latest_eq_drop (cutoff : Option Int) (records : List CheckRecord) :
    ∃ count, latest cutoff records = records.drop count ∧ (cutoff = none → count = 0) ∧
      ∀ n, cutoff = some n → (latest cutoff records).length = min n.toNat records.length := by
  cases cutoff with
  | none => exact ⟨0, by simp [latest]⟩
  | some n =>
    refine ⟨records.length - n.toNat, rfl, by simp, fun m same => ?_⟩
    obtain rfl : n = m := Option.some.inj same
    simp only [latest, List.length_drop]
    omega

theorem analysed_eq (q : OutageQuery) (records : List CheckRecord) :
    q.analysed records = latest q.cutoff ((byTime records).filter fun r => q.covers r.stack) := by
  cases asked : q.stack with
  | none => simp [analysed, covers, asked]
  | some stack => simp [analysed, covers, asked]

theorem selects_analysed (q : OutageQuery) (records : List CheckRecord) :
    ∃ older, q.Selects records older (q.analysed records) := by
  let covered := (byTime records).filter fun r => q.covers r.stack
  obtain ⟨count, last, uncut, cut⟩ := latest_eq_drop q.cutoff covered
  rw [← q.analysed_eq records] at last cut
  have whole : covered.take count ++ q.analysed records = covered := by
    rw [last, List.take_append_drop]
  refine ⟨covered.take count, ?_, ?_, ?_, ?_⟩
  · rw [whole]
    exact (mergeSort_sorted records).filter _
  · intro time
    rw [whole, List.filter_comm, filter_mergeSort, List.filter_filter]
    simp [Bool.and_comm]
  · intro none
    simp [uncut none]
  · intro n some
    rw [whole]
    exact cut n some

/-! ### What is enabled -/

/-- The configured combinations of the stack. -/
def configured (q : OutageQuery) : Finset Combination :=
  (q.enabled.filter fun c => q.covers c.stack).toFinset

/-- The combinations of some records. -/
def observed (records : List CheckRecord) : Finset Combination :=
  (records.map CheckRecord.combination).toFinset

theorem mem_observed {records : List CheckRecord} {c : Combination} :
    c ∈ observed records ↔ ∃ r ∈ records, r.combination = c := by
  simp [observed]

theorem observed_mono {some all : List CheckRecord} (h : some ⊆ all) :
    observed some ⊆ observed all := by
  intro c hc
  obtain ⟨r, hr, rfl⟩ := mem_observed.mp hc
  exact mem_observed.mpr ⟨r, h hr, rfl⟩

theorem enabledCombinations_length (q : OutageQuery) (records : List CheckRecord) :
    (q.enabledCombinations records).length =
      (q.configured ∪ observed (q.analysed records)).card := by
  rw [configured, observed, ← List.toFinset_append, ← Combination.distinct_length]
  cases asked : q.stack with
  | none => simp [enabledCombinations, covers, asked]
  | some stack => simp [enabledCombinations, covers, asked]

/-! ### The rating of a group -/

theorem severityOf_eq_ok {failed enabled : Nat} {s : Severity}
    (h : Outage.severityOf failed enabled = .ok s) : s.failed = failed ∧ s.enabled = enabled := by
  unfold Outage.severityOf Severity.make? at h
  split at h
  · next made =>
    split at made
    · cases made
      cases h
      simp
    · cases made
  · cases h

theorem rate_eq_ok {enabled : Nat} {group : List CheckRecord} {o : Outage}
    (h : rate enabled group = .ok o) :
    o.records = group ∧ o.severity.failed = (observed group).card ∧ o.severity.enabled = enabled := by
  obtain ⟨s, rated, made⟩ := ok_of_bind h
  obtain ⟨failed, all⟩ := severityOf_eq_ok rated
  unfold Outage.make at made
  split at made
  · cases made
  · split at made
    · cases made
      refine ⟨rfl, ?_, all⟩
      rw [failed, observed, Combination.distinct_length]
    · cases made

end OutageQuery

/-! ### The outages of a history -/

open OutageQuery

/-- The severity counts what failed in the outage, and everything that is enabled. -/
structure Outage.Rated (o : Outage) (all : Finset Combination) : Prop where
  failed : o.severity.failed = (observed o.records).card
  enabled : o.severity.enabled = all.card
  bounds : 1 ≤ o.severity.failed ∧ o.severity.failed ≤ o.severity.enabled
  complete : o.severity.isComplete = true ↔ ∀ c ∈ all, ∃ r ∈ o.records, r.combination = c

theorem Outage.rated_of_subset {o : Outage} {all : Finset Combination}
    (failed : o.severity.failed = (observed o.records).card)
    (enabled : o.severity.enabled = all.card) (inside : observed o.records ⊆ all) :
    o.Rated all := by
  refine ⟨failed, enabled, ⟨o.severity.failed_pos, o.severity.failed_le⟩, ?_⟩
  simp only [Severity.isComplete, decide_eq_true_eq, failed, enabled, ← mem_observed]
  constructor
  · intro same
    have equal : observed o.records = all := Finset.eq_of_subset_of_card_le inside same.ge
    intro c hc
    rwa [equal]
  · intro every
    exact Nat.le_antisymm (Finset.card_le_card inside) (Finset.card_le_card every)

/-- Groups of failures of the history are rated by all that is enabled. -/
theorem rated_of_mapM {q : OutageQuery} {records : List CheckRecord}
    {groups : List (List CheckRecord)} {found : List Outage}
    (inside : ∀ g ∈ groups, g ⊆ q.failures records)
    (h : groups.mapM (rate (q.enabledCombinations records).length) = .ok found) :
    ∀ o ∈ found, o.Rated (q.configured ∪ observed (q.analysed records)) := by
  intro o ho
  obtain ⟨group, member, rated⟩ := (mem_of_mapM_eq_ok h o).mp ho
  obtain ⟨rfl, failed, enabled⟩ := rate_eq_ok rated
  rw [enabledCombinations_length] at enabled
  apply Outage.rated_of_subset failed enabled
  have analysed : o.records ⊆ q.analysed records := by
    intro r hr
    exact (List.mem_filter.mp (inside _ member hr)).1
  exact (observed_mono analysed).trans Finset.subset_union_right

/-- A history whose gaps can be computed is analysed without fail. Every failure among the analysed
records, which are the latest ones of the stack, is in one outage, and all severities are exact. -/
theorem outages_rated {q : OutageQuery} {gap : Number} (records : List CheckRecord)
    (positive : q.period.le (.whole 0) = false) (cutoff : ∀ n, q.cutoff = some n → 0 ≤ n)
    (product : q.tolerance.mul q.period = .ok gap) :
    ∃ os, outages q records = .ok os ∧ (∃ older, q.Selects records older (q.analysed records)) ∧
      (os.flatMap Outage.records).Perm ((q.analysed records).filter fun r => !r.isSuccess) ∧
      ∀ o ∈ os, o.Rated (q.configured ∪ observed (q.analysed records)) := by
  have run : outages q records = _ := outages_eq positive cutoff product
  by_cases empty : q.failures records = []
  · rw [if_pos (by simp [empty])] at run
    refine ⟨[], run, q.selects_analysed records, ?_, by simp⟩
    rw [show (q.analysed records).filter (fun r => !r.isSuccess) = [] from empty]
    exact List.Perm.nil
  · rw [if_neg (by simpa using empty)] at run
    have sound := groups_sound q records gap
    obtain ⟨found, rated, groups⟩ := mapM_rate_ok sound
    rw [rated] at run
    refine ⟨Outage.rankByRecency found, run, q.selects_analysed records, ?_, ?_⟩
    · have ranked : (Outage.rankByRecency found).Perm found := List.mergeSort_perm found _
      have whole : found.flatMap Outage.records = q.failures records := by
        rw [List.flatMap_def, groups, List.flatten_splitBy]
      rw [show (q.analysed records).filter (fun r => !r.isSuccess) = _ from whole.symm]
      exact ranked.flatMap_right _
    · intro o ho
      exact rated_of_mapM (fun g hg => (sound g hg).2) rated o (List.mem_mergeSort.mp ho)

/-- On the first stack one success and two failures, on the other one a failure. -/
def mixedHistory : List CheckRecord :=
  let v4 : Target := .ofAddress (.v4 0x01010101#32)
  [⟨0, .icmp, v4, .failure .error⟩, ⟨60, .http, v4, .success ⟨5, by decide⟩⟩,
    ⟨120, .icmp, v4, .failure .timeout⟩, ⟨150, .http, .ofAddress (.v6 1), .failure .timeout⟩]

def latestTwo : OutageQuery :=
  { period := .whole 60
    enabled := [⟨.http, .v4⟩, ⟨.icmp, .v6⟩]
    stack := some .v4
    cutoff := some 2 }

theorem outages_rated_latestTwo :
    ∃ os, outages latestTwo mixedHistory = .ok os ∧ (os.flatMap Outage.records).length = 1 ∧
      ∀ o ∈ os, o.severity.enabled = 2 := by
  have kept : latestTwo.analysed mixedHistory =
      [⟨60, .http, .ofAddress (.v4 0x01010101#32), .success ⟨5, by decide⟩⟩,
        ⟨120, .icmp, .ofAddress (.v4 0x01010101#32), .failure .timeout⟩] := by
    rw [OutageQuery.analysed, List.mergeSort_of_pairwise (by decide)]
    rfl
  obtain ⟨os, run, -, whole, rated⟩ := @outages_rated latestTwo (.float (.finite 90)) mixedHistory
    (by decide) (by simp [latestTwo]) (by decide +kernel)
  rw [kept] at whole rated
  refine ⟨os, run, ?_, ?_⟩
  · rw [whole.length_eq]
    decide
  · intro o ho
    rw [(rated o ho).enabled]
    decide

end LinkMonitor
