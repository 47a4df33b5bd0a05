import LinkMonitor.Proofs.History.InsertionOrder

/-!
# Outages and the tolerated gap

Failures that are close for a gap are close for any wider one. So the outages for the wider gap are those
for the narrower one, some of them put together.
-/

namespace LinkMonitor

/-! ### Wider gaps -/

namespace Number

/-- The exact value of a number that has one. -/
def value? : Number → Option Rat
  | whole n => some n
  | float x => x.value?

theorem whole_le_iff {d : Int} {x : Number} :
    (whole d).le x = true ↔ x = .float .infinity ∨ ∃ v, x.value? = some v ∧ d ≤ v := by
  cases x with
  | whole n => simp [le, value?]
  | float x => cases x <;> simp [le, value?, Binary64.value?, Binary64.le, Binary64.lt]

theorem eq_infinity_or_value_le {x y : Number} {v : Rat} (valued : x.value? = some v)
    (h : x.le y = true) : y = .float .infinity ∨ ∃ w, y.value? = some w ∧ v ≤ w := by
  cases x with
  | whole n =>
    cases valued
    exact whole_le_iff.mp h
  | float x =>
    have same : x.value? = some v := valued
    cases y with
    | whole n => cases x <;> simp_all [le, value?, Binary64.value?, Binary64.le, Binary64.lt]
    | float y => cases x <;> cases y <;> simp_all [le, value?, Binary64.value?, Binary64.le, Binary64.lt]

theorem eq_infinity_of_le {x : Number} (h : le (.float .infinity) x = true) : x = .float .infinity := by
  cases x with
  | whole n => simp [le, Binary64.le, Binary64.lt] at h
  | float x => cases x <;> simp [le, Binary64.le, Binary64.lt] at h ⊢

/-- A whole number within a gap is within any wider one. -/
theorem le_of_wider {d : Int} {gap wide : Number} (within : (whole d).le gap = true)
    (wider : gap.le wide = true) : (whole d).le wide = true := by
  rw [whole_le_iff] at within ⊢
  rcases within with rfl | ⟨v, valued, below⟩
  · exact .inl (eq_infinity_of_le wider)
  · rcases eq_infinity_or_value_le valued wider with rfl | ⟨w, valued', above⟩
    · exact .inl rfl
    · exact .inr ⟨w, valued', below.trans above⟩

end Number

/-! ### Runs of runs -/

section Runs

variable {α : Type} {close wide : α → α → Bool}

/-- Groups that are cut from one another are divided one by one. -/
theorem splitBy_flatten_of_cuts {groups : List (List α)} (filled : [] ∉ groups)
    (cuts : groups.IsChain fun a b => ∃ ha hb, close (a.getLast ha) (b.head hb) = false) :
    groups.flatten.splitBy close = groups.flatMap (List.splitBy close) := by
  induction groups with
  | nil => rfl
  | cons group rest ih =>
    rw [List.isChain_cons] at cuts
    rw [List.flatten_cons, List.flatMap_cons, ← ih (fun empty => filled (by simp [empty])) cuts.2]
    apply List.splitBy_append
    intro x atEnd y atStart
    cases rest with
    | nil => cases atStart
    | cons next rest =>
      obtain ⟨some, some', apart⟩ := cuts.1 next rfl
      rw [List.getLast?_eq_some_getLast some] at atEnd
      rw [List.flatten_cons, List.head?_append_of_ne_nil _ some', List.head?_eq_some_head some']
        at atStart
      cases atEnd
      cases atStart
      exact apart

/-- The runs of a narrower relation are those of the runs of a wider one. -/
theorem splitBy_of_wider (wider : ∀ a b, close a b = true → wide a b = true) (xs : List α) :
    xs.splitBy close = (xs.splitBy wide).flatMap (List.splitBy close) := by
  have cuts : (xs.splitBy wide).IsChain
      fun a b => ∃ ha hb, close (a.getLast ha) (b.head hb) = false := by
    refine (List.isChain_getLast_head_splitBy wide xs).imp ?_
    intro a b ⟨filled, filled', apart⟩
    refine ⟨filled, filled', Bool.eq_false_of_not_eq_true fun near => ?_⟩
    rw [wider _ _ near] at apart
    cases apart
  rw [← splitBy_flatten_of_cuts (List.nil_notMem_splitBy wide xs) cuts, List.flatten_splitBy]

end Runs

open OutageQuery

namespace Outage

/-! ### Outages put together -/

/-- Outages, the oldest first, and what they become for a wider gap: each of these has the failures of
one or more that follow one another. -/
inductive Merged : List Outage → List Outage → Prop
  | nil : Merged [] []
  | cons {parts os ps : List Outage} {p : Outage} (some : parts ≠ [])
      (records : p.records = parts.flatMap records)
      (failed : ∀ o ∈ parts, o.severity.failed ≤ p.severity.failed) (rest : Merged os ps) :
      Merged (parts ++ os) (p :: ps)

namespace Merged

variable {os ps : List Outage}

theorem length_le (merged : Merged os ps) : ps.length ≤ os.length := by
  induction merged with
  | nil => exact Nat.le_refl _
  | cons some _ _ _ ih =>
    have pos := List.length_pos_of_ne_nil some
    rw [List.length_append, List.length_cons]
    omega

theorem exists_infix (merged : Merged os ps) : ∀ o ∈ os, ∃ p ∈ ps, o.records <:+: p.records := by
  induction merged with
  | nil => simp
  | @cons parts os ps p _ records _ _ ih =>
    intro o member
    rcases List.mem_append.mp member with part | other
    · obtain ⟨before, after, rfl⟩ := List.append_of_mem part
      refine ⟨p, List.mem_cons_self, before.flatMap Outage.records, after.flatMap Outage.records, ?_⟩
      rw [records, List.flatMap_append, List.flatMap_cons, List.append_assoc]
    · obtain ⟨q, member', inside⟩ := ih o other
      exact ⟨q, List.mem_cons_of_mem p member', inside⟩

end Merged

theorem merged_of_runs {gap : Number} {os ps : List Outage} {all : Finset Combination}
    (rated : ∀ o ∈ os, o.Rated all) (rated' : ∀ p ∈ ps, p.Rated all)
    (runs : os.map Outage.records = ps.flatMap fun p => p.records.splitBy (isClose gap)) :
    Merged os ps := by
  induction ps generalizing os with
  | nil =>
    obtain rfl : os = [] := by simpa using runs
    exact .nil
  | cons p ps ih =>
    rw [List.flatMap_cons] at runs
    obtain ⟨parts, others, rfl, inside, later⟩ := List.map_eq_append_iff.mp runs
    have records : p.records = parts.flatMap Outage.records := by
      rw [List.flatMap_def, inside, List.flatten_splitBy]
    refine .cons ?_ records ?_ (ih ?_ ?_ later)
    · intro none
      rw [none] at records
      exact p.records_ne_nil records
    · intro o part
      have subset : o.records ⊆ p.records := by
        intro r member
        rw [records]
        exact List.mem_flatMap.mpr ⟨o, part, member⟩
      rw [(rated o (List.mem_append_left _ part)).failed, (rated' p List.mem_cons_self).failed]
      exact Finset.card_le_card (observed_mono subset)
    · exact fun o member => rated o (List.mem_append_right _ member)
    · exact fun q member => rated' q (List.mem_cons_of_mem _ member)

/-- No failure is in two outages. -/
theorem eq_of_common {gap : Number} (nonneg : Number.le (.whole 0) gap = true)
    {failures : List CheckRecord} {os : List Outage}
    (sorted : failures.Pairwise fun r s => r.timestamp ≤ s.timestamp)
    (groups : os.map Outage.records = failures.splitBy (isClose gap)) {o p : Outage} (ho : o ∈ os)
    (hp : p ∈ os) {r : CheckRecord} (inside : r ∈ o.records) (inside' : r ∈ p.records) : o = p := by
  obtain ⟨span, apart⟩ := spans_apart nonneg sorted groups
  have disjoint : os.Pairwise fun a b => a.records.Disjoint b.records := by
    refine apart.imp_of_mem ?_
    intro a b ha hb before r here there
    have early := (span a ha r here).2
    have late := (span b hb r there).1
    omega
  have symmetric : Std.Symm fun a b : Outage => a.records.Disjoint b.records :=
    ⟨fun a b apart => apart.symm⟩
  by_contra other
  exact disjoint.forall ho hp other inside inside'

end Outage

namespace OutageQuery

/-- The same query with another tolerance. -/
def tolerating (q : OutageQuery) (tolerance : Number) : OutageQuery := { q with tolerance }

end OutageQuery

/-- With a wider gap outages are only put together: each of them has the failures of one or more outages
that follow one another for the narrower gap, and no other one has any of these. So there are not more of
them, and each is at least as severe as its parts, out of the same that is enabled. -/
theorem outages_of_tolerance (q : OutageQuery) {tolerance gap wide : Number}
    (records : List CheckRecord) (product : q.tolerance.mul q.period = .ok gap)
    (product' : tolerance.mul q.period = .ok wide) (nonneg : Number.le (.whole 0) gap = true)
    (wider : gap.le wide = true) :
    match q.rejection? with
    | some e => outages q records = .error e ∧ outages (q.tolerating tolerance) records = .error e
    | none => ∃ os ps enabled, outages q records = .ok os ∧
      outages (q.tolerating tolerance) records = .ok ps ∧
      Outage.Merged os.reverse ps.reverse ∧
      (∀ o ∈ os, ∃ p ∈ ps, o.records <:+: p.records ∧
        ∀ p' ∈ ps, (∃ r ∈ o.records, r ∈ p'.records) → p' = p) ∧
      ps.length ≤ os.length ∧
      ∀ o ∈ os ++ ps, o.severity.enabled = enabled := by
  cases rejected : q.rejection? with
  | some e =>
    have rejected' : (q.tolerating tolerance).rejection? = some e := rejected
    exact ⟨outages_of_rejection rejected, outages_of_rejection rejected'⟩
  | none =>
    obtain ⟨positive, cutoff⟩ := of_rejection?_eq_none rejected
    obtain ⟨os, run, runs, rated⟩ := outages_found records positive cutoff product nonneg
    have nonneg' : Number.le (.whole 0) wide = true := Number.le_of_wider nonneg wider
    obtain ⟨ps, run', runs', rated'⟩ :=
      @outages_found (q.tolerating tolerance) wide records positive cutoff product' nonneg'
    have finer : os.map Outage.records = ps.flatMap fun p => p.records.splitBy (isClose gap) := by
      have close : ∀ r s, isClose gap r s = true → isClose wide r s = true := by
        intro r s near
        exact Number.le_of_wider near wider
      have groups : (q.failures records).splitBy (isClose wide) = ps.map Outage.records := runs'.symm
      rw [runs, splitBy_of_wider close, groups, List.flatMap_map]
    have merged : Outage.Merged os ps := Outage.merged_of_runs rated rated' finer
    let all := q.configured ∪ observed (q.analysed records)
    refine ⟨os.reverse, ps.reverse, all.card, run, run', ?_, ?_, ?_, ?_⟩
    · rwa [List.reverse_reverse, List.reverse_reverse]
    · intro o member
      obtain ⟨p, among, inside⟩ := merged.exists_infix o (List.mem_reverse.mp member)
      refine ⟨p, List.mem_reverse.mpr among, inside, ?_⟩
      rintro p' among' ⟨r, here, there⟩
      exact Outage.eq_of_common nonneg' ((q.tolerating tolerance).failures_sorted records) runs'
        (List.mem_reverse.mp among') among there (inside.subset here)
    · rw [List.length_reverse, List.length_reverse]
      exact merged.length_le
    · intro o member
      rcases List.mem_append.mp member with narrow | broad
      · exact (rated o (List.mem_reverse.mp narrow)).enabled
      · exact (rated' o (List.mem_reverse.mp broad)).enabled

/-- Four outages, two of which are put together if three periods are tolerated and not two. -/
theorem outages_of_tolerance_joined :
    let q : OutageQuery := { period := .whole 60, tolerance := .whole 2 }
    let records := failuresAt [60, 2000, 1000, 1060, 1200]
    ∃ os ps, outages q records = .ok os ∧ outages (q.tolerating (.whole 3)) records = .ok ps ∧
      Outage.Merged os.reverse ps.reverse ∧ os.length = 4 ∧ ps.length = 3 := by
  intro q records
  have sorted (tolerance : Number) : (q.tolerating tolerance).failures records =
      failuresAt [60, 1000, 1060, 1200, 2000] := by
    simp [q, records, tolerating, failures_failuresAt, List.mergeSort]
  obtain ⟨os, ps, -, run, run', merged, -⟩ :=
    @outages_of_tolerance q (.whole 3) (.whole 120) (.whole 180) records rfl rfl rfl rfl
  refine ⟨os, ps, run, run', merged, ?_, ?_⟩
  · have narrow : outages (q.tolerating (.whole 2)) records = .ok os := run
    rw [length_of_outages rfl rfl narrow, sorted]
    decide +kernel
  · rw [length_of_outages rfl rfl run', sorted]
    decide +kernel

end LinkMonitor
