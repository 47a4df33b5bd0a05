import LinkMonitor.Proofs.Config.EnabledChecks
import LinkMonitor.Proofs.History.Tolerance
import LinkMonitor.Proofs.Numeric.Rounding

/-!
# Failures within a period

With the tolerance of a configuration, failures that follow one another within its period belong to one
outage. A tolerance that is no number is accepted as well, and then no two failures belong together.
-/

namespace LinkMonitor

/-! ### Close elements stay together -/

section Runs

variable {α : Type} {close : α → α → Bool}

theorem apart_of_cut {group front back : List α} {rest : List (List α)} {x y : α}
    (cut : ∀ next ∈ rest.head?, ∃ ha hb, close (group.getLast ha) (next.head hb) = false)
    (atEnd : front ++ [x] <:+ group) (atStart : y :: back <+: rest.flatten) : close x y = false := by
  cases rest with
  | nil => simp at atStart
  | cons next rest =>
    obtain ⟨_, filled, apart⟩ := cut next rfl
    obtain ⟨before, rfl⟩ := atEnd
    obtain ⟨z, tail, rfl⟩ := List.exists_cons_of_ne_nil filled
    rw [List.flatten_cons, List.cons_append, List.cons_prefix_cons] at atStart
    simpa [atStart.1] using apart

theorem exists_mem_of_infix_flatten {groups : List (List α)}
    (cuts : groups.IsChain fun a b => ∃ ha hb, close (a.getLast ha) (b.head hb) = false)
    {run : List α} (some : run ≠ []) (inside : run <:+: groups.flatten)
    (chain : run.IsChain fun x y => close x y = true) : ∃ group ∈ groups, run <:+: group := by
  induction groups with
  | nil => exact absurd (List.infix_nil.mp inside) some
  | cons group rest ih =>
    rw [List.isChain_cons] at cuts
    have further (later : run <:+: rest.flatten) : ∃ other ∈ group :: rest, run <:+: other := by
      obtain ⟨other, member, inner⟩ := ih cuts.2 later
      exact ⟨other, List.mem_cons_of_mem group member, inner⟩
    rw [List.flatten_cons, List.infix_append_iff] at inside
    rcases inside with first | later | ⟨front, back, rfl, atEnd, atStart⟩
    · exact ⟨group, List.mem_cons_self, first⟩
    · exact further later
    · cases back with
      | nil => exact ⟨group, List.mem_cons_self, by simpa using atEnd.isInfix⟩
      | cons y back =>
        rcases List.eq_nil_or_concat front with rfl | ⟨front, x, rfl⟩
        · exact further atStart.isInfix
        · -- A run across a cut would have two neighbours there that are close.
          rw [List.concat_eq_append] at atEnd chain
          have together := (List.isChain_append.mp chain).2.2 x (by simp) y rfl
          rw [apart_of_cut cuts.1 atEnd atStart] at together
          cases together

theorem exists_mem_splitBy_of_infix {xs run : List α} (some : run ≠ []) (inside : run <:+: xs)
    (chain : run.IsChain fun x y => close x y = true) : ∃ group ∈ xs.splitBy close, run <:+: group := by
  refine exists_mem_of_infix_flatten (List.isChain_getLast_head_splitBy close xs) some ?_ chain
  rwa [List.flatten_splitBy]

end Runs

/-! ### Gaps of at least a period -/

theorem Binary64.nan_mul (x : Binary64) : mul .nan x = .nan := by
  cases x <;> simp [mul, value?]

namespace Number

variable {n : Int}

theorem mul_whole_of_small (x : Binary64) (small : n.natAbs ≤ 2 ^ 53) :
    mul (.float x) (.whole n) = .ok (.float (x.mul (.finite n))) := by
  have converted : toDouble (.whole n) = .ok (.finite n) := by
    delta toDouble
    dsimp only
    rw [Binary64.ofInt?_of_small small]
  change (do return float (x.mul (← toDouble (.whole n)))) = _
  rw [converted]
  rfl

/-- A product with a tolerance of one or more is not below the period. -/
theorem le_mul_of_one_le {x : Binary64} (wide : Binary64.le (.finite 1) x = true) (pos : 0 < n)
    (small : n.natAbs ≤ 2 ^ 53) : Number.le (.whole n) (.float (x.mul (.finite n))) = true := by
  have positive : (0 : Rat) < n := by exact_mod_cast pos
  rw [whole_le_iff]
  cases x with
  | nan | negInfinity | negZero => simp [Binary64.le, Binary64.lt] at wide
  | infinity =>
    left
    simp [Binary64.mul, Binary64.value?, Binary64.isNegative, positive.ne', pos.le,
      Binary64.signedInfinity]
  | finite v =>
    have one : 1 ≤ v := by simpa [Binary64.le, Binary64.lt] using wide
    have product : (n : Rat) ≤ v * n := by nlinarith
    have nonzero : v * n ≠ 0 := by linarith
    have rounded : (Binary64.finite v).mul (.finite n) = Binary64.ofRat (v * n) := by
      simp only [Binary64.mul, Binary64.value?, if_neg nonzero]
    rw [rounded]
    rcases Binary64.ofRat_of_ge small pos product with same | ⟨w, same, above⟩
    · exact .inl (by rw [same])
    · exact .inr ⟨w, by rw [same]; rfl, above⟩

theorem le_nan (x : Number) : Number.le x (.float .nan) = false := by
  cases x with
  | whole m => rfl
  | float x => cases x <;> rfl

end Number

/-! ### Outages of a configuration -/

open OutageQuery

/-- Each run of the failures is an outage, and no other is. -/
theorem outages_records {q : OutageQuery} {gap : Number} (records : List CheckRecord)
    (positive : q.period.le (.whole 0) = false) (cutoff : ∀ n, q.cutoff = some n → 0 ≤ n)
    (product : q.tolerance.mul q.period = .ok gap) :
    ∃ os, outages q records = .ok os ∧
      ∀ group, group ∈ (q.failures records).splitBy (isClose gap) ↔ ∃ o ∈ os, o.records = group := by
  obtain ⟨found, run, groups⟩ := outages_of_groups positive cutoff product
  refine ⟨_, run, fun group => ?_⟩
  rw [← groups, List.mem_map]
  simp only [Outage.rankByRecency, Outage.rankBy, List.mem_mergeSort]

/-- What the outages of a configuration are asked for with: its period and its tolerance. -/
structure OutageQuery.IsOf (q : OutageQuery) (config : DaemonConfig) : Prop where
  period : q.period = .whole config.period
  tolerance : q.tolerance = .float config.tolerance
  cutoff (n : Int) (given : q.cutoff = some n) : 0 ≤ n

section Configuration

variable {config : DaemonConfig} {q : OutageQuery} (asked : q.IsOf config)
  (small : config.period < 2 ^ 53) (records : List CheckRecord)
include asked small

theorem outages_of_config : ∃ os, outages q records = .ok os ∧
    ∀ group, (∃ o ∈ os, o.records = group) ↔ group ∈ (q.failures records).splitBy
      (isClose (.float (config.tolerance.mul (.finite config.period)))) := by
  have pos := config.period_pos
  have positive : q.period.le (.whole 0) = false := by simp [asked.period, Number.le, pos]
  have product : q.tolerance.mul q.period =
      .ok (.float (config.tolerance.mul (.finite config.period))) := by
    rw [asked.period, asked.tolerance]
    exact Number.mul_whole_of_small _ (by omega)
  obtain ⟨os, run, groups⟩ := outages_records records positive asked.cutoff product
  exact ⟨os, run, fun group => (groups group).symm⟩

theorem exists_outage_of_run (wide : Binary64.le (.finite 1) config.tolerance = true)
    {run : List CheckRecord} (some : run ≠ []) (inside : run <:+: q.failures records)
    (chain : run.IsChain fun r s => s.timestamp - r.timestamp ≤ config.period) :
    ∃ os, outages q records = .ok os ∧ ∃ o ∈ os, run <:+: o.records := by
  obtain ⟨os, analysed, groups⟩ := outages_of_config asked small records
  have pos := config.period_pos
  have gap := Number.le_mul_of_one_le wide pos (by omega)
  have close : run.IsChain fun r s =>
      isClose (.float (config.tolerance.mul (.finite config.period))) r s = true := by
    refine chain.imp fun r s near => ?_
    have within : Number.le (.whole (s.timestamp - r.timestamp)) (.whole config.period) = true := by
      simpa [Number.le] using near
    exact Number.le_of_wider within gap
  obtain ⟨group, member, inner⟩ := exists_mem_splitBy_of_infix some inside close
  obtain ⟨o, among, rfl⟩ := (groups group).mpr member
  exact ⟨os, analysed, o, among, inner⟩

theorem total_of_nan (none : config.tolerance = .nan) :
    ∃ os, outages q records = .ok os ∧ ∀ o ∈ os, o.total = 1 := by
  obtain ⟨os, analysed, groups⟩ := outages_of_config asked small records
  refine ⟨os, analysed, fun o member => ?_⟩
  have chain := List.isChain_of_mem_splitBy ((groups o.records).mp ⟨o, member, rfl⟩)
  rw [none, Binary64.nan_mul] at chain
  rw [Outage.total, List.length_eq_one_iff]
  match found : o.records with
  | [] => exact absurd found o.records_ne_nil
  | [r] => exact ⟨r, rfl⟩
  | r :: s :: rest =>
    rw [found, List.isChain_cons_cons, isClose, Number.le_nan] at chain
    exact absurd chain.1 Bool.false_ne_true

end Configuration

/-! ### Usable configurations -/

namespace DaemonConfig

/-- Whatever passes as a time limit or a tolerance can be set. -/
theorem exists_config_of_numbers (timeout tolerance : Binary64)
    (limited : timeout = .nan ∨ Binary64.lt (.finite 0) timeout = true)
    (wide : tolerance = .nan ∨ Binary64.le (.finite 1) tolerance = true) :
    ∃ config, Settings.config { timeout, tolerance } = .ok config ∧ config.period = 60 ∧
      config.timeout = timeout ∧ config.tolerance = tolerance := by
  let s : Settings := { timeout, tolerance }
  let d : ConfigDraft := {
    enabled := Combination.all
    storePath := Path.ofString s.storePath
    timeout
    tolerance
    pidFile := some (Path.ofString s.pidFile) }
  have some : Combination.all ≠ [] := by decide
  have nodup : Combination.all.Nodup := by decide
  have listed : s.enabledChecks = EnabledChecks.text Combination.all := rfl
  have enabled : EnabledChecks.parse s.enabledChecks = .ok Combination.all := by
    rw [listed, EnabledChecks.parse_text some nodup]
  have v4 : ∃ t, Target.parse (defaultTargetText .v4) = .ok t ∧ t.stack = .v4 := ⟨_, rfl, rfl⟩
  have v6 : ∃ t, Target.parse (defaultTargetText .v6) = .ok t ∧ t.stack = .v6 := ⟨_, rfl, rfl⟩
  have admissible : d.Admissible :=
    ⟨some, nodup, (by decide : (1 : Int) ≤ 60), limited, (by decide : (1 : Int) ≤ 1), wide, v4, v6⟩
  obtain ⟨config, made⟩ := exists_make_iff.mpr admissible
  have same := draft_of_make made
  refine ⟨config, ?_, congrArg ConfigDraft.period same, congrArg ConfigDraft.timeout same,
    congrArg ConfigDraft.tolerance same⟩
  rw [← made]
  change s.config = _
  rw [Settings.config, enabled]
  rfl

/-- What a configuration is relied upon for. -/
structure Usable (config : DaemonConfig) : Prop where
  enabled_ne_nil : config.enabled ≠ []
  enabled_nodup : config.enabled.Nodup
  period : 1 ≤ config.period
  saveEvery : 1 ≤ config.saveEvery
  timeout : Binary64.lt (.finite 0) config.timeout = true
  tolerance : Binary64.le (.finite 1) config.tolerance = true
  target (c : Combination) : (config.targetFor c).stack = c.stack
  /-- Failures that follow one another within a period are in one outage. -/
  together {q : OutageQuery} (asked : q.IsOf config) (small : config.period < 2 ^ 53)
    (records : List CheckRecord) {run : List CheckRecord} (some : run ≠ [])
    (inside : run <:+: q.failures records)
    (chain : run.IsChain fun r s => s.timestamp - r.timestamp ≤ config.period) :
    ∃ os, outages q records = .ok os ∧ ∃ o ∈ os, run <:+: o.records

theorem usable_iff (config : DaemonConfig) :
    config.Usable ↔ config.timeout ≠ .nan ∧ config.tolerance ≠ .nan := by
  constructor
  · intro usable
    have timeout := usable.timeout
    have tolerance := usable.tolerance
    constructor
    · intro none
      rw [none] at timeout
      cases timeout
    · intro none
      rw [none] at tolerance
      cases tolerance
  · rintro ⟨limited, known⟩
    have passed := config.admissible_draft
    have wide : Binary64.le (.finite 1) config.tolerance = true := passed.tolerance.resolve_left known
    exact {
      enabled_ne_nil := passed.enabled_ne_nil
      enabled_nodup := passed.enabled_nodup
      period := passed.period
      saveEvery := passed.saveEvery
      timeout := passed.timeout.resolve_left limited
      tolerance := wide
      target := config.targetFor_stack
      together := fun asked small records _ some inside chain =>
        exists_outage_of_run asked small records wide some inside chain }

/-- Values that pass the checks make a configuration, the only one of these values, and one for any other
store. It is usable unless its time limit or its tolerance is no number, which the checks let through. With
such a tolerance each failure is an outage of its own. -/
theorem usable_iff_numbers (d : ConfigDraft) :
    ((∃ config, make d = .ok config) ↔ d.Admissible) ∧
    (∀ config, make d = .ok config ↔ config.draft = d) ∧
    ∀ config, make d = .ok config →
      (∀ path, make { d with storePath := path } = .ok (config.withStore path)) ∧
      (config.Usable ↔ d.timeout ≠ .nan ∧ d.tolerance ≠ .nan) ∧
      (d.tolerance = .nan → ∀ (q : OutageQuery) (records : List CheckRecord), q.IsOf config →
        config.period < 2 ^ 53 → ∃ os, outages q records = .ok os ∧ ∀ o ∈ os, o.total = 1) := by
  refine ⟨exists_make_iff, fun config => make_eq_ok_iff, fun config made => ?_⟩
  obtain rfl := draft_of_make made
  exact ⟨fun path => make_eq_ok_iff.mpr rfl, config.usable_iff,
    fun none q records asked small => total_of_nan asked small records none⟩

/-- The failures of three periods in a row, with the settings that are the default. -/
theorem usable_iff_numbers_default :
    ∃ config os, Settings.config {} = .ok config ∧
      outages { period := .whole config.period, tolerance := .float config.tolerance }
        (failuresAt [180, 60, 120]) = .ok os ∧
      ∃ o ∈ os, failuresAt [60, 120, 180] <:+: o.records := by
  obtain ⟨config, described, period, timeout, tolerance⟩ :=
    exists_config_of_numbers (.finite 10) (.finite (3 / 2)) (.inr (by decide +kernel))
      (.inr (by decide +kernel))
  let q : OutageQuery := { period := .whole config.period, tolerance := .float config.tolerance }
  obtain ⟨-, made, constructed⟩ := usable_iff_numbers config.draft
  obtain ⟨-, usable, -⟩ := constructed config ((made config).mpr rfl)
  have limited : config.draft.timeout ≠ .nan := by
    change config.timeout ≠ .nan
    rw [timeout]
    decide
  have known : config.draft.tolerance ≠ .nan := by
    change config.tolerance ≠ .nan
    rw [tolerance]
    decide
  have reliable : config.Usable := usable.mpr ⟨limited, known⟩
  have asked : q.IsOf config := ⟨rfl, rfl, nofun⟩
  have sorted : q.failures (failuresAt [180, 60, 120]) = failuresAt [60, 120, 180] := by
    simp [q, failures_failuresAt, List.mergeSort]
  have chain : (failuresAt [60, 120, 180]).IsChain
      fun r s => s.timestamp - r.timestamp ≤ config.period := by
    simp [failuresAt, period]
  have some : failuresAt [60, 120, 180] ≠ [] := by simp [failuresAt]
  have inside : failuresAt [60, 120, 180] <:+: q.failures (failuresAt [180, 60, 120]) := by
    rw [sorted]
  obtain ⟨os, analysed, together⟩ := reliable.together asked (by rw [period]; decide) _ some inside chain
  exact ⟨config, os, described, analysed, together⟩

/-- Settings without numbers: two failures with a period between them are two outages. -/
theorem not_usable_without_numbers :
    ∃ config os, Settings.config { timeout := .nan, tolerance := .nan } = .ok config ∧
      ¬config.Usable ∧ Binary64.lt (.finite 0) config.timeout = false ∧
      Binary64.le (.finite 1) config.tolerance = false ∧
      outages { period := .whole config.period, tolerance := .float config.tolerance }
        (failuresAt [60, 120]) = .ok os ∧
      (failuresAt [60, 120]).IsChain (fun r s => s.timestamp - r.timestamp ≤ config.period) ∧
      ¬∃ o ∈ os, failuresAt [60, 120] <:+: o.records := by
  obtain ⟨config, described, period, timeout, tolerance⟩ :=
    exists_config_of_numbers .nan .nan (.inl rfl) (.inl rfl)
  let q : OutageQuery := { period := .whole config.period, tolerance := .float config.tolerance }
  have asked : q.IsOf config := ⟨rfl, rfl, nofun⟩
  obtain ⟨os, analysed, single⟩ :=
    total_of_nan asked (by rw [period]; decide) (failuresAt [60, 120]) tolerance
  have unlimited : Binary64.lt (.finite 0) config.timeout = false := by rw [timeout]; rfl
  have unknown : Binary64.le (.finite 1) config.tolerance = false := by rw [tolerance]; rfl
  refine ⟨config, os, described, fun usable => ?_, unlimited, unknown, analysed,
    by simp [failuresAt, period], ?_⟩
  · rw [usable.timeout] at unlimited
    cases unlimited
  · rintro ⟨o, member, inside⟩
    have short : 2 ≤ o.records.length := inside.length_le
    have one : o.records.length = 1 := single o member
    omega

end DaemonConfig

end LinkMonitor
