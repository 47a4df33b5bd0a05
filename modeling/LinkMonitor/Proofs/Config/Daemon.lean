import LinkMonitor.Config.Settings
import LinkMonitor.Proofs.Results

/-!
# Checked configurations

A configuration is its own values, once they have passed all checks. Whatever is refused fails the check
that is complained about.
-/

namespace LinkMonitor

theorem Target.text_of_parse {text : String} {t : Target} (h : Target.parse text = .ok t) :
    t.text = text := by
  rw [Target.parse] at h
  split at h <;> cases h
  rfl

/-! ### Drafts that pass -/

/-- The checks of a configuration. Comparisons with no number at all fail, so that a time limit or a
tolerance of this kind passes. -/
structure ConfigDraft.Admissible (d : ConfigDraft) : Prop where
  enabled_ne_nil : d.enabled ≠ []
  enabled_nodup : d.enabled.Nodup
  period : 1 ≤ d.period
  timeout : d.timeout = .nan ∨ Binary64.lt (.finite 0) d.timeout = true
  saveEvery : 1 ≤ d.saveEvery
  tolerance : d.tolerance = .nan ∨ Binary64.le (.finite 1) d.tolerance = true
  targetV4 : ∃ t, Target.parse d.targetV4 = .ok t ∧ t.stack = .v4
  targetV6 : ∃ t, Target.parse d.targetV6 = .ok t ∧ t.stack = .v6

namespace Binary64

theorem le_zero_eq_false_iff {x : Binary64} :
    x.le (.finite 0) = false ↔ x = .nan ∨ lt (.finite 0) x = true := by
  cases x <;> simp [le, lt]

theorem lt_one_eq_false_iff {x : Binary64} :
    x.lt (.finite 1) = false ↔ x = .nan ∨ le (.finite 1) x = true := by
  cases x <;> simp [le, lt]

end Binary64

namespace DaemonConfig

/-- The values of a configuration. -/
def draft (config : DaemonConfig) : ConfigDraft where
  enabled := config.enabled
  storePath := config.storePath
  period := config.period
  timeout := config.timeout
  targetV4 := config.targetV4.text
  targetV6 := config.targetV6.text
  saveEvery := config.saveEvery
  tolerance := config.tolerance
  pidFile := config.pidFile
  daemonName := config.daemonName
  logLevel := config.logLevel

theorem targetOn_eq_ok_iff {stack : IpStack} {text : String} {t : { t : Target // t.stack = stack }} :
    targetOn stack text = .ok t ↔ Target.parse text = .ok t.val := by
  rw [targetOn]
  cases Target.parse text with
  | error e => simp
  | ok target =>
    obtain ⟨t, same⟩ := t
    by_cases on : target.stack = stack
    · simp [on]
    · have other : target ≠ t := fun equal => on (equal ▸ same)
      simp [on, other]

theorem error_of_targetOn {stack : IpStack} {text : String} {e : ConfigError}
    (h : targetOn stack text = .error e) :
    (∃ cause, e = .badTarget cause) ∨ e = .targetOnWrongStack stack text := by
  rw [targetOn] at h
  split at h
  · next cause _ => exact .inl ⟨cause, by cases h; rfl⟩
  · split at h
    · cases h
    · exact .inr (by cases h; rfl)

theorem admissible_draft (config : DaemonConfig) : config.draft.Admissible where
  enabled_ne_nil := config.enabled_ne_nil
  enabled_nodup := config.enabled_nodup
  period := config.period_pos
  timeout := Binary64.le_zero_eq_false_iff.mp config.timeout_pos
  saveEvery := config.saveEvery_pos
  tolerance := Binary64.lt_one_eq_false_iff.mp config.tolerance_ge
  targetV4 := ⟨config.targetV4, Target.parse_text _, config.targetV4_stack⟩
  targetV6 := ⟨config.targetV6, Target.parse_text _, config.targetV6_stack⟩

theorem draft_of_make {d : ConfigDraft} {config : DaemonConfig} (h : make d = .ok config) :
    config.draft = d := by
  unfold make at h
  repeat' split at h
  all_goals try contradiction
  obtain ⟨⟨targetV4, onV4⟩, first, h⟩ := ok_of_bind h
  obtain ⟨⟨targetV6, onV6⟩, second, h⟩ := ok_of_bind h
  cases h
  rw [draft, Target.text_of_parse (targetOn_eq_ok_iff.mp first),
    Target.text_of_parse (targetOn_eq_ok_iff.mp second)]

end DaemonConfig

/-- What a draft may be refused for. -/
inductive ConfigDraft.Refused (d : ConfigDraft) : ConfigError → Prop
  | nothing (h : d.enabled = []) : Refused d (.entry .nothingEnabled)
  | duplicates (h : ¬d.enabled.Nodup) : Refused d (.duplicates d.enabled)
  | period (h : d.period ≤ 0) : Refused d (.periodNotPositive d.period)
  | timeout (h : d.timeout.le (.finite 0) = true) : Refused d (.timeoutNotPositive d.timeout)
  | saveEvery (h : d.saveEvery < 1) : Refused d (.saveEveryTooSmall d.saveEvery)
  | tolerance (h : d.tolerance.lt (.finite 1) = true) : Refused d (.toleranceTooSmall d.tolerance)
  | targetV4 {e : ConfigError} (h : DaemonConfig.targetOn .v4 d.targetV4 = .error e) : Refused d e
  | targetV6 {e : ConfigError} (h : DaemonConfig.targetOn .v6 d.targetV6 = .error e) : Refused d e

namespace DaemonConfig

variable {d : ConfigDraft} {e : ConfigError}

theorem refused_of_make (h : make d = .error e) : d.Refused e := by
  unfold make at h
  split at h
  · next empty => cases h; exact .nothing empty
  split at h
  · next twice => cases h; exact .duplicates twice
  split at h
  · next low => cases h; exact .period low
  split at h
  · next low => cases h; exact .timeout low
  split at h
  · next low => cases h; exact .saveEvery low
  split at h
  · next low => cases h; exact .tolerance low
  rcases error_of_bind h with bad | ⟨targetV4, -, h⟩
  · exact .targetV4 bad
  · rcases error_of_bind h with bad | ⟨targetV6, -, h⟩
    · exact .targetV6 bad
    · cases h

theorem targetOn_ne_error {stack : IpStack} {text : String} {t : Target}
    (parsed : Target.parse text = .ok t) (on : t.stack = stack) : targetOn stack text ≠ .error e := by
  have found : targetOn stack text = .ok ⟨t, on⟩ := targetOn_eq_ok_iff.mpr parsed
  simp [found]

theorem not_refused (admissible : d.Admissible) : ¬d.Refused e := by
  intro refused
  cases refused with
  | nothing h => exact admissible.enabled_ne_nil h
  | duplicates h => exact h admissible.enabled_nodup
  | period h =>
    have := admissible.period
    omega
  | timeout h => simp [Binary64.le_zero_eq_false_iff.mpr admissible.timeout] at h
  | saveEvery h =>
    have := admissible.saveEvery
    omega
  | tolerance h => simp [Binary64.lt_one_eq_false_iff.mpr admissible.tolerance] at h
  | targetV4 h =>
    obtain ⟨t, parsed, on⟩ := admissible.targetV4
    exact targetOn_ne_error parsed on h
  | targetV6 h =>
    obtain ⟨t, parsed, on⟩ := admissible.targetV6
    exact targetOn_ne_error parsed on h

/-- There is a configuration of the values that pass. -/
theorem exists_make_iff : (∃ config, make d = .ok config) ↔ d.Admissible := by
  constructor
  · rintro ⟨config, h⟩
    rw [← draft_of_make h]
    exact config.admissible_draft
  · intro admissible
    cases h : make d with
    | ok config => exact ⟨config, rfl⟩
    | error e => exact absurd (refused_of_make h) (not_refused admissible)

theorem draft_injective {config config' : DaemonConfig} (same : config.draft = config'.draft) :
    config = config' := by
  cases config
  cases config'
  simp only [draft, ConfigDraft.mk.injEq] at same
  obtain ⟨rfl, rfl, rfl, rfl, textV4, textV6, rfl, rfl, rfl, rfl, rfl⟩ := same
  rw [mk.injEq]
  exact ⟨rfl, rfl, rfl, rfl, Target.ext textV4, Target.ext textV6, rfl, rfl, rfl, rfl, rfl⟩

/-- A configuration comes from its own values and from no others. -/
theorem make_eq_ok_iff {config : DaemonConfig} : make d = .ok config ↔ config.draft = d := by
  refine ⟨draft_of_make, ?_⟩
  rintro rfl
  obtain ⟨config', made⟩ := exists_make_iff.mpr config.admissible_draft
  rw [made, draft_injective (draft_of_make made)]

theorem make_ne_entry {cause : EntryError} (filled : d.enabled ≠ []) :
    make d ≠ .error (.entry cause) := by
  intro h
  cases refused_of_make h with
  | nothing empty => exact filled empty
  | targetV4 bad | targetV6 bad => rcases error_of_targetOn bad with ⟨_, same⟩ | same <;> cases same

theorem make_ne_duplicates {cs : List Combination} (nodup : d.enabled.Nodup) :
    make d ≠ .error (.duplicates cs) := by
  intro h
  cases refused_of_make h with
  | duplicates twice => exact twice nodup
  | targetV4 bad | targetV6 bad => rcases error_of_targetOn bad with ⟨_, same⟩ | same <;> cases same

end DaemonConfig
end LinkMonitor
