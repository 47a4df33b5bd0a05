import LinkMonitor.Proofs.Daemon.Attention
import LinkMonitor.Proofs.Daemon.Ledger

/-!
# How often the store is saved

A cycle saves the store if the last save has failed or if the count of the cycles asks for it. So after
each cycle either the last save that was tried has failed, or no more batches are unsaved than there are
cycles between two saves.
-/

namespace LinkMonitor

def LoopEvent.save? : LoopEvent → Option (Except StoreError (List CheckRecord))
  | save _ outcome => some outcome
  | _ => none

theorem LoopEvent.save?_of_isQuiet {e : LoopEvent} (quiet : e.isQuiet = true) : e.save? = none := by
  cases e <;> first | rfl | cases quiet

namespace Ledger

theorem next_batches (g : Ledger) {e : LoopEvent} (noBatch : e.batch? = none)
    (noSave : e.save? = none) : (g.next e).batches = g.batches := by
  cases e with
  | opened outcome => cases outcome <;> rfl
  | reload outcome => cases outcome <;> rfl
  | batch records => cases noBatch
  | save isLast outcome => cases noSave
  | _ => rfl

theorem foldl_next_batches (g : Ledger) {es : List LoopEvent}
    (others : ∀ e ∈ es, e.batch? = none ∧ e.save? = none) :
    (es.foldl next g).batches = g.batches := by
  refine List.foldlRecOn es next (motive := fun later => later.batches = g.batches) rfl
    fun later same e member => ?_
  obtain ⟨noBatch, noSave⟩ := others e member
  rw [next_batches later noBatch noSave, same]

end Ledger

/-- What counts for the saves of a loop. -/
structure Tally where
  cycles : Nat
  /-- All batches, the first one first. -/
  batches : List (List CheckRecord)
  /-- Those since the last save that worked. -/
  unsavedBatches : List (List CheckRecord)
  unsaved : List CheckRecord
  retrySave : Bool
  /-- What came of the saves that were tried, the first one first. -/
  saves : List (Except StoreError (List CheckRecord))

namespace Tally

variable {saveEvery : Int} {t t' : Tally} {batch : List CheckRecord}

/-- A cycle has brought a batch. -/
def cycle (batch : List CheckRecord) (t : Tally) : Tally :=
  { t with
    cycles := t.cycles + 1
    batches := t.batches ++ [batch]
    unsavedBatches := t.unsavedBatches ++ [batch]
    unsaved := t.unsaved ++ batch }

/-- A save has worked. -/
def saved (records : List CheckRecord) (t : Tally) : Tally :=
  { t with
    unsavedBatches := []
    unsaved := []
    retrySave := false
    saves := t.saves ++ [.ok records] }

/-- A save has failed. -/
def failed (e : StoreError) (retrySave : Bool) (t : Tally) : Tally :=
  { t with retrySave, saves := t.saves ++ [.error e] }

/-- A save is due after the next cycle. -/
def SaveDue (saveEvery : Int) (t : Tally) : Prop :=
  t.retrySave = true ∨ saveEvery ∣ t.cycles + 1

/-- What follows the batch of a cycle: the store that has it is saved exactly if a save is due. -/
inductive Ends (due : Prop) (store : Option Store) (t : Tally) : Except LoopError Unit → Tally → Prop
  | notDue (early : ¬due) : Ends due store t (.ok ()) t
  | saved {s : Store} {k k' : Host} (now : due) (ran : (store.getD {}).save.run k = (.ok s, k')) :
      Ends due store t (.ok ()) (t.saved s.records)
  | failed {e : StoreError} {k k' : Host} (now : due)
      (ran : (store.getD {}).save.run k = (.error e, k')) (transient : e.isTransient = true) :
      Ends due store t (.ok ()) (t.failed e true)
  /-- The run ends at a failure that will not pass. -/
  | ended {e : StoreError} {k k' : Host} (now : due)
      (ran : (store.getD {}).save.run k = (.error e, k')) (fatal : e.isTransient = false) :
      Ends due store t (.error (.store e)) (t.failed e t.retrySave)

/-- The flag is set exactly if the last save that was tried has failed. The unsaved records are those of
the batches since the last save that worked. While the flag is not set these are no more than the cycles
since the count was last a multiple. -/
structure Kept (saveEvery : Int) (t : Tally) : Prop where
  cycles : t.cycles = t.batches.length
  suffix : t.unsavedBatches <:+ t.batches
  unsaved : t.unsaved = t.unsavedBatches.flatten
  retry : t.retrySave = true ↔ ∃ e, t.saves.getLast? = some (.error e)
  few : t.retrySave = false → (t.unsavedBatches.length : Int) ≤ t.cycles % saveEvery

/-- Without a failure there is a bound on what is unsaved. -/
theorem Kept.secured (kept : Kept saveEvery t) (pos : 1 ≤ saveEvery) :
    (t.retrySave = true ∧ ∃ e, t.saves.getLast? = some (.error e)) ∨
    t.unsaved = t.unsavedBatches.flatten ∧ (t.unsavedBatches.length : Int) ≤ saveEvery - 1 ∧
      (saveEvery ∣ t.cycles → t.unsavedBatches = []) := by
  cases flag : t.retrySave with
  | true => exact .inl ⟨rfl, kept.retry.mp flag⟩
  | false =>
    have few := kept.few flag
    have less := Int.emod_lt_of_pos t.cycles (show 0 < saveEvery by omega)
    refine .inr ⟨kept.unsaved, by omega, fun multiple => ?_⟩
    rw [Int.emod_eq_zero_of_dvd multiple] at few
    exact List.length_eq_zero_iff.mp (by omega)

/-- A flag that is set is cleared by a save that works, which leaves nothing unsaved. -/
theorem Ends.cleared {store : Option Store} {r : Except LoopError Unit}
    (ends : Ends (t.SaveDue saveEvery) store (t.cycle batch) r t') (flag : t.retrySave = true)
    (cleared : t'.retrySave = false) : t'.unsaved = [] := by
  cases ends with
  | notDue early => exact absurd (.inl flag) early
  | saved now ran => rfl
  | failed now ran transient => cases cleared
  | ended now ran fatal => exact absurd (flag.symm.trans cleared) nofun

theorem emod_add_one {n : Int} (pos : 0 < n) (c : Int) (rest : ¬n ∣ c + 1) :
    (c + 1) % n = c % n + 1 := by
  have nonneg := Int.emod_nonneg c pos.ne'
  have less := Int.emod_lt_of_pos c pos
  have short : c % n + 1 < n := by
    refine lt_of_le_of_ne less fun full => rest ?_
    rw [Int.dvd_iff_emod_eq_zero, ← Int.emod_add_emod, full, Int.emod_self]
  rw [← Int.emod_add_emod, Int.emod_eq_of_lt (by omega) short]

variable (kept : Kept saveEvery t)
include kept

/-- The count of a cycle goes up with the unsaved batches, unless the cycle makes it full. -/
theorem Kept.cycle (pos : 1 ≤ saveEvery) (early : ¬t.SaveDue saveEvery) :
    Kept saveEvery (t.cycle batch) := by
  obtain ⟨cycles, suffix, unsaved, retry, few⟩ := kept
  rw [SaveDue, not_or] at early
  refine ⟨?_, ?_, ?_, retry, fun flag => ?_⟩
  · simp [Tally.cycle, cycles]
  · exact List.suffix_append_self_iff.mpr suffix
  · simp [Tally.cycle, unsaved]
  · have before := few flag
    have next := emod_add_one (by omega) t.cycles early.2
    simp only [Tally.cycle, List.length_append, List.length_singleton, Nat.cast_add, Nat.cast_one]
    omega

theorem Kept.saved (pos : 1 ≤ saveEvery) (records : List CheckRecord) :
    Kept saveEvery ((t.cycle batch).saved records) := by
  refine ⟨?_, List.nil_suffix, rfl, ?_, fun _ => ?_⟩
  · simp [Tally.cycle, Tally.saved, kept.cycles]
  · simp [Tally.saved]
  · exact Int.emod_nonneg _ (by omega)

theorem Kept.failed (e : StoreError) : Kept saveEvery ((t.cycle batch).failed e true) := by
  refine ⟨?_, ?_, ?_, ?_, nofun⟩
  · simp [Tally.cycle, Tally.failed, kept.cycles]
  · exact List.suffix_append_self_iff.mpr kept.suffix
  · simp [Tally.cycle, Tally.failed, kept.unsaved]
  · simp [Tally.failed]

theorem Kept.ends {store : Option Store} {r : Except LoopError Unit} (pos : 1 ≤ saveEvery)
    (ends : Ends (t.SaveDue saveEvery) store (t.cycle batch) r t') (worked : r = .ok ()) :
    Kept saveEvery t' := by
  cases ends with
  | notDue early => exact kept.cycle pos early
  | saved now ran => exact kept.saved pos _
  | failed now ran transient => exact kept.failed _
  | ended => cases worked

end Tally

namespace ControlLoop

open Step

variable {around : Surroundings} {config : DaemonConfig} {l l' start : ControlLoop} {h h' h₀ : Host}
  {n : Nat} {reloads : Bool}

def tally (l : ControlLoop) : Tally where
  cycles := l.cycles
  batches := l.batches
  unsavedBatches := l.ledger.batches
  unsaved := l.unsaved
  retrySave := l.retrySave
  saves := l.events.filterMap LoopEvent.save?

/-! ### What the parts of a pass do to the tally -/

/-- Events that are neither batches nor saves do not count. -/
theorem tally_of_others {es : List LoopEvent} (cycles : l'.cycles = l.cycles)
    (unsaved : l'.unsaved = l.unsaved) (retrySave : l'.retrySave = l.retrySave)
    (events : l'.events = l.events ++ es) (others : ∀ e ∈ es, e.batch? = none ∧ e.save? = none) :
    l'.tally = l.tally := by
  have same := Ledger.foldl_next_batches l.ledger others
  have batches := batches_of_others events fun e member => (others e member).1
  have saves : es.filterMap LoopEvent.save? = [] :=
    List.filterMap_eq_nil_iff.mpr fun e member => (others e member).2
  rw [tally, tally, cycles, unsaved, retrySave, batches, ledger, events, List.foldl_append,
    List.filterMap_append, saves, List.append_nil, ← same]
  rfl

theorem tally_appendBatch (batch : List CheckRecord) (l : ControlLoop) :
    (appendBatch batch l).tally = l.tally.cycle batch := by
  have ledger : (appendBatch batch l).ledger = l.ledger.next (.batch batch) := ledger_of_append rfl
  rw [tally, batches_appendBatch, ledger]
  simp [appendBatch, Tally.cycle, tally, Ledger.next, LoopEvent.save?]

theorem tally_of_quiet (calm : Quiet l l') (retrySave : l'.retrySave = l.retrySave) :
    l'.tally = l.tally := by
  obtain ⟨es, quiet, events⟩ := calm.events
  refine tally_of_others calm.cycles calm.unsaved retrySave events fun e member => ?_
  exact ⟨LoopEvent.batch?_of_isQuiet (quiet e member), LoopEvent.save?_of_isQuiet (quiet e member)⟩

theorem tally_waitForBoundary {r : Except LoopError (Option Int)}
    (ran : (waitForBoundary around).run l h = (r, l', h')) : Quiet l l' ∧ l'.tally = l.tally := by
  have calm := (Calm.keeps_waitForBoundary.result (Calm.refl l h) ran).1
  refine ⟨calm, tally_of_quiet calm ?_⟩
  cases waitForBoundary_waited ran with
  | unplanned e => rfl
  | broken slept => rfl
  | interrupted m slept heard woken =>
    subst heard
    rfl
  | elapsed m n found slept heard undisturbed left =>
    subst heard left
    rfl

/-- A cycle fails before its batch, or it brings all that its checks gave. -/
theorem tally_produce {timestamp : Int} {r : Except LoopError Unit}
    (ran : (produce around timestamp).run l h = (r, l', h')) :
    (∃ e, r = .error e ∧ l'.tally = l.tally) ∨
      ∃ batch, r = .ok () ∧ l'.config = l.config ∧ l'.store = l.store.map (fun s => s.append batch) ∧
        l'.tally = l.tally.cycle batch ∧
        Cycle.Gives l.config (around.transport (l.cycles + 1)) timestamp batch := by
  have begun := Quiet.beginCycle timestamp l
  cases produce_produced ran with
  | unchecked checked => exact .inl ⟨_, rfl, tally_of_quiet begun rfl⟩
  | broken checked heard => exact .inl ⟨_, rfl, tally_of_quiet begun rfl⟩
  | @appended batch rs k _ checked heard =>
    refine .inr ⟨batch, rfl, rfl, rfl, ?_, h, k, checked⟩
    rw [tally_appendBatch, tally_of_quiet (begun.trans (.receive rs _)) rfl]

/-- A reload changes nothing about it. -/
theorem tally_reload {r : Except LoopError Unit} (ran : reload.run l h = (r, l', h')) :
    l'.tally = l.tally := by
  cases reload_effect silence ran with
  | quiet idle => cases idle
  | reloaded =>
    exact tally_of_others rfl rfl rfl rfl (by simp [LoopEvent.batch?, LoopEvent.save?])
  | notReloaded =>
    exact tally_of_others rfl rfl rfl rfl (by simp [LoopEvent.batch?, LoopEvent.save?])

/-- Before the end, a failure that may pass sets the flag. -/
theorem tally_save {r : Except LoopError Unit} (ran : (save false).run l h = (r, l', h')) :
    (∃ s k, (l.store.getD {}).save.run h = (.ok s, k) ∧ r = .ok () ∧
      l'.tally = l.tally.saved s.records) ∨
    ∃ e k, (l.store.getD {}).save.run h = (.error e, k) ∧
      ((e.isTransient = true ∧ r = .ok () ∧ l'.tally = l.tally.failed e true) ∨
        (e.isTransient = false ∧ r = .error (.store e) ∧
          l'.tally = l.tally.failed e l.tally.retrySave)) := by
  have noted (e : StoreError) (retrySave : Bool) (l' : ControlLoop)
      (same : l' = { l with events := l.events ++ [.save false (.error e)], retrySave }) :
      l'.tally = l.tally.failed e retrySave := by
    subst same
    rw [tally, ledger_of_append rfl, batches_of_append rfl]
    simp [Tally.failed, tally, Ledger.next, LoopEvent.batch?, LoopEvent.save?]
  simp only [save, run_bind, run_theStore, run_attempt] at ran
  rcases saving : (l.store.getD {}).save.run h with ⟨e | s, k⟩
  · rw [saving] at ran
    dsimp only at ran
    rw [run_bind, run_record] at ran
    refine .inr ⟨e, k, rfl, ?_⟩
    cases passing : e.isTransient with
    | true =>
      rw [passing] at ran
      cases ran
      exact .inl ⟨rfl, rfl, noted e true _ rfl⟩
    | false =>
      rw [passing] at ran
      cases ran
      exact .inr ⟨rfl, rfl, noted e l.retrySave _ rfl⟩
  · rw [saving] at ran
    cases ran
    refine .inl ⟨s, k, rfl, rfl, ?_⟩
    rw [tally, ledger_of_append rfl, batches_of_append rfl]
    simp [Tally.saved, tally, Ledger.next, LoopEvent.batch?, LoopEvent.save?]

theorem isSaveDue_iff {t : Tally} {batch : List CheckRecord} (cycled : l.tally = t.cycle batch) :
    l.isSaveDue = true ↔ t.SaveDue l.config.saveEvery := by
  have cycles : l.cycles = t.cycles + 1 := congrArg Tally.cycles cycled
  have flag : l.retrySave = t.retrySave := congrArg Tally.retrySave cycled
  rw [isSaveDue, Tally.SaveDue, flag, cycles, Int.dvd_iff_emod_eq_zero]
  simp

theorem saveIfDue_ends {t : Tally} {batch : List CheckRecord} {r : Except LoopError Unit}
    (cycled : l.tally = t.cycle batch) (ran : saveIfDue.run l h = (r, l', h')) :
    Tally.Ends (t.SaveDue l.config.saveEvery) l.store (t.cycle batch) r l'.tally := by
  have due := isSaveDue_iff cycled
  rcases saveIfDue_cases ran with ⟨now, saving⟩ | ⟨early, rfl, rfl⟩
  · rw [due] at now
    rw [← cycled]
    rcases tally_save saving with ⟨s, k, saved, rfl, after⟩ | ⟨e, k, failed, outcome⟩
    · rw [after]
      exact .saved now saved
    · rcases outcome with ⟨transient, rfl, after⟩ | ⟨fatal, rfl, after⟩
      · rw [after]
        exact .failed now failed transient
      · rw [after]
        exact .ended now failed fatal
  · rw [cycled]
    refine .notDue fun now => ?_
    rw [due.mpr now] at early
    cases early

/-- What a pass without a reload comes to: its cycle has the number after the last one, and brings all
that its checks give. -/
inductive Pass (around : Surroundings) (l : ControlLoop) (h : Host) : Except LoopError Unit → Tally → Prop
  /-- A request has cut the wait short. -/
  | awake (woken : ((waitForBoundary around).run l h).1 = .ok none) : Pass around l h (.ok ()) l.tally
  /-- The run ends at a failure before the batch. -/
  | broken (e : LoopError) : Pass around l h (.error e) l.tally
  | cycle {timestamp : Int} {batch : List CheckRecord} {r : Except LoopError Unit} {t : Tally}
      (reached : ((waitForBoundary around).run l h).1 = .ok (some timestamp))
      (gives : Cycle.Gives l.config (around.transport (l.cycles + 1)) timestamp batch)
      (ends : Tally.Ends (l.tally.SaveDue l.config.saveEvery) (l.store.map fun s => s.append batch)
        (l.tally.cycle batch) r t) : Pass around l h r t

/-- A cycle fails before its batch, or it brings all that its checks gave and saves if that is due. -/
theorem cycle_ends {timestamp : Int} {r : Except LoopError Unit}
    (ran : (cycle around timestamp).run l h = (r, l', h')) :
    (∃ e, r = .error e ∧ l'.tally = l.tally) ∨
      ∃ batch, Cycle.Gives l.config (around.transport (l.cycles + 1)) timestamp batch ∧
        Tally.Ends (l.tally.SaveDue l.config.saveEvery) (l.store.map fun s => s.append batch)
          (l.tally.cycle batch) r l'.tally := by
  obtain ⟨rs, q, x, m, k, produced, outcome⟩ := cycle_cases ran
  have asked := tally_of_quiet (Quiet.receive rs l) rfl
  rcases tally_produce produced with ⟨e, rfl, same⟩ | ⟨batch, rfl, config, store, cycled, gives⟩
  · rcases outcome with ⟨e', failed, rfl, rfl⟩ | ⟨rs', q', worked, -⟩
    · exact .inl ⟨e', rfl, same.trans asked⟩
    · cases worked
  · rcases outcome with ⟨e', failed, -⟩ | ⟨rs', q', -, ended⟩
    · cases failed
    · refine .inr ⟨batch, gives, ?_⟩
      have later := tally_of_quiet (Quiet.receive rs' m) rfl
      rw [asked] at cycled
      have ends := saveIfDue_ends (later.trans cycled) ended
      rwa [show (m.receive rs').config = l.config from config,
        show (m.receive rs').store = _ from store] at ends

theorem waitAndCycle_pass {r : Except LoopError Unit}
    (ran : (waitAndCycle around).run l h = (r, l', h')) : Pass around l h r l'.tally := by
  obtain ⟨x, m, k, waited, outcome⟩ := waitAndCycle_waited ran
  obtain ⟨calm, tally⟩ := tally_waitForBoundary waited
  rcases outcome with ⟨e, rfl, rfl, rfl⟩ | ⟨rfl, rfl, rfl⟩ | ⟨timestamp, rfl, cycled⟩
  · rw [tally]
    exact .broken e
  · rw [tally]
    exact .awake (by rw [waited])
  · rcases cycle_ends cycled with ⟨e, rfl, same⟩ | ⟨batch, gives, ends⟩
    · rw [same, tally]
      exact .broken e
    · rw [calm.config, calm.cycles] at gives
      rw [calm.config, calm.store, tally] at ends
      exact .cycle (by rw [waited]) gives ends

/-- A pass clears the flag only by a save that works, which leaves nothing unsaved. -/
theorem Pass.cleared {r : Except LoopError Unit} {t : Tally} (pass : Pass around l h r t)
    (flag : l.retrySave = true) (cleared : t.retrySave = false) : t.unsaved = [] := by
  cases pass with
  | awake woken => exact absurd (flag.symm.trans cleared) nofun
  | broken e => exact absurd (flag.symm.trans cleared) nofun
  | cycle reached gives ends => exact ends.cleared flag cleared

theorem Pass.kept {r : Except LoopError Unit} {t : Tally} (pass : Pass around l h r t)
    (before : l.tally.Kept l.config.saveEvery) (worked : r = .ok ()) :
    t.Kept l.config.saveEvery := by
  cases pass with
  | awake woken => exact before
  | broken e => cases worked
  | cycle reached gives ends => exact before.ends l.config.saveEvery_pos ends worked

/-! ### Whole runs -/

/-- The loop keeps to the count of its configuration. -/
def Cadenced (config : DaemonConfig) (l : ControlLoop) : Prop :=
  l.config = config ∧ l.tally.Kept config.saveEvery

theorem Cadenced.of_same (cadenced : Cadenced config l) (same : l'.config = l.config)
    (tally : l'.tally = l.tally) : Cadenced config l' :=
  ⟨same.trans cadenced.1, tally ▸ cadenced.2⟩

theorem Cadenced.waitAndCycle (cadenced : Cadenced config l)
    (ran : (waitAndCycle around).run l h = (.ok (), l', h')) : Cadenced config l' := by
  obtain ⟨rfl, kept⟩ := cadenced
  exact ⟨waitAndCycle_config ran, (waitAndCycle_pass ran).kept kept rfl⟩

theorem Cadenced.receive (cadenced : Cadenced config l) (rs : List ControlRequest) :
    Cadenced config (l.receive rs) :=
  cadenced.of_same rfl (tally_of_quiet (.receive rs l) rfl)

theorem step_cadenced (around : Surroundings) (config : DaemonConfig) :
    Maintains (fun l _ => Cadenced config l) (fun _ _ _ => True) (step around) := by
  refine step_maintains_of_parts ?_ ?_ ?_
  · exact fun l h before => before.of_same rfl rfl
  · intro l h before
    rcases ran : reload.run l h with ⟨r, l', h'⟩
    have after := before.of_same (reload_effect around ran).config_eq (tally_reload ran)
    cases r with
    | ok _ => exact after
    | error e => trivial
  · intro l h before
    rcases ran : (waitAndCycle around).run l h with ⟨r, l', h'⟩
    cases r with
    | ok _ => exact before.waitAndCycle ran
    | error e => trivial

theorem cadenced_newLoop (config : DaemonConfig) (pid : Int) (requests : List ControlRequest) :
    Cadenced config ((Service.newLoop config pid).receive requests) := by
  have start : Cadenced config (Service.newLoop config pid) :=
    ⟨rfl, rfl, List.nil_suffix, rfl, by simp [Service.newLoop, tally, LoopEvent.save?],
      fun _ => le_refl _⟩
  exact start.receive requests

theorem ComesTo.cadenced (comes : ComesTo around start h₀ n reloads l h)
    (before : Cadenced config start) : Cadenced config l := by
  have entered : Maintains (fun l _ => Cadenced config l) (fun _ _ _ => True) (interlude around) :=
    fun l h before => before.receive _
  refine comes.of_maintains (P := fun l _ => Cadenced config l) (fun opened => ?_)
    (steps_maintains_of_step entered (step_cadenced around config) n) entered
    fun l h before => before.of_same rfl rfl
  rcases openStore_cases opened with ⟨e, failed, -⟩ | ⟨s, k, -, -, -, rfl⟩
  · cases failed
  · exact before.of_same rfl
      (tally_of_others rfl rfl rfl rfl (by simp [LoopEvent.batch?, LoopEvent.save?]))

theorem notMem_newLoop (config : DaemonConfig) (pid : Int) (requests : List ControlRequest)
    (batch : List CheckRecord) :
    .batch batch ∉ ((Service.newLoop config pid).receive requests).events := by
  simp [Service.newLoop, ControlLoop.receive]

/-- Every batch of a run comes from a pass that the run comes to, and that is no reload. -/
theorem run_addsBatch {fuel : Nat} {r : Except LoopError (Option Nat)} {past : List LoopEvent}
    {batch : List CheckRecord} (ran : (run around fuel).run start h₀ = (r, l', h'))
    (fresh : .batch batch ∉ start.events) (whole : past ++ [.batch batch] <+: l'.events) :
    ∃ n l h, n < fuel ∧ ComesTo around start h₀ n false l h ∧
      Adds (waitAndCycle around) l h past (.batch batch) := by
  rcases within_or_concat_within (run_extends ran) whole with before | old
  · obtain ⟨n, reloads, l, h, less, comes, r', i, k, passed, old, new⟩ :=
      run_adds ran before rfl whole
    cases reloads with
    | true =>
      rw [if_pos rfl] at passed
      rw [reload_events around passed] at new
      cases List.mem_singleton.mp (mem_of_concat_within old new)
    | false => exact ⟨n, l, h, less, comes, r', i, k, passed, old, new⟩
  · exact absurd (old.subset (List.mem_append_right _ (List.mem_singleton_self _))) fresh

/-- After every cycle of a run that is completed, the last save that was tried has failed and the flag is
set, or the unsaved records are those of fewer batches than cycles between two saves, and there are none if
the count is a multiple. The batches are all that the checks of their cycles gave, one after the other. A
cycle tries a save exactly if the flag is set or the count becomes a multiple; one that works clears the
flag and leaves nothing unsaved. A reload changes nothing about it. -/
theorem save_cadence (around : Surroundings) (config : DaemonConfig) (pid : Int)
    (requests : List ControlRequest) (h₀ : Host) :
    (∀ n l h, ComesTo around ((Service.newLoop config pid).receive requests) h₀ n false l h →
      l.config = config ∧ l.tally.Kept config.saveEvery ∧
        EachGives around config l.cycleTimes l.batches ∧
        ∀ r l' h', (waitAndCycle around).run l h = (r, l', h') →
          Pass around l h r l'.tally ∧
          (r = .ok () → l'.tally.Kept config.saveEvery ∧
            EachGives around config l'.cycleTimes l'.batches ∧
            ((l'.retrySave = true ∧ ∃ e, l'.tally.saves.getLast? = some (.error e)) ∨
              l'.unsaved = l'.tally.unsavedBatches.flatten ∧
                (l'.tally.unsavedBatches.length : Int) ≤ config.saveEvery - 1 ∧
                (config.saveEvery ∣ l'.cycles → l'.tally.unsavedBatches = [])))) ∧
    (∀ n l h, ComesTo around ((Service.newLoop config pid).receive requests) h₀ n true l h →
      l.tally.Kept config.saveEvery ∧
        ∀ r l' h', reload.run l h = (r, l', h') → l'.tally = l.tally) ∧
    ∀ fuel r l' h' past batch,
      (run around fuel).run ((Service.newLoop config pid).receive requests) h₀ = (r, l', h') →
      past ++ [.batch batch] <+: l'.events →
      ∃ n l h, n < fuel ∧
        ComesTo around ((Service.newLoop config pid).receive requests) h₀ n false l h ∧
        Adds (waitAndCycle around) l h past (.batch batch) := by
  have start := cadenced_newLoop config pid requests
  have attentive := attentive_newLoop config pid requests
  have fresh := accounted_newLoop around config pid requests
  refine ⟨fun n l h comes => ?_, fun n l h comes => ?_, fun fuel r l' h' past batch ran whole => ?_⟩
  · have before := comes.cadenced start
    have accounted := comes.accounted fresh
    obtain ⟨obedient, outlook⟩ := comes.outlook_eq attentive
    have idle : l.outlook.stage = .idle := by rw [outlook]
    refine ⟨before.1, before.2, (accounted.eachGives obedient idle).2,
      fun r l' h' ran => ⟨waitAndCycle_pass ran, ?_⟩⟩
    rintro rfl
    have after := (before.waitAndCycle ran).2
    have heeds := comes.waitAndCycle_attentive attentive ran
    have idle' : l'.outlook.stage = .idle := by rw [heeds.outlook_eq]
    exact ⟨after, ((waitAndCycle_accounted accounted ran).eachGives heeds.obedient idle').2,
      after.secured config.saveEvery_pos⟩
  · exact ⟨(comes.cadenced start).2, fun r l' h' ran => tally_reload ran⟩
  · exact run_addsBatch ran (notMem_newLoop config pid requests batch) whole

/-- The file is a directory from the second cycle to the third. -/
def balky : Surroundings :=
  { silence with
    afterChecks := fun number => do
      if number = 2 then Action.setFiles ⟨[(["checks"], .directory)]⟩
      else if number = 3 then Action.setFiles {}
      return [] }

/-- All four checks, and a save after every second cycle. -/
def savingEverySecond : DaemonConfig :=
  { Cycle.everyCheck with saveEvery := 2, saveEvery_pos := by decide }

/-- After two cycles the save fails, and eight records are unsaved. The third cycle tries it again before
it would be due, and nothing is unsaved after it. -/
theorem save_cadence_balky :
    ∃ l h l' h',
      ComesTo balky ((Service.newLoop savingEverySecond 1).receive []) {} 2 false l h ∧
      l.retrySave = true ∧ l.unsaved.length = 8 ∧ l.cycleTimes = [60, 120] ∧
      EachGives balky savingEverySecond l.cycleTimes l.batches ∧
      (waitAndCycle balky).run l h = (.ok (), l', h') ∧ l'.cycles = 3 ∧ l'.unsaved = [] := by
  let arrived := (untilPass balky 2).run ((Service.newLoop savingEverySecond 1).receive []) {}
  have comes : ComesTo balky ((Service.newLoop savingEverySecond 1).receive []) {} 2 false
      arrived.2.1 arrived.2.2 := Prod.ext (by decide +kernel) rfl
  have flag : arrived.2.1.retrySave = true := by decide +kernel
  have pending : arrived.2.1.unsaved.length = 8 := by decide +kernel
  have times : arrived.2.1.cycleTimes = [60, 120] := by decide +kernel
  have worked : ((waitAndCycle balky).run arrived.2.1 arrived.2.2).1 = .ok () := by decide +kernel
  have cycles : ((waitAndCycle balky).run arrived.2.1 arrived.2.2).2.1.cycles = 3 := by
    decide +kernel
  have cleared : ((waitAndCycle balky).run arrived.2.1 arrived.2.2).2.1.retrySave = false := by
    decide +kernel
  obtain ⟨-, -, gives, passes⟩ := (save_cadence balky savingEverySecond 1 [] {}).1 2 _ _ comes
  obtain ⟨pass, -⟩ := passes _ _ _ rfl
  exact ⟨_, _, _, _, comes, flag, pending, times, gives, Prod.ext worked rfl, cycles,
    pass.cleared flag cleared⟩

end ControlLoop
end LinkMonitor
